import Mathlib.Logic.Basic
import Outflow.Connection

/-! Buffers seen as streams: what filling, sending and counting off does to their unsent bytes. -/
namespace Outflow

namespace Chunk

variable {c : Chunk} {n : Nat}

theorem hasRemaining_iff_unsent : c.hasRemaining = true ↔ c.unsent ≠ [] := by
  rw [hasRemaining_iff, ← List.length_pos_iff, length_unsent]

@[simp]
theorem hasRemaining_eq_false_iff : c.hasRemaining = false ↔ c.unsent = [] := by
  rw [← Bool.not_eq_true, hasRemaining_iff_unsent, not_not]

theorem advance_of_le (h : n ≤ c.remaining) : c.advance n = .ok (c.drop n) := by
  simp [advance, h]

end Chunk

namespace Primary

variable {p : Primary} {src : Chunk} {n : Nat}

theorem hasRemaining_iff : p.hasRemaining = true ↔ p.unsent ≠ [] := by
  rw [← List.length_pos_iff, length_unsent]
  simp only [hasRemaining, remaining, decide_eq_true_eq]
  omega

@[simp]
theorem hasRemaining_eq_false_iff : p.hasRemaining = false ↔ p.unsent = [] := by
  rw [← Bool.not_eq_true, hasRemaining_iff, not_not]

/-- The buffer with its cursor further on. -/
def drop (p : Primary) (count : Nat) : Primary := { p with pos := p.pos + count }

theorem advance_of_le (h : n ≤ p.remaining) : p.advance n = .ok (p.drop n) := by
  simp [advance, h, drop]

@[simp]
theorem unsent_drop (p : Primary) (count : Nat) : (p.drop count).unsent = p.unsent.drop count := by
  simp [unsent, drop]

@[simp]
theorem unsent_clear (p : Primary) : p.clear.unsent = [] := by
  simp [unsent, clear]

@[simp]
theorem unsent_new (capacity : Nat) : ({ capacity } : Primary).unsent = [] := unsent_clear { capacity }

theorem wellFormed_new (capacity : Nat) : ({ capacity } : Primary).WellFormed := by
  simp [WellFormed]

theorem wellFormed_clear (p : Primary) : p.clear.WellFormed := wellFormed_new p.capacity

theorem wellFormed_drop (h : p.WellFormed) (hn : n ≤ p.remaining) : (p.drop n).WellFormed := by
  obtain ⟨hpos, hlen⟩ := h
  simp only [remaining] at hn
  simp only [WellFormed, drop]
  omega

/-- The buffer that a transfer fills up: a buffer that was sent completely starts anew. -/
def base (p : Primary) : Primary := if p.pos = p.filled.size then p.clear else p

theorem unsent_base (p : Primary) : p.base.unsent = p.unsent := by
  unfold base
  split
  · next h => simp [unsent, clear, h]
  · rfl

theorem wellFormed_base (h : p.WellFormed) : p.base.WellFormed := by
  unfold base
  split
  · exact wellFormed_clear p
  · exact h

@[simp]
theorem capacity_base (p : Primary) : p.base.capacity = p.capacity := by
  unfold base
  split <;> rfl

theorem transfer_eq (p : Primary) (src : Chunk) : p.transfer src =
    let count := min src.remaining p.base.spare
    ({ p.base with filled := p.base.filled ++ src.bytes.extract src.pos (src.pos + count) }, count) := rfl

@[simp]
theorem capacity_transfer (p : Primary) (src : Chunk) : (p.transfer src).1.capacity = p.capacity := by
  simp [transfer_eq]

theorem transfer_le_remaining (p : Primary) (src : Chunk) : (p.transfer src).2 ≤ src.remaining :=
  Nat.min_le_left _ _

theorem unsent_transfer (h : p.WellFormed) (src : Chunk) :
    (p.transfer src).1.unsent = p.unsent ++ src.unsent.take (p.transfer src).2 := by
  rw [← unsent_base p, transfer_eq]
  have hle : p.base.pos ≤ p.base.filled.data.toList.length := by simpa using (wellFormed_base h).1
  simp [unsent, Chunk.unsent, List.drop_append_of_le_length hle, List.extract_eq_take_drop]

theorem wellFormed_transfer (h : p.WellFormed) (src : Chunk) : (p.transfer src).1.WellFormed := by
  obtain ⟨hpos, hlen⟩ := wellFormed_base h
  rw [transfer_eq]
  simp only [WellFormed, spare, ByteArray.size_append, ByteArray.size_extract]
  omega

end Primary

namespace Buffer

variable {b : Buffer} {n capacity : Nat}

/-- The buffer with its cursor further on. -/
def drop (count : Nat) : Buffer → Buffer
  | primary p => primary (p.drop count)
  | chunk c => chunk (c.drop count)

theorem hasRemaining_iff : b.hasRemaining = true ↔ b.unsent ≠ [] := by
  cases b
  · exact Primary.hasRemaining_iff
  · exact Chunk.hasRemaining_iff_unsent

@[simp]
theorem hasRemaining_eq_false_iff : b.hasRemaining = false ↔ b.unsent = [] := by
  rw [← Bool.not_eq_true, hasRemaining_iff, not_not]

theorem advance_of_le (h : n ≤ b.remaining) : b.advance n = .ok (b.drop n) := by
  cases b with
  | primary p =>
    have := Primary.advance_of_le h
    simp [advance, this, drop, Functor.map, Except.map]
  | chunk c =>
    have := Chunk.advance_of_le h
    simp [advance, this, drop, Functor.map, Except.map]

@[simp]
theorem unsent_drop (count : Nat) (b : Buffer) : (b.drop count).unsent = b.unsent.drop count := by
  cases b <;> simp [drop, unsent]

@[simp]
theorem drop_zero (b : Buffer) : b.drop 0 = b := by
  cases b <;> rfl

/-- A primary buffer in use is one of the connection's size, with its cursor where there are bytes. -/
def WellFormed (capacity : Nat) : Buffer → Prop
  | primary p => p.WellFormed ∧ p.capacity = capacity
  | chunk _ => True

theorem wellFormed_drop (h : b.WellFormed capacity) (hn : n ≤ b.remaining) : (b.drop n).WellFormed capacity := by
  cases b with
  | primary p => exact ⟨Primary.wellFormed_drop h.1 hn, h.2⟩
  | chunk c => trivial

end Buffer

/-- What is left of `bufs` after the first `count` bytes. -/
def dropAll : Nat → List Buffer → List Buffer
  | _, [] => []
  | count, b :: bufs => b.drop (min count b.remaining) :: dropAll (count - min count b.remaining) bufs

@[simp]
theorem dropAll_zero (bufs : List Buffer) : dropAll 0 bufs = bufs := by
  induction bufs with
  | nil => rfl
  | cons b bufs ih => simp [dropAll, ih]

/-- Counting off never runs past the end of a buffer. -/
theorem advanceAll_eq (count : Nat) (bufs : List Buffer) : advanceAll count bufs = .ok (dropAll count bufs) := by
  induction bufs generalizing count with
  | nil => rfl
  | cons b bufs ih =>
    unfold advanceAll
    split
    · next h => simp [h]
    · dsimp only
      rw [Buffer.advance_of_le (Nat.min_le_right _ _)]
      simp only [ih, dropAll]
      rfl

theorem drop_min_remaining (count : Nat) (b : Buffer) :
    b.unsent.drop (min count b.remaining) = b.unsent.drop count := by
  rcases Nat.le_total count b.remaining with h | h
  · rw [Nat.min_eq_left h]
  · have hlen := b.length_unsent
    rw [Nat.min_eq_right h, List.drop_eq_nil_of_le (by omega), List.drop_eq_nil_of_le (by omega)]

/-- What a write leaves over is its stream without the bytes that were written. -/
theorem unsent_dropAll (count : Nat) (bufs : List Buffer) :
    (dropAll count bufs).flatMap Buffer.unsent = (bufs.flatMap Buffer.unsent).drop count := by
  induction bufs generalizing count with
  | nil => simp [dropAll]
  | cons b bufs ih =>
    have hcount : count - min count b.remaining = count - b.unsent.length := by
      rw [Buffer.length_unsent]
      omega
    simp [dropAll, ih, List.drop_append, drop_min_remaining, hcount]

theorem wellFormed_dropAll {capacity : Nat} (count : Nat) {bufs : List Buffer}
    (h : ∀ b ∈ bufs, b.WellFormed capacity) : ∀ b ∈ dropAll count bufs, b.WellFormed capacity := by
  induction bufs generalizing count with
  | nil => simp [dropAll]
  | cons b bufs ih =>
    simp only [dropAll, List.forall_mem_cons] at h ⊢
    exact ⟨Buffer.wellFormed_drop h.1 (Nat.min_le_right _ _), ih _ h.2⟩

theorem flatMap_unsent_filter (bufs : List Buffer) :
    (bufs.filter Buffer.hasRemaining).flatMap Buffer.unsent = bufs.flatMap Buffer.unsent := by
  induction bufs with
  | nil => rfl
  | cons b bufs ih => cases h : b.hasRemaining <;> simp_all

end Outflow
