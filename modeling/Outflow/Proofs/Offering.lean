import Mathlib.Data.List.Forall2
import Mathlib.Data.List.Infix
import Outflow.Proofs.Store
import Outflow.Transport.Descriptor

/-! What a transport is offered, what it takes of that, and what is left over are parts of one stream, wherever the
empty buffers are and wherever a count ends. -/
namespace Outflow

/-! ### Cursors -/

namespace Buffer

theorem remaining_drop (count : Nat) (b : Buffer) : (b.drop count).remaining = b.remaining - count := by
  rw [← length_unsent, unsent_drop, List.length_drop, length_unsent]

theorem drop_drop (m n : Nat) (b : Buffer) : (b.drop n).drop m = b.drop (n + m) := by
  cases b <;> simp [drop, Primary.drop, Chunk.drop, Nat.add_assoc]

end Buffer

theorem length_dropAll (count : Nat) (bufs : List Buffer) : (dropAll count bufs).length = bufs.length := by
  induction bufs generalizing count with
  | nil => rfl
  | cons b bufs ih => simp [dropAll, ih]

/-- A cursor only moves on. -/
theorem dropAll_suffix (count : Nat) (bufs : List Buffer) :
    List.Forall₂ (fun before after => after.unsent <:+ before.unsent) bufs (dropAll count bufs) := by
  induction bufs generalizing count with
  | nil => exact .nil
  | cons b bufs ih =>
    refine .cons ?_ (ih _)
    rw [Buffer.unsent_drop]
    exact List.drop_suffix _ _

/-- Two counts, one after the other, end where their sum ends. -/
theorem dropAll_dropAll (m n : Nat) (bufs : List Buffer) : dropAll m (dropAll n bufs) = dropAll (n + m) bufs := by
  induction bufs generalizing m n with
  | nil => rfl
  | cons b bufs ih =>
    have hfirst : min n b.remaining + min m (b.remaining - min n b.remaining) = min (n + m) b.remaining := by omega
    have hrest : n - min n b.remaining + (m - min m (b.remaining - min n b.remaining))
        = n + m - min (n + m) b.remaining := by omega
    simp only [dropAll, Buffer.remaining_drop, Buffer.drop_drop, ih, hfirst, hrest]

/-- Bytes beyond the end of a write are not missed. -/
theorem dropAll_min_remainingIn (count : Nat) (bufs : List Buffer) :
    dropAll (min count (remainingIn bufs)) bufs = dropAll count bufs := by
  induction bufs generalizing count with
  | nil => rfl
  | cons b bufs ih =>
    have hfirst : min (min count (b.remaining + remainingIn bufs)) b.remaining = min count b.remaining := by omega
    have hrest : min count (b.remaining + remainingIn bufs) - min count b.remaining
        = min (count - min count b.remaining) (remainingIn bufs) := by omega
    rw [dropAll, remainingIn, hfirst, hrest, ih, dropAll]

/-! ### Offers -/

theorem remainingIn_eq_length (bufs : List Buffer) : remainingIn bufs = (bufs.flatMap Buffer.unsent).length := by
  induction bufs with
  | nil => rfl
  | cons b bufs ih => simp [remainingIn, ih]

/-- What a writer is offered is the whole stream of the buffers. -/
theorem unsent_slices (bufs : List Buffer) : (slices bufs).flatMap Chunk.unsent = bufs.flatMap Buffer.unsent := by
  simp [slices, List.flatMap_map, flatMap_unsent_filter]

theorem unsent_ne_nil_of_mem_slices {bufs : List Buffer} {c : Chunk} (h : c ∈ slices bufs) : c.unsent ≠ [] := by
  obtain ⟨b, hb, rfl⟩ := List.mem_map.1 h
  rw [Buffer.unsent_toChunk]
  exact Buffer.hasRemaining_iff.1 (List.mem_filter.1 hb).2

theorem slices_cons_of_hasRemaining {b : Buffer} (bufs : List Buffer) (h : b.hasRemaining = true) :
    slices (b :: bufs) = b.toChunk :: slices bufs := by
  simp [slices, h]

theorem slices_cons_of_empty {b : Buffer} (bufs : List Buffer) (h : b.hasRemaining = false) :
    slices (b :: bufs) = slices bufs := by
  simp [slices, h]

/-- After a write of the first `k` slices the next offer goes on with the slice that was cut off first. -/
theorem slices_dropAll_take (k : Nat) (bufs : List Buffer) :
    slices (dropAll (Chunk.total ((slices bufs).take k)) bufs) = (slices bufs).drop k := by
  induction bufs generalizing k with
  | nil => simp [dropAll, slices]
  | cons b bufs ih =>
    cases hb : b.hasRemaining with
    | false =>
      have hzero : b.remaining = 0 := by
        rw [← b.length_unsent, Buffer.hasRemaining_eq_false_iff.1 hb, List.length_nil]
      simp only [slices_cons_of_empty _ hb, dropAll, hzero, Nat.min_zero, Nat.sub_zero, Buffer.drop_zero, ih]
    | true =>
      cases k with
      | zero => simp [Chunk.total]
      | succ k =>
        have hempty : (b.drop b.remaining).hasRemaining = false := by
          rw [Buffer.hasRemaining_eq_false_iff, Buffer.unsent_drop, ← b.length_unsent, List.drop_length]
        have htotal : Chunk.total ((slices (b :: bufs)).take (k + 1))
            = b.remaining + Chunk.total ((slices bufs).take k) := by
          rw [slices_cons_of_hasRemaining _ hb, List.take_succ_cons, Chunk.total, ← Chunk.length_unsent,
            Buffer.unsent_toChunk, Buffer.length_unsent]
        rw [htotal, dropAll, Nat.min_eq_right (Nat.le_add_right _ _), Nat.add_sub_cancel_left,
          slices_cons_of_empty _ hempty, slices_cons_of_hasRemaining _ hb, List.drop_succ_cons, ih]

/-- What a transport is offered is the unsent stream without any empty slice, and the first slices of it are the first
bytes. Counting off what was written leaves the rest of that stream in the same number of buffers. It does not matter
whether this is done at once or bit by bit, and nothing happens beyond the end. -/
theorem offered_stream (bufs : List Buffer) (k n : Nat) :
    (slices bufs).flatMap Chunk.unsent = bufs.flatMap Buffer.unsent ∧
    ((slices bufs).flatMap Chunk.unsent).length = remainingIn bufs ∧
    (∀ c ∈ slices bufs, c.unsent ≠ []) ∧
    ((slices bufs).take k).flatMap Chunk.unsent <+: bufs.flatMap Buffer.unsent ∧
    ∃ left, advanceAll n bufs = .ok left ∧ left.length = bufs.length ∧
      List.Forall₂ (fun before after => after.unsent <:+ before.unsent) bufs left ∧
      left.flatMap Buffer.unsent = (bufs.flatMap Buffer.unsent).drop (min n (remainingIn bufs)) ∧
      ∀ m, advanceAll m left = advanceAll (n + m) bufs := by
  refine ⟨unsent_slices bufs, ?_, fun c hc => unsent_ne_nil_of_mem_slices hc, ?_, dropAll n bufs, advanceAll_eq n bufs,
    length_dropAll n bufs, dropAll_suffix n bufs, ?_, ?_⟩
  · rw [unsent_slices, remainingIn_eq_length]
  · rw [← unsent_slices]
    exact List.IsPrefix.flatMap (List.take_prefix k _) _
  · rw [← unsent_dropAll, dropAll_min_remainingIn]
  · intro m
    rw [advanceAll_eq, advanceAll_eq, dropAll_dropAll]

/-! ### What arrives -/

namespace Record

variable {r : Record} {bufs : List Buffer}

/-- The stream that the far end of a transport has got. -/
def bytes (r : Record) : List UInt8 := r.toByteArray.data.toList

theorem bytes_cons (pieces : List (Chunk × Nat)) (c : Chunk) (count size size' : Nat) :
    ({ pieces := (c, count) :: pieces, size } : Record).bytes
      = ({ pieces, size := size' } : Record).bytes ++ c.unsent.take count := by
  simp [bytes, toByteArray, List.foldl_append, Chunk.unsent, List.extract_eq_take_drop]

theorem add_zero (r : Record) (bufs : List Buffer) : r.add 0 bufs = r := by
  cases bufs <;> simp [add]

/-- The far end gets the first bytes of what it is sent. -/
theorem bytes_add (r : Record) (count : Nat) (bufs : List Buffer) :
    (r.add count bufs).bytes = r.bytes ++ (bufs.flatMap Buffer.unsent).take count := by
  induction bufs generalizing r count with
  | nil => simp [add]
  | cons b bufs ih =>
    unfold add
    split
    · next h => simp [h]
    · have hlen := b.length_unsent
      have hcount : count - min count b.remaining = count - b.unsent.length := by omega
      have htake : b.unsent.take (min count b.remaining) = b.unsent.take count := by
        rw [← hlen, ← List.take_take, List.take_length]
      simp only [ih, hcount, List.flatMap_cons, List.take_append, bytes_cons _ _ _ _ r.size,
        Buffer.unsent_toChunk, htake, List.append_assoc]

end Record

namespace Descriptor

variable {d : Descriptor} (hopen : d.peerClosed = false) (htarget : d.target = .socket ∨ d.target = .pipe)
include hopen htarget

theorem write_eq (bufs : List Buffer) :
    let count := Chunk.total ((slices bufs).take maxSlices)
    d.write bufs = (.ok count, { d with unread := d.unread.add count bufs }) := by
  unfold write
  split
  · next hnone => simp [hnone, Chunk.total, Record.add_zero]
  · next hsome =>
    rcases htarget with htarget | htarget <;> simp [hsome, hopen, htarget]

/-- An attempt on a socket or a pipe with its peer there takes what is offered. The peer gets it, and all that the next
attempt offers is what was cut off from this one. -/
theorem write_open (bufs : List Buffer) :
    ∃ count unread left, d.write bufs = (.ok (count : Nat), { d with unread }) ∧ advanceAll count bufs = .ok left ∧
      slices left = (slices bufs).drop maxSlices ∧
      unread.bytes ++ left.flatMap Buffer.unsent = d.unread.bytes ++ bufs.flatMap Buffer.unsent := by
  refine ⟨_, _, _, write_eq hopen htarget bufs, advanceAll_eq _ _, slices_dropAll_take _ _, ?_⟩
  rw [Record.bytes_add, unsent_dropAll, List.append_assoc, List.take_append_drop]

end Descriptor

end Outflow
