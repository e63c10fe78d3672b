import Mathlib.Algebra.Ring.Nat
import Outflow.Proofs.Store

/-! A store as a queue of bytes, whatever was done with it before. -/
namespace Outflow

instance (p : Primary) : Decidable p.WellFormed := inferInstanceAs (Decidable (_ ∧ _))

/-- The cursor of a primary buffer is where there are bytes. A chunk has no further rule. -/
def Buffer.Sound : Buffer → Prop
  | primary p => p.WellFormed
  | chunk _ => True

instance : DecidablePred Buffer.Sound
  | .primary p => inferInstanceAs (Decidable p.WellFormed)
  | .chunk _ => inferInstanceAs (Decidable True)

namespace Store

variable {s : Store} {src : Chunk} {p : Primary} {b : Buffer} {bufs leftovers : List Buffer} {chunks : List Chunk}

/-! ### What every operation keeps -/

theorem consistent_empty (capacity : Nat) : (empty capacity).Consistent := (wellFormed_empty capacity).consistent

theorem consistent_transfer (h : s.Consistent) (src : Chunk) : (s.transfer src).1.Consistent := by
  unfold transfer
  split
  · next p hp =>
    refine ⟨?_, h.length, h.nonempty⟩
    rintro q ⟨⟩
    exact Primary.wellFormed_transfer (h.primary p hp) src
  · exact h

theorem consistent_append (h : s.Consistent) (src : Chunk) : (s.append src).Consistent := by
  unfold append
  split
  · exact consistent_pushOverflow h src
  · exact consistent_pushOverflow (consistent_transfer h src) _

theorem consistent_takeOverflow (h : s.Consistent) : s.takeOverflow.1.Consistent := ⟨h.primary, rfl, by simp⟩

theorem consistent_takePrimaryIfPending (h : s.Consistent) : s.takePrimaryIfPending.1.Consistent := by
  obtain ⟨p, -, -, heq⟩ | ⟨-, heq⟩ := s.takePrimaryIfPending_cases
  · rw [heq]
    exact ⟨by simp, h.length, h.nonempty⟩
  · rwa [heq]

theorem consistent_restorePrimary (h : s.Consistent) (hp : p.WellFormed) : (s.restorePrimary p).Consistent := by
  unfold restorePrimary
  split
  · exact h
  · refine ⟨?_, h.length, h.nonempty⟩
    rintro q ⟨⟩
    exact hp

theorem consistent_reclaim (h : s.Consistent) (hb : b.Sound) : (s.reclaim b).Consistent := by
  cases b with
  | primary p =>
    simp only [reclaim]
    split
    · exact consistent_restorePrimary h hb
    · exact consistent_restorePrimary h p.wellFormed_clear
  | chunk c => exact h

theorem consistent_foldl_reclaim (h : s.Consistent) (hb : ∀ b ∈ bufs, b.Sound) :
    (bufs.foldl reclaim s).Consistent := by
  induction bufs generalizing s with
  | nil => exact h
  | cons b bufs ih =>
    rw [List.forall_mem_cons] at hb
    exact ih (consistent_reclaim h hb.1) hb.2

theorem consistent_drain (h : s.Consistent) (hb : ∀ b ∈ leftovers, b.Sound) : (s.drain leftovers).1.Consistent := by
  rw [drain_fst]
  apply consistent_takeOverflow
  apply consistent_foldl_reclaim (consistent_takePrimaryIfPending h)
  exact fun b hm => hb b (List.mem_filter.1 hm).1

theorem consistent_ensurePrimary (h : s.Consistent) : s.ensurePrimary.Consistent := by
  unfold ensurePrimary
  split
  · exact h
  · refine ⟨?_, h.length, h.nonempty⟩
    rintro p ⟨⟩
    exact Primary.wellFormed_new _

theorem consistent_discard (s : Store) : s.discard.1.Consistent := by
  refine ⟨?_, rfl, by simp⟩
  simp only [discard, Option.map_eq_some_iff]
  rintro q ⟨p, -, rfl⟩
  exact p.wellFormed_clear

/-- What can be done with a store, with what is given to it. -/
inductive Operation
  | append (src : Chunk)
  | transfer (src : Chunk)
  | pushOverflow (src : Chunk)
  | requeueFront (chunks : List Chunk)
  | drain (leftovers : List Buffer)
  | takeOverflow
  | takePrimaryIfPending
  | reclaim (b : Buffer)
  | unload (p : Primary)
  | restorePrimary (p : Primary)
  | ensurePrimary
  | discard

namespace Operation

/-- The store afterwards. -/
def apply (s : Store) : Operation → Store
  | append src => s.append src
  | transfer src => (s.transfer src).1
  | pushOverflow src => s.pushOverflow src
  | requeueFront chunks => s.requeueFront chunks
  | drain leftovers => (s.drain leftovers).1
  | takeOverflow => s.takeOverflow.1
  | takePrimaryIfPending => s.takePrimaryIfPending.1
  | reclaim b => s.reclaim b
  | unload p => (s.unload p).1
  | restorePrimary p => s.restorePrimary p
  | ensurePrimary => s.ensurePrimary
  | discard => s.discard.1

/-- The buffers that are given are sound ones, and no chunk that is put before the queue is empty. -/
def Admissible : Operation → Prop
  | requeueFront chunks => ∀ c ∈ chunks, c.hasRemaining = true
  | drain leftovers => ∀ b ∈ leftovers, b.Sound
  | reclaim b => b.Sound
  | unload p | restorePrimary p => p.WellFormed
  | append _ | transfer _ | pushOverflow _ | takeOverflow | takePrimaryIfPending | ensurePrimary | discard => True

instance : DecidablePred Admissible
  | requeueFront chunks => inferInstanceAs (Decidable (∀ c ∈ chunks, c.hasRemaining = true))
  | drain leftovers => inferInstanceAs (Decidable (∀ b ∈ leftovers, b.Sound))
  | reclaim b => inferInstanceAs (Decidable b.Sound)
  | unload p | restorePrimary p => inferInstanceAs (Decidable p.WellFormed)
  | append _ | transfer _ | pushOverflow _ | takeOverflow | takePrimaryIfPending | ensurePrimary | discard =>
    inferInstanceAs (Decidable True)

end Operation

theorem consistent_apply {op : Operation} (h : s.Consistent) (hop : op.Admissible) : (op.apply s).Consistent := by
  cases op with
  | append src => exact consistent_append h src
  | transfer src => exact consistent_transfer h src
  | pushOverflow src => exact consistent_pushOverflow h src
  | requeueFront chunks => exact consistent_requeueFront h hop
  | drain leftovers => exact consistent_drain h hop
  | takeOverflow => exact consistent_takeOverflow h
  | takePrimaryIfPending => exact consistent_takePrimaryIfPending h
  | reclaim b => exact consistent_reclaim h hop
  | unload p => exact consistent_restorePrimary h p.wellFormed_clear
  | restorePrimary p => exact consistent_restorePrimary h hop
  | ensurePrimary => exact consistent_ensurePrimary h
  | discard => exact consistent_discard s

theorem consistent_foldl {ops : List Operation} (h : s.Consistent) (hops : ∀ op ∈ ops, op.Admissible) :
    (ops.foldl Operation.apply s).Consistent := by
  induction ops generalizing s with
  | nil => exact h
  | cons op ops ih =>
    rw [List.forall_mem_cons] at hops
    exact ih (consistent_apply h hops.1) hops.2

/-! ### What an operation does to the stream -/

/-- What a primary buffer that was sent completely is used as again. -/
def emptied? : Buffer → Option Primary
  | .primary p => if p.hasRemaining then none else some p.clear
  | .chunk _ => none

/-- Of several drained primary buffers the first one gets the free place. -/
theorem primary_foldl_reclaim (s : Store) (bufs : List Buffer) :
    ((bufs.filter fun b => !b.hasRemaining).foldl reclaim s).primary
      = s.primary.or (bufs.findSome? emptied?) := by
  induction bufs generalizing s with
  | nil => simp
  | cons b bufs ih =>
    rw [List.filter_cons, List.findSome?_cons]
    cases b with
    | chunk c =>
      have hskip : (s.reclaim (.chunk c)) = s := rfl
      cases hc : (Buffer.chunk c).hasRemaining <;> simp [emptied?, ih, hskip]
    | primary p =>
      have hp : (Buffer.primary p).hasRemaining = p.hasRemaining := rfl
      cases hr : p.hasRemaining with
      | true => simp [hp, hr, emptied?, ih]
      | false => cases hs : s.primary <;> simp [hp, hr, emptied?, ih, reclaim, restorePrimary, hs]

/-- The place is free unless a primary buffer without bytes is in it. -/
theorem primary_drain (s : Store) (leftovers : List Buffer) : (s.drain leftovers).1.primary =
    if s.primaryPending then leftovers.findSome? emptied? else s.primary := by
  have hkeep (r : Store) : r.takeOverflow.1.primary = r.primary := rfl
  rw [drain_fst, hkeep, primary_foldl_reclaim]
  obtain ⟨p, hp, hr, heq⟩ | ⟨hf, heq⟩ := s.takePrimaryIfPending_cases
  · simp [heq, primaryPending, hp, hr]
  · cases hp : s.primary with
    | none => simp [heq, primaryPending, hp]
    | some p =>
      have hu : p.hasRemaining = false := by simpa [front, hp] using hf
      simp [heq, primaryPending, hp, hu]

theorem map_unsent_unload (s : Store) (p : Primary) :
    (s.unload p).2.map Chunk.unsent = if p.unsent = [] then none else some p.unsent := by
  cases hp : p.hasRemaining with
  | true => simp [unload, hp, Primary.hasRemaining_iff.1 hp]
  | false => simp [unload, hp, Primary.hasRemaining_eq_false_iff.1 hp]

theorem contents_unload (s : Store) (p : Primary) : (s.unload p).1.contents = s.contents := by
  rw [contents_eq, contents_eq, unload, front_restorePrimary p.unsent_clear, queued, overflow_restorePrimary, queued]

theorem contents_requeueFront (s : Store) (chunks : List Chunk) :
    (s.requeueFront chunks).contents = s.front ++ (chunks.flatMap Chunk.unsent ++ s.queued) := by
  rw [contents_eq, queued_requeueFront]
  rfl

/-- Whatever was done with a store before, it knows the length of its queue and of its stream. New data comes behind the
stream, and everything goes out in order. What comes back empty leaves the stream alone. -/
theorem byte_queue (capacity : Nat) {ops : List Operation} (hops : ∀ op ∈ ops, op.Admissible)
    (hs : s = ops.foldl Operation.apply (empty capacity)) :
    (s.overflowLen = (s.overflow.map Chunk.remaining).sum ∧ s.bufferedBytes = s.contents.length) ∧
    (∀ src, (s.append src).contents = s.contents ++ src.unsent ∧
      (s.pushOverflow src).contents = s.contents ++ src.unsent) ∧
    (∀ leftovers, (∀ b ∈ (s.drain leftovers).2, b.hasRemaining = true) ∧
      (s.drain leftovers).2.flatMap Buffer.unsent = leftovers.flatMap Buffer.unsent ++ s.contents ∧
      (s.drain leftovers).1.contents = [] ∧
      (s.drain leftovers).1.primary = if s.primaryPending then leftovers.findSome? emptied? else s.primary) ∧
    (∀ chunks, (s.requeueFront chunks).primary = s.primary ∧
      (s.requeueFront chunks).overflow = chunks ++ s.overflow ∧
      (s.requeueFront chunks).contents = s.front ++ (chunks.flatMap Chunk.unsent ++ s.queued)) ∧
    (∀ p, (s.unload p).2.map Chunk.unsent = (if p.unsent = [] then none else some p.unsent) ∧
      (s.unload p).1.contents = s.contents) ∧
    (∀ b, b.hasRemaining = false ∨ b.toPrimary? = none → (s.reclaim b).contents = s.contents) ∧
    s.discard.2 = s.contents.length ∧ s.discard.1.contents = [] := by
  have h : s.Consistent := hs ▸ consistent_foldl (consistent_empty capacity) hops
  refine ⟨⟨?_, h.length_contents.symm⟩, fun src => ⟨h.contents_append src, contents_pushOverflow s src⟩,
    fun leftovers => ⟨fun b hb => (h.mem_drain hb).1, unsent_drain s leftovers, contents_drain s leftovers,
      primary_drain s leftovers⟩,
    fun chunks => ⟨rfl, overflow_requeueFront s chunks, contents_requeueFront s chunks⟩,
    fun p => ⟨map_unsent_unload s p, contents_unload s p⟩, ?_, h.length_contents.symm, contents_discard s⟩
  · rw [h.length, total_eq_length, List.length_flatMap]
    simp
  · rintro b (hb | hb)
    · exact contents_reclaim hb
    · cases b with
      | primary p => simp [Buffer.toPrimary?] at hb
      | chunk c => rfl

/-- Of six bytes the primary buffer takes four and is lent. It comes back with two of them, a chunk is put before the
others, and all of it goes out behind what was left over. -/
theorem byte_queue_put_back :
    ∃ s, s = [.append { bytes := ⟨#[97, 98, 99, 100, 101, 102]⟩ }, .takePrimaryIfPending,
        .append { bytes := ⟨#[103]⟩ }, .restorePrimary { capacity := 4, filled := ⟨#[97, 98, 99, 100]⟩, pos := 2 },
        .requeueFront [{ bytes := ⟨#[120]⟩ }]].foldl Operation.apply (empty 4) ∧
      s.contents = [99, 100, 120, 101, 102, 103] ∧ s.bufferedBytes = 6 ∧
      (s.drain [.chunk { bytes := ⟨#[1, 2]⟩, pos := 1 }]).2.flatMap Buffer.unsent
        = [2, 99, 100, 120, 101, 102, 103] := by
  refine ⟨_, rfl, by decide +kernel, ?_⟩
  have hops : ∀ op ∈ ([.append { bytes := ⟨#[97, 98, 99, 100, 101, 102]⟩ }, .takePrimaryIfPending,
      .append { bytes := ⟨#[103]⟩ }, .restorePrimary { capacity := 4, filled := ⟨#[97, 98, 99, 100]⟩, pos := 2 },
      .requeueFront [{ bytes := ⟨#[120]⟩ }]] : List Operation), op.Admissible := by decide +kernel
  obtain ⟨⟨-, hbuffered⟩, -, hdrain, -⟩ := byte_queue 4 hops rfl
  obtain ⟨-, hbytes, -⟩ := hdrain [.chunk { bytes := ⟨#[1, 2]⟩, pos := 1 }]
  exact ⟨hbuffered.trans (by decide +kernel), hbytes.trans (by decide +kernel)⟩

end Store

end Outflow
