import Outflow.Proofs.Buffer

/-! The store as a queue of bytes: each operation seen through `contents`, and the form that all of them keep. -/
namespace Outflow.Store

variable {s : Store} {src : Chunk} {p : Primary} {b : Buffer} {bufs : List Buffer} {chunks : List Chunk}

theorem total_append (cs ds : List Chunk) : Chunk.total (cs ++ ds) = Chunk.total cs + Chunk.total ds := by
  induction cs with
  | nil => simp [Chunk.total]
  | cons c cs ih => simp [Chunk.total, ih, Nat.add_assoc]

/-- The primary buffer is a sound one of the store's capacity, the length is that of the queue, and no queued chunk is
empty. -/
structure WellFormed (s : Store) : Prop where
  primary : ∀ p, s.primary = some p → p.WellFormed ∧ p.capacity = s.capacity
  length : s.overflowLen = Chunk.total s.overflow
  nonempty : ∀ c ∈ s.overflow, c.hasRemaining = true

/-- As above, with a primary buffer of any capacity. -/
structure Consistent (s : Store) : Prop where
  primary : ∀ p, s.primary = some p → p.WellFormed
  length : s.overflowLen = Chunk.total s.overflow
  nonempty : ∀ c ∈ s.overflow, c.hasRemaining = true

theorem WellFormed.consistent (h : s.WellFormed) : s.Consistent :=
  ⟨fun p hp => (h.primary p hp).1, h.length, h.nonempty⟩

theorem Consistent.wellFormed (h : s.Consistent) (hcap : ∀ p, s.primary = some p → p.capacity = s.capacity) :
    s.WellFormed :=
  ⟨fun p hp => ⟨h.primary p hp, hcap p hp⟩, h.length, h.nonempty⟩

/-- The unsent bytes of the primary buffer, none if it is lent. -/
def front (s : Store) : List UInt8 := (s.primary.map Primary.unsent).getD []

/-- The bytes of the queue. -/
def queued (s : Store) : List UInt8 := s.overflow.flatMap Chunk.unsent

theorem contents_eq (s : Store) : s.contents = s.front ++ s.queued := rfl

theorem hasPending_eq_false_iff : s.hasPending = false ↔ s.overflow = [] := by
  simp [hasPending_eq]

theorem hasPending_iff : s.hasPending = true ↔ s.overflow ≠ [] := by
  simp [hasPending_eq]

theorem queued_eq_nil_iff (h : s.WellFormed) : s.queued = [] ↔ s.overflow = [] := by
  constructor
  · intro hq
    cases ho : s.overflow with
    | nil => rfl
    | cons c cs =>
      have hc := Chunk.hasRemaining_iff_unsent.1 (h.nonempty c (by simp [ho]))
      simp [queued, ho, hc] at hq
  · intro ho
    simp [queued, ho]

theorem total_eq_length (chunks : List Chunk) : Chunk.total chunks = (chunks.flatMap Chunk.unsent).length := by
  induction chunks with
  | nil => rfl
  | cons c cs ih => simp [Chunk.total, ih]

theorem Consistent.length_queued (h : s.Consistent) : s.queued.length = s.overflowLen :=
  (h.length.trans (total_eq_length _)).symm

theorem length_queued (h : s.WellFormed) : s.queued.length = s.overflowLen := h.consistent.length_queued

theorem Consistent.length_contents (h : s.Consistent) : s.contents.length = s.bufferedBytes := by
  have hfront : s.front.length = (s.primary.map Primary.remaining).getD 0 := by
    cases hp : s.primary <;> simp [front, hp]
  rw [contents_eq, List.length_append, hfront, h.length_queued, bufferedBytes]

/-- The number of bytes that is told is that of the stream. -/
theorem length_contents (h : s.WellFormed) : s.contents.length = s.bufferedBytes := h.consistent.length_contents

theorem contents_eq_nil_iff (h : s.WellFormed) : s.contents = [] ↔ s.bufferedBytes = 0 := by
  rw [← length_contents h, List.length_eq_zero_iff]

theorem wellFormed_empty (capacity : Nat) : (empty capacity).WellFormed where
  primary := by
    rintro p ⟨⟩
    exact ⟨Primary.wellFormed_new capacity, rfl⟩
  length := rfl
  nonempty := by simp

/-! ### Filling -/

@[simp]
theorem capacity_pushOverflow (s : Store) (src : Chunk) : (s.pushOverflow src).capacity = s.capacity := by
  unfold pushOverflow
  split <;> rfl

@[simp]
theorem primary_pushOverflow (s : Store) (src : Chunk) : (s.pushOverflow src).primary = s.primary := by
  unfold pushOverflow
  split <;> rfl

@[simp]
theorem front_pushOverflow (s : Store) (src : Chunk) : (s.pushOverflow src).front = s.front := by
  simp [front]

@[simp]
theorem queued_pushOverflow (s : Store) (src : Chunk) : (s.pushOverflow src).queued = s.queued ++ src.unsent := by
  unfold queued
  rw [overflow_pushOverflow]
  split
  · simp
  · next h => simp_all

@[simp]
theorem contents_pushOverflow (s : Store) (src : Chunk) :
    (s.pushOverflow src).contents = s.contents ++ src.unsent := by
  simp [contents_eq]

theorem consistent_pushOverflow (h : s.Consistent) (src : Chunk) : (s.pushOverflow src).Consistent := by
  cases hsrc : src.hasRemaining with
  | false => simpa [pushOverflow, hsrc] using h
  | true =>
    refine ⟨by simpa using h.primary, ?_, ?_⟩
    · have hlen := h.length
      simp [pushOverflow, hsrc, overflow, total_append, Chunk.total] at hlen ⊢
      omega
    · simp only [overflow_pushOverflow, hsrc, if_true, List.mem_append, List.mem_singleton]
      rintro c (hc | rfl)
      · exact h.nonempty c hc
      · exact hsrc

theorem wellFormed_pushOverflow (h : s.WellFormed) (src : Chunk) : (s.pushOverflow src).WellFormed := by
  refine (consistent_pushOverflow h.consistent src).wellFormed fun p hp => ?_
  rw [capacity_pushOverflow]
  exact (h.primary p (by simpa using hp)).2

@[simp]
theorem capacity_ensurePrimary (s : Store) : s.ensurePrimary.capacity = s.capacity := by
  unfold ensurePrimary
  split <;> rfl

@[simp]
theorem overflow_ensurePrimary (s : Store) : s.ensurePrimary.overflow = s.overflow := by
  unfold ensurePrimary
  split <;> rfl

@[simp]
theorem front_ensurePrimary (s : Store) : s.ensurePrimary.front = s.front := by
  unfold ensurePrimary
  split <;> simp_all [front]

@[simp]
theorem queued_ensurePrimary (s : Store) : s.ensurePrimary.queued = s.queued := by
  simp [queued]

@[simp]
theorem contents_ensurePrimary (s : Store) : s.ensurePrimary.contents = s.contents := by
  simp [contents_eq]

theorem primary_ensurePrimary (s : Store) : ∃ p, s.ensurePrimary.primary = some p := by
  unfold ensurePrimary
  split
  · next p hp => exact ⟨p, hp⟩
  · exact ⟨_, rfl⟩

theorem wellFormed_ensurePrimary (h : s.WellFormed) : s.ensurePrimary.WellFormed := by
  unfold ensurePrimary
  split
  · exact h
  · refine ⟨?_, h.length, h.nonempty⟩
    rintro p ⟨⟩
    exact ⟨Primary.wellFormed_new _, rfl⟩

@[simp]
theorem capacity_transfer (s : Store) (src : Chunk) : (s.transfer src).1.capacity = s.capacity := by
  unfold transfer
  split <;> rfl

@[simp]
theorem overflow_transfer (s : Store) (src : Chunk) : (s.transfer src).1.overflow = s.overflow := by
  unfold transfer
  split <;> rfl

@[simp]
theorem queued_transfer (s : Store) (src : Chunk) : (s.transfer src).1.queued = s.queued := by
  simp [queued]

theorem transfer_le_remaining (s : Store) (src : Chunk) : (s.transfer src).2 ≤ src.remaining := by
  unfold transfer
  split
  · exact Primary.transfer_le_remaining _ src
  · exact Nat.zero_le _

theorem Consistent.front_transfer (h : s.Consistent) (src : Chunk) :
    (s.transfer src).1.front = s.front ++ src.unsent.take (s.transfer src).2 := by
  unfold transfer
  split
  · next p hp => simp [front, hp, Primary.unsent_transfer (h.primary p hp)]
  · simp

theorem front_transfer (h : s.WellFormed) (src : Chunk) :
    (s.transfer src).1.front = s.front ++ src.unsent.take (s.transfer src).2 := h.consistent.front_transfer src

theorem wellFormed_transfer (h : s.WellFormed) (src : Chunk) : (s.transfer src).1.WellFormed := by
  unfold transfer
  split
  · next p hp =>
    obtain ⟨hp, hcap⟩ := h.primary p hp
    refine ⟨?_, h.length, h.nonempty⟩
    simp only [Option.some.injEq]
    rintro q rfl
    exact ⟨Primary.wellFormed_transfer hp src, (Primary.capacity_transfer p src).trans hcap⟩
  · exact h

theorem Consistent.contents_append (h : s.Consistent) (src : Chunk) :
    (s.append src).contents = s.contents ++ src.unsent := by
  unfold append
  split
  · simp
  · next hp =>
    have hq : s.queued = [] := by simp [queued, hasPending_eq_false_iff.1 (Bool.eq_false_iff.2 hp)]
    simp [contents_eq, h.front_transfer, hq]

theorem contents_append (h : s.WellFormed) (src : Chunk) :
    (s.append src).contents = s.contents ++ src.unsent := h.consistent.contents_append src

@[simp]
theorem capacity_append (s : Store) (src : Chunk) : (s.append src).capacity = s.capacity := by
  unfold append
  split <;> simp

theorem wellFormed_append (h : s.WellFormed) (src : Chunk) : (s.append src).WellFormed := by
  unfold append
  split
  · exact wellFormed_pushOverflow h src
  · exact wellFormed_pushOverflow (wellFormed_transfer h src) _

/-! ### Giving away -/

@[simp]
theorem capacity_takePrimaryIfPending (s : Store) : s.takePrimaryIfPending.1.capacity = s.capacity := by
  unfold takePrimaryIfPending
  split
  · split <;> rfl
  · rfl

@[simp]
theorem overflow_takePrimaryIfPending (s : Store) : s.takePrimaryIfPending.1.overflow = s.overflow := by
  unfold takePrimaryIfPending
  split
  · split <;> rfl
  · rfl

/-- The primary buffer goes with all its unsent bytes, if there are any. -/
theorem takePrimaryIfPending_cases (s : Store) :
    (∃ p, s.primary = some p ∧ p.hasRemaining = true ∧
      s.takePrimaryIfPending = ({ s with primary := none }, some p)) ∨
    (s.front = [] ∧ s.takePrimaryIfPending = (s, none)) := by
  unfold takePrimaryIfPending
  cases hp : s.primary with
  | none => exact .inr (by simp [front, hp])
  | some p =>
    cases hr : p.hasRemaining with
    | true => exact .inl (by simp [hr])
    | false =>
      have hu := Primary.hasRemaining_eq_false_iff.1 hr
      exact .inr (by simp [front, hp, hu, hr])

theorem wellFormed_takePrimaryIfPending (h : s.WellFormed) : s.takePrimaryIfPending.1.WellFormed := by
  obtain ⟨p, -, -, heq⟩ | ⟨-, heq⟩ := s.takePrimaryIfPending_cases
  · rw [heq]
    exact ⟨by simp, h.length, h.nonempty⟩
  · rwa [heq]

theorem wellFormed_takeOverflow (h : s.WellFormed) : s.takeOverflow.1.WellFormed :=
  ⟨h.primary, rfl, by simp⟩

/-! ### Taking back -/

@[simp]
theorem capacity_restorePrimary (s : Store) (p : Primary) : (s.restorePrimary p).capacity = s.capacity := by
  unfold restorePrimary
  split <;> rfl

@[simp]
theorem overflow_restorePrimary (s : Store) (p : Primary) : (s.restorePrimary p).overflow = s.overflow := by
  unfold restorePrimary
  split <;> rfl

theorem front_restorePrimary (hp : p.unsent = []) : (s.restorePrimary p).front = s.front := by
  unfold restorePrimary
  split
  · rfl
  · next hs => simp [front, hs, hp]

theorem wellFormed_restorePrimary (h : s.WellFormed) (hp : p.WellFormed) (hcap : p.capacity = s.capacity) :
    (s.restorePrimary p).WellFormed := by
  unfold restorePrimary
  split
  · exact h
  · refine ⟨?_, h.length, h.nonempty⟩
    simp only [Option.some.injEq]
    rintro q rfl
    exact ⟨hp, hcap⟩

@[simp]
theorem capacity_reclaim (s : Store) (b : Buffer) : (s.reclaim b).capacity = s.capacity := by
  cases b <;> simp [reclaim]

@[simp]
theorem overflow_reclaim (s : Store) (b : Buffer) : (s.reclaim b).overflow = s.overflow := by
  cases b <;> simp [reclaim]

/-- A buffer that was sent completely changes nothing of what the store stands for. -/
theorem front_reclaim (hb : b.hasRemaining = false) : (s.reclaim b).front = s.front := by
  cases b with
  | primary p =>
    have hp : p.hasRemaining = false := hb
    simp [reclaim, hp, front_restorePrimary]
  | chunk c => rfl

theorem contents_reclaim (hb : b.hasRemaining = false) : (s.reclaim b).contents = s.contents := by
  simp [contents_eq, front_reclaim hb, queued]

theorem wellFormed_reclaim (h : s.WellFormed) (hb : b.WellFormed s.capacity) : (s.reclaim b).WellFormed := by
  cases b with
  | primary p =>
    obtain ⟨hp, hcap⟩ := hb
    simp only [reclaim]
    split
    · exact wellFormed_restorePrimary h hp hcap
    · exact wellFormed_restorePrimary h p.wellFormed_clear hcap
  | chunk c => exact h

@[simp]
theorem capacity_foldl_reclaim (s : Store) (bufs : List Buffer) : (bufs.foldl reclaim s).capacity = s.capacity := by
  induction bufs generalizing s with
  | nil => rfl
  | cons b bufs ih => simp [ih]

@[simp]
theorem overflow_foldl_reclaim (s : Store) (bufs : List Buffer) : (bufs.foldl reclaim s).overflow = s.overflow := by
  induction bufs generalizing s with
  | nil => rfl
  | cons b bufs ih => simp [ih]

theorem front_foldl_reclaim (hb : ∀ b ∈ bufs, b.hasRemaining = false) :
    (bufs.foldl reclaim s).front = s.front := by
  induction bufs generalizing s with
  | nil => rfl
  | cons b bufs ih =>
    rw [List.forall_mem_cons] at hb
    rw [List.foldl_cons, ih hb.2, front_reclaim hb.1]

theorem wellFormed_foldl_reclaim (h : s.WellFormed) (hb : ∀ b ∈ bufs, b.WellFormed s.capacity) :
    (bufs.foldl reclaim s).WellFormed := by
  induction bufs generalizing s with
  | nil => exact h
  | cons b bufs ih =>
    rw [List.forall_mem_cons] at hb
    exact ih (wellFormed_reclaim h hb.1) (by simpa using hb.2)

/-- The stream of a queue with `chunks` put before it. -/
@[simp]
theorem queued_requeueFront (s : Store) (chunks : List Chunk) :
    (s.requeueFront chunks).queued = chunks.flatMap Chunk.unsent ++ s.queued := by
  simp [queued]

theorem consistent_requeueFront (h : s.Consistent) (hc : ∀ c ∈ chunks, c.hasRemaining = true) :
    (s.requeueFront chunks).Consistent := by
  refine ⟨h.primary, ?_, ?_⟩
  · rw [overflow_requeueFront, total_append, ← h.length]
    rfl
  · simp only [overflow_requeueFront, List.mem_append]
    rintro c (hm | hm)
    · exact hc c hm
    · exact h.nonempty c hm

theorem wellFormed_requeueFront (h : s.WellFormed) (hc : ∀ c ∈ chunks, c.hasRemaining = true) :
    (s.requeueFront chunks).WellFormed :=
  (consistent_requeueFront h.consistent hc).wellFormed fun p hp => (h.primary p hp).2

/-! ### Draining -/

/-- A store from which the primary buffer was taken if it held bytes, with what it gave away. -/
theorem front_takePrimaryIfPending (s : Store) :
    s.takePrimaryIfPending.1.front = [] ∧
      (s.takePrimaryIfPending.2.toList.map Buffer.primary).flatMap Buffer.unsent = s.front := by
  obtain ⟨p, hp, -, heq⟩ | ⟨hf, heq⟩ := s.takePrimaryIfPending_cases
  · simp [heq, front, hp, Buffer.unsent]
  · simp [heq, hf]

theorem flatMap_unsent_chunks (chunks : List Chunk) :
    (chunks.map Buffer.chunk).flatMap Buffer.unsent = chunks.flatMap Chunk.unsent := by
  simp [List.flatMap_map, Buffer.unsent]

theorem drain_snd (s : Store) (leftovers : List Buffer) :
    (s.drain leftovers).2 = leftovers.filter Buffer.hasRemaining ++
      (s.takePrimaryIfPending.2.toList.map Buffer.primary ++ s.overflow.map Buffer.chunk) := by
  simp [drain]

theorem drain_fst (s : Store) (leftovers : List Buffer) :
    (s.drain leftovers).1
      = ((leftovers.filter fun b => !b.hasRemaining).foldl reclaim s.takePrimaryIfPending.1).takeOverflow.1 := rfl

/-- Everything that is left over and everything stored goes, in this order. -/
theorem unsent_drain (s : Store) (leftovers : List Buffer) :
    (s.drain leftovers).2.flatMap Buffer.unsent = leftovers.flatMap Buffer.unsent ++ s.contents := by
  rw [drain_snd, List.flatMap_append, List.flatMap_append, flatMap_unsent_filter,
    s.front_takePrimaryIfPending.2, flatMap_unsent_chunks, contents_eq, queued]

theorem contents_drain (s : Store) (leftovers : List Buffer) : (s.drain leftovers).1.contents = [] := by
  have hd : ∀ b ∈ leftovers.filter (fun b => !b.hasRemaining), b.hasRemaining = false := by simp
  have hf := (front_foldl_reclaim hd).trans s.front_takePrimaryIfPending.1
  rw [drain_fst, contents_eq]
  simpa [front, takeOverflow, queued, overflow] using hf

@[simp]
theorem overflow_drain (s : Store) (leftovers : List Buffer) : (s.drain leftovers).1.overflow = [] := rfl

@[simp]
theorem capacity_drain (s : Store) (leftovers : List Buffer) : (s.drain leftovers).1.capacity = s.capacity := by
  simp [drain_fst, takeOverflow]

theorem wellFormed_drain (h : s.WellFormed) {leftovers : List Buffer}
    (hb : ∀ b ∈ leftovers, b.WellFormed s.capacity) : (s.drain leftovers).1.WellFormed := by
  rw [drain_fst]
  apply wellFormed_takeOverflow
  apply wellFormed_foldl_reclaim (wellFormed_takePrimaryIfPending h)
  intro b hm
  rw [capacity_takePrimaryIfPending]
  exact hb b (List.mem_filter.1 hm).1

/-- What goes out is left over, the primary buffer or a queued chunk, and holds bytes. -/
theorem Consistent.mem_drain (h : s.Consistent) {leftovers : List Buffer} (hm : b ∈ (s.drain leftovers).2) :
    b.hasRemaining = true ∧ (b ∈ leftovers ∨ (∃ p, s.primary = some p ∧ b = .primary p) ∨ ∃ c, b = .chunk c) := by
  simp only [drain_snd, List.mem_append, List.mem_filter, List.mem_map, Option.mem_toList] at hm
  rcases hm with ⟨hm, hr⟩ | ⟨p, hp, rfl⟩ | ⟨c, hc, rfl⟩
  · exact ⟨hr, .inl hm⟩
  · obtain ⟨q, hq, hr, heq⟩ | ⟨-, heq⟩ := s.takePrimaryIfPending_cases
    · simp only [heq, Option.some.injEq] at hp
      subst hp
      exact ⟨hr, .inr (.inl ⟨q, hq, rfl⟩)⟩
    · simp [heq] at hp
  · exact ⟨h.nonempty c hc, .inr (.inr ⟨c, rfl⟩)⟩

/-- No buffer goes out empty, and each is a sound one if all that are left over are. -/
theorem mem_drain (h : s.WellFormed) {leftovers : List Buffer} (hb : ∀ b ∈ leftovers, b.WellFormed s.capacity) :
    ∀ b ∈ (s.drain leftovers).2, b.hasRemaining = true ∧ b.WellFormed s.capacity := by
  intro b hm
  obtain ⟨hr, hm | ⟨p, hp, rfl⟩ | ⟨c, rfl⟩⟩ := h.consistent.mem_drain hm
  · exact ⟨hr, hb b hm⟩
  · exact ⟨hr, h.primary p hp⟩
  · exact ⟨hr, trivial⟩

/-! ### Throwing away -/

@[simp]
theorem contents_discard (s : Store) : s.discard.1.contents = [] := by
  cases hp : s.primary <;> simp [discard, contents_eq, front, queued, overflow, hp]

@[simp]
theorem capacity_discard (s : Store) : s.discard.1.capacity = s.capacity := rfl

theorem wellFormed_discard (h : s.WellFormed) : s.discard.1.WellFormed := by
  refine ⟨?_, rfl, by simp⟩
  simp only [discard, Option.map_eq_some_iff]
  rintro q ⟨p, hp, rfl⟩
  exact ⟨p.wellFormed_clear, (h.primary p hp).2⟩

/-- A store that was emptied and made complete is like a new one. -/
theorem ensurePrimary_discard (h : s.WellFormed) : s.discard.1.ensurePrimary = empty s.capacity := by
  unfold discard ensurePrimary
  cases hp : s.primary with
  | none => rfl
  | some p => simp [empty, Primary.clear, (h.primary p hp).2]

end Outflow.Store
