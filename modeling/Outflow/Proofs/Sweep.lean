import Outflow.Proofs.Step

/-! What a blocking call takes out of a store, and what it puts back if it cannot write all of it. -/
namespace Outflow

namespace Store

variable {s : Store}

/-! ### Taking back -/

theorem unsent_salvage (s : Store) (b : Option Buffer) :
    (s.salvage b).2.toList.flatMap Chunk.unsent = b.toList.flatMap Buffer.unsent := by
  match b with
  | some (.primary p) =>
    cases hp : p.hasRemaining with
    | true => simp [salvage, unload, hp, Buffer.unsent]
    | false => simp [salvage, unload, hp, Buffer.unsent, Primary.hasRemaining_eq_false_iff.1 hp]
  | some (.chunk c) =>
    cases hc : c.hasRemaining with
    | true => simp [salvage, hc, Buffer.unsent]
    | false => simp [salvage, hc, Buffer.unsent, Chunk.hasRemaining_eq_false_iff.1 hc]
  | none => rfl

theorem hasRemaining_salvage (s : Store) (b : Option Buffer) : ∀ c ∈ (s.salvage b).2, c.hasRemaining = true := by
  match b with
  | some (.primary p) =>
    cases hp : p.hasRemaining with
    | true =>
      have hc : p.toChunk.hasRemaining = true := hp
      simp [salvage, unload, hp, hc]
    | false => simp [salvage, unload, hp]
  | some (.chunk c) => cases hc : c.hasRemaining <;> simp [salvage, hc]
  | none => simp [salvage]

theorem front_salvage (s : Store) (b : Option Buffer) : (s.salvage b).1.front = s.front := by
  match b with
  | some (.primary p) => exact front_restorePrimary p.unsent_clear
  | some (.chunk c) => rfl
  | none => rfl

@[simp]
theorem overflow_salvage (s : Store) (b : Option Buffer) : (s.salvage b).1.overflow = s.overflow := by
  match b with
  | some (.primary p) => exact overflow_restorePrimary s _
  | some (.chunk c) => rfl
  | none => rfl

@[simp]
theorem capacity_salvage (s : Store) (b : Option Buffer) : (s.salvage b).1.capacity = s.capacity := by
  match b with
  | some (.primary p) => exact capacity_restorePrimary s _
  | some (.chunk c) => rfl
  | none => rfl

theorem wellFormed_salvage (h : s.WellFormed) {b : Option Buffer} (hb : ∀ c ∈ b, c.WellFormed s.capacity) :
    (s.salvage b).1.WellFormed := by
  match b with
  | some (.primary p) => exact wellFormed_restorePrimary h p.wellFormed_clear (hb _ rfl).2
  | some (.chunk c) => exact h
  | none => exact h

/-! ### Taking out -/

@[simp]
theorem capacity_swept (s : Store) : s.swept.capacity = s.capacity := by
  simp [swept, takeOverflow]

theorem wellFormed_swept (h : s.WellFormed) : s.swept.WellFormed :=
  wellFormed_takePrimaryIfPending (wellFormed_takeOverflow h)

theorem contents_swept (s : Store) : s.swept.contents = [] := by
  have hf := s.takeOverflow.1.front_takePrimaryIfPending.1
  simp [contents_eq, swept, hf, queued]

end Store

namespace Sweep

variable {sweep : Sweep} {returned : Option Buffer} {s : Store} {capacity : Nat}

/-- What the call has still to write, in the order in which it does. -/
def unsent (sweep : Sweep) : List UInt8 :=
  sweep.chunks.flatMap Chunk.unsent ++ (sweep.primary.map Primary.unsent).getD []

/-- Chunks with something in them, and a sound primary buffer of the connection. -/
structure WellFormed (capacity : Nat) (sweep : Sweep) : Prop where
  chunks : ∀ c ∈ sweep.chunks, c.hasRemaining = true
  primary : ∀ p, sweep.primary = some p → p.WellFormed ∧ p.capacity = capacity

theorem unsent_sweep (s : Store) (goal : Goal) : (s.sweep goal).unsent = s.queued ++ s.front := by
  have hf : s.takeOverflow.1.front = s.front := rfl
  obtain ⟨p, hp, -, heq⟩ | ⟨hnil, heq⟩ := s.takeOverflow.1.takePrimaryIfPending_cases
  · have hfront : s.front = p.unsent := by
      rw [← hf]
      simp [Store.front, hp]
    simp [unsent, Store.sweep, Store.queued, heq, hfront]
  · simp [unsent, Store.sweep, Store.queued, heq, ← hf, hnil]

theorem wellFormed_sweep (h : s.WellFormed) (goal : Goal) : (s.sweep goal).WellFormed s.capacity := by
  refine ⟨h.nonempty, ?_⟩
  intro p hp
  obtain ⟨q, hq, -, heq⟩ | ⟨-, heq⟩ := s.takeOverflow.1.takePrimaryIfPending_cases
  · simp only [Store.sweep, heq, Option.some.injEq] at hp
    subst hp
    exact h.primary q hq
  · simp [Store.sweep, heq] at hp

@[simp]
theorem front_putBack (sweep : Sweep) (returned : Option Buffer) (s : Store) :
    (sweep.putBack returned s).front = s.front := by
  simp only [putBack, Store.front_ensurePrimary]
  exact (Store.front_salvage _ _).trans (Store.front_salvage s _)

/-- What is put back comes before what was queued meanwhile. -/
theorem queued_putBack (sweep : Sweep) (returned : Option Buffer) (s : Store) : (sweep.putBack returned s).queued
    = returned.toList.flatMap Buffer.unsent ++ sweep.unsent ++ s.queued := by
  have hp : (sweep.primary.map Buffer.primary).toList.flatMap Buffer.unsent
      = (sweep.primary.map Primary.unsent).getD [] := by
    cases sweep.primary <;> simp [Buffer.unsent]
  simp [putBack, Store.unsent_salvage, hp, unsent, Store.queued]

@[simp]
theorem capacity_putBack (sweep : Sweep) (returned : Option Buffer) (s : Store) :
    (sweep.putBack returned s).capacity = s.capacity := by
  simp [putBack, Store.requeueFront]

theorem wellFormed_putBack (h : s.WellFormed) (hsweep : sweep.WellFormed s.capacity)
    (hb : ∀ b ∈ returned, b.WellFormed s.capacity) : (sweep.putBack returned s).WellFormed := by
  have hprimary : ∀ b ∈ sweep.primary.map Buffer.primary, b.WellFormed (s.salvage returned).1.capacity := by
    simp only [Option.mem_def, Option.map_eq_some_iff, Store.capacity_salvage]
    rintro b ⟨p, hp, rfl⟩
    exact hsweep.primary p hp
  apply Store.wellFormed_ensurePrimary
  apply Store.wellFormed_requeueFront (Store.wellFormed_salvage (Store.wellFormed_salvage h hb) hprimary)
  intro c hc
  simp only [List.mem_append, Option.mem_toList] at hc
  rcases hc with (hc | hc) | hc
  · exact Store.hasRemaining_salvage _ _ c hc
  · exact hsweep.chunks c hc
  · exact Store.hasRemaining_salvage _ _ c hc

end Sweep

end Outflow
