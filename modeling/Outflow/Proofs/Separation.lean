import Outflow.Proofs.Overtaking

/-! The primary buffer and the queue are never both loaded between calls, whatever went wrong before. So it does not
matter that blocking calls write chunks first and chains send the primary buffer first. -/
namespace Outflow

/-- Unless a chain is about to begin, only one part of the store is loaded. -/
theorem Clear.front_or_queued {held : Bool} {store : Store} {C : Multiset Frame} (h : Clear held store C)
    (hC : ∀ f ∈ C, f.isStarting = false) : store.front = [] ∨ store.queued = [] := by
  by_cases hqueued : store.queued = []
  · exact .inr hqueued
  · obtain hfront | ⟨f, hf, hstarting⟩ := h (.inr (.inl hqueued))
    · exact .inl hfront
    · simp [hC f hf] at hstarting

theorem Ranked.not_starting {held : Bool} {store : Store} {C : Multiset Frame} {f : Frame} (h : Ranked held store C)
    (hf : f ∈ C) (hs : f.isStarting = false) : ∀ g ∈ C, g.isStarting = false := by
  rw [h.eq_single hf]
  simpa using hs

/-- Chunks first or last makes no difference if there are no bytes on one side of them. -/
theorem Store.unsent_drain_eq_sweep {store : Store} (h : store.front = [] ∨ store.queued = []) (leftovers : List Buffer)
    (goal : Goal) : (store.drain leftovers).2.flatMap Buffer.unsent
      = leftovers.flatMap Buffer.unsent ++ (store.sweep goal).unsent := by
  rw [unsent_drain, Sweep.unsent_sweep, contents_eq]
  obtain h | h := h <;> simp [h]

namespace System

variable {config : Config} {s : System} {moves : List Move}

/-- If one producer makes one call at a time, then between calls the primary buffer is lent or empty as long as chunks
are queued. Then, and when a blocking call is about to write out, both ways to take the bytes take them in one order. -/
theorem never_both_loaded (run : Run (fresh config) moves s) (hseq : ∀ m ∈ moves, m.IsSequential) :
    (s.Resting → s.conn.store.overflow ≠ [] → ∀ p ∈ s.conn.store.primary, p.hasRemaining = false) ∧
    ((s.Resting ∨ ∃ t goal rest, (s.thread t).stack = .collecting goal :: rest) →
      ∀ leftovers goal, (s.conn.store.drain leftovers).2.flatMap Buffer.unsent
        = leftovers.flatMap Buffer.unsent ++ (s.conn.store.sweep goal).unsent) := by
  have hr := ranked_run run hseq
  have hwf := (sound_run run).store.wellFormed
  refine ⟨fun hrest hloaded p hp => ?_, fun hwhen leftovers goal => ?_⟩
  · have hqueued : s.conn.store.queued ≠ [] := fun h => hloaded ((Store.queued_eq_nil_iff hwf).1 h)
    obtain hfront | h := hr.clear.front_or_queued (by simp [hrest.tally_calls])
    · have hnone := Store.hasRemaining_primary_eq_false_iff.2 hfront
      simpa [Option.mem_def.1 hp] using hnone
    · exact absurd h hqueued
  · refine Store.unsent_drain_eq_sweep (hr.clear.front_or_queued ?_) leftovers goal
    obtain hrest | ⟨t, goal, rest, hst⟩ := hwhen
    · simp [hrest.tally_calls]
    · exact hr.not_starting (calls_pop hst rfl ▸ Multiset.mem_cons_self _ _) rfl

/-- A flush that could not write two bytes leaves them in the queue. -/
theorem never_both_loaded_after_failure : ∃ moves s, Run (fresh {}) moves s ∧ s.Resting ∧
    s.conn.store.overflow ≠ [] ∧ s.conn.store.primary ≠ none ∧ ∀ p ∈ s.conn.store.primary, p.hasRemaining = false := by
  obtain ⟨moves, s, run, hseq, hrest, hloaded, hprimary⟩ := Run.exists_of_follow (fresh {})
    [.call 0 (.add { bytes := ⟨#[97, 98]⟩ } .blocking), .run 0, .run 0, .call 0 (.flush .blocking), .run 0, .run 0,
      .run 0, .complete 1 0 (.ok (-1)), .resume 0, .run 0]
    (P := fun moves s => (∀ m ∈ moves, m.IsSequential) ∧ s.Resting ∧ s.conn.store.overflow ≠ [] ∧
      s.conn.store.primary ≠ none) (by decide +kernel)
  exact ⟨moves, s, run, hrest, hloaded, hprimary, (never_both_loaded run hseq).1 hrest hloaded⟩

end System

end Outflow
