import Outflow.Proofs.Soundness

/-! No write goes to the transport without something to send in each of its buffers. -/
namespace Outflow

/-- There are buffers, and something to send in each of them. -/
def Write.Laden (w : Write) : Prop := w.buffers ≠ [] ∧ ∀ b ∈ w.buffers, b.unsent ≠ []

instance (w : Write) : Decidable w.Laden := inferInstanceAs (Decidable (_ ∧ _))

theorem Write.WellFormed.laden {capacity : Nat} {w : Write} (h : w.WellFormed capacity) : w.Laden :=
  ⟨h.ne_nil, fun b hb => Buffer.hasRemaining_iff.1 (h.hasRemaining b hb)⟩

theorem Write.laden_single {b : Buffer} (hb : b.hasRemaining = true) : (single b).Laden :=
  ⟨List.cons_ne_nil _ _, by simpa [buffers] using Buffer.hasRemaining_iff.1 hb⟩

theorem Handed.write_disowned (h : Handed) : h.disowned.write = h.write := by
  cases h <;> rfl

namespace System

variable {config : Config} {capacity : Nat} {s s' : System} {moves : List Move} {a : Action} {sig : Option Signal}
  {t : ThreadId} {w : WriteId}

/-- Each write at the transport has something to send in each of its buffers. -/
def NoneEmpty (s : System) : Prop := ∀ w h, s.outstanding.find? w = some h → h.write.Laden

theorem noneEmpty_handOver (h : s.NoneEmpty) {handed : Handed} (hh : handed.write.Laden) :
    (s.handOver t handed).1.NoneEmpty := by
  intro v b hb
  simp only [frame_handOver, Table.find?_set] at hb
  split at hb
  · cases hb
    exact hh
  · exact h v b hb

theorem noneEmpty_launch (h : s.NoneEmpty) {rest : List Frame} {queue : List Job} {job : Job} (hj : job.write.Laden) :
    (s.launch t rest queue job).NoneEmpty :=
  noneEmpty_handOver (s := s.setThread t _) h hj

theorem noneEmpty_disown (h : s.NoneEmpty) : (s.disown w).NoneEmpty := by
  intro v b hb
  rw [find?_disown] at hb
  split at hb
  · obtain ⟨b', hb', rfl⟩ := Option.map_eq_some_iff.1 hb
    rw [Handed.write_disowned]
    exact h v b' hb'
  · exact h v b hb

theorem noneEmpty_endWrite (h : s.NoneEmpty) : (s.endWrite w).NoneEmpty := fun v b hb =>
  h v b (Table.find?_of_erase _ _ hb)

theorem noneEmpty_step (hsound : s.Sound capacity) (h : s.NoneEmpty) (hstep : Step s a s' sig) : s'.NoneEmpty := by
  cases hstep with
  | @driven t rest job queue hst hd =>
    have hjob := (hsound.threads t).waiting job (by simp [hd])
    exact noneEmpty_launch h hjob.laden
  | @carried t rest job hst hd =>
    have hjob : job.write.WellFormed capacity := sound_frame hsound hst
    exact noneEmpty_launch h hjob.laden
  | @tripBegun t rest buf sweep hst hbuf => exact noneEmpty_handOver (s := s.setStack t _) h (Write.laden_single hbuf)
  | @tripExpired t rest w sweep hst hans => exact noneEmpty_disown (s := s.setStack t rest) h
  | strayEnded _ _ | tripEnded _ _ | chainStale _ _ _ | chainQuiet _ _ _ | chainTold _ _ _ | chainGoesOn _ _ _
  | chainFailed _ _ _ | strayForgotten _ | tripForgotten _ | chainForgotten _ => exact noneEmpty_endWrite h
  | _ => exact h

theorem noneEmpty_run (run : Run (fresh config) moves s) : s.NoneEmpty := by
  induction run with
  | nil => simp [NoneEmpty, fresh]
  | snoc run h ih => exact noneEmpty_step (sound_run run) ih (step_perform h)

/-- A write that is handed over is at the transport afterwards. -/
theorem handed_outstanding (h : Step s a s' (some (.handed w))) : ∃ h, s'.outstanding.find? w = some h := by
  cases h with
  | @driven t rest job queue hst hd => exact ⟨.chain job.write job.flight, by simp [launch, Table.find?_set]⟩
  | @carried t rest job hst hd => exact ⟨.chain job.write job.flight, by simp [launch, Table.find?_set]⟩
  | @tripBegun t rest buf sweep hst hbuf => exact ⟨.trip buf, by simp [Table.find?_set]⟩

/-- Whatever is called and reported, each write that goes to the transport has buffers and something to send in each of
them, also while it is there, and no chunk in the queue is empty. -/
theorem no_empty_writes (run : Run (fresh config) moves s) :
    (∀ m ∈ moves, ∀ w, m.signal = some (.handed w) →
      ∃ h, m.after.outstanding.find? w = some h ∧ h.write.Laden) ∧
    (∀ w h, s.outstanding.find? w = some h → h.write.Laden) ∧
    (∀ c ∈ s.conn.store.overflow, c.unsent ≠ []) := by
  refine ⟨fun m hm w hsig => ?_, noneEmpty_run run, fun c hc => ?_⟩
  · obtain ⟨before, after, hmoves⟩ := List.append_of_mem hm
    obtain ⟨hbefore, hperform⟩ := run.split hmoves
    rw [hsig] at hperform
    obtain ⟨h, hw⟩ := handed_outstanding (step_perform hperform)
    exact ⟨h, hw, noneEmpty_run (hbefore.snoc hperform) w h hw⟩
  · exact Chunk.hasRemaining_iff_unsent.1 ((sound_run run).store.wellFormed.nonempty c hc)

/-- A write is accepted in part and its continuation not at all. The connection is recycled while the next one is at the
transport, and a flush has a byte to write. -/
theorem no_empty_writes_recycled : ∃ moves s, Run (fresh {}) moves s ∧
    ∃ h, s.outstanding.find? 3 = some h ∧ h.write.unsent = [101] ∧ h.write.Laden := by
  obtain ⟨moves, s, run, h, hw, hbytes⟩ := Run.exists_of_follow (fresh {})
    [.call 0 (.add { bytes := ⟨#[97, 98]⟩ } .nonBlocking), .run 0, .run 0, .resume 0, .run 0, .run 0,
      .call 0 (.add { bytes := ⟨#[99]⟩ } .nonBlocking), .complete 1 0 (.ok 1), .run 1,
      .call 1 (.add { bytes := ⟨#[100]⟩ } .nonBlocking), .complete 1 1 (.ok 0), .run 1, .resume 1, .run 1, .resume 1,
      .run 1, .call 0 .recycle, .complete 1 2 (.ok 0), .call 0 (.add { bytes := ⟨#[101]⟩ } .blocking), .run 0, .run 0,
      .call 0 (.flush .blocking), .run 0, .run 0, .run 0]
    (P := fun _ s => ∃ h ∈ s.outstanding.find? 3, h.write.unsent = [101]) (by decide +kernel)
  exact ⟨moves, s, run, h, hw, hbytes, (no_empty_writes run).2.1 3 h hw⟩

end System

end Outflow
