import Outflow.Proofs.Stream

/-! What one producer can rely on: its data arrives without loss or duplication, and in order as long as no blocking
call goes on past a chain in flight. -/
namespace Outflow

theorem Frame.bytes_eq_jobs {f : Frame} (hf : f.isCall = false) :
    f.bytes = f.jobs.flatMap fun job => job.write.unsent := by
  cases f with
  | carrying job => simp [bytes, jobs]
  | inTransport w | attaching err | notifying event | telling event | driving => rfl
  | _ => simp [isCall] at hf

namespace System

variable {config : Config} {s : System} {moves : List Move}

/-! ### Between calls -/

theorem Resting.tally_calls (hrest : s.Resting) : s.tally .calls = 0 := (Multiset.coe_eq_zero _).2 hrest

/-- Between calls only chains have bytes on their way. -/
theorem Resting.bytes_eq (hrest : s.Resting) (hans : s.Answered) (hclaim : s.Claimed) :
    s.bytes = ↑(s.inFlight ++ s.conn.store.contents) := by
  have hnone : ∀ f ∈ s.tally .calls, f.awaitsReply = false := by simp [hrest.tally_calls]
  rw [bytes, away, census_answers_eq_zero _ hclaim hnone, tally_split s fun f hf => Frame.bytes_eq_jobs hf,
    tally_trips_eq_zero hans hclaim hnone, hrest.tally_calls]
  simp [tally, Multiset.coe_bind, inFlight]

theorem Resting.line_eq (hrest : s.Resting) : s.line = s.inFlight ++ s.conn.store.contents := by
  rw [line, ahead_eq_nil (by simp [hrest.tally_calls]), List.nil_append]

/-- One call at a time, and each waits for the chain in flight where it has to. -/
theorem Move.isOrderly {m : Move} (hseq : m.IsSequential) (hpatient : m.IsPatient) : m.IsOrderly := by
  obtain ⟨before, action, after, signal⟩ := m
  cases action with
  | call t c => simp [Move.IsOrderly, (hseq.resting rfl).tally_calls]
  | expire t => exact hpatient
  | _ => trivial

/-- Between the calls of one producer there is at most one write in flight. What was confirmed, what is left of that
write and what is stored are the bytes that its calls contributed, and stand in their order if no blocking call went
on past a chain in flight. -/
theorem delivery (run : Run (fresh config) moves s) (hfaith : ∀ m ∈ moves, m.IsFaithful)
    (hseq : ∀ m ∈ moves, m.IsSequential) (hrest : s.Resting) :
    (ledger moves).pending = [] ∧ (s.collect .jobs).length ≤ 1 ∧
    ∃ parts, List.Forall₂ (fun e part => Contributes e.1 e.2 part) (ledger moves).settled parts ∧
      (confirmed moves ++ (s.inFlight ++ s.conn.store.contents)).Perm parts.flatten ∧
      ((∀ m ∈ moves, m.IsPatient) → confirmed moves ++ (s.inFlight ++ s.conn.store.contents) = parts.flatten) := by
  have hback : ∀ m ∈ moves, m.GivesBack := fun m hm => (hfaith m hm).givesBack
  have hans := answered_run run hback
  have hclaim := claimed_run run hback
  obtain ⟨shares, parts, hm, -, hled⟩ := ledger_run run
  obtain rfl := hm.shares_eq_nil hrest
  have htaken : taken moves = parts.flatten := by simpa [Share.total] using (hled hseq).2
  have hsole := sole_run run fun m hm => (hfaith m hm).kept
  refine ⟨hm.pending, card_jobs_le hsole, parts, hm.settled, ?_, fun hpatient => ?_⟩
  · have hbalance := balance_run run hfaith
    rwa [hrest.bytes_eq hans hclaim, Multiset.coe_add, Multiset.coe_eq_coe, htaken] at hbalance
  · have hline := line_run run hfaith fun m hm => Move.isOrderly (hseq m hm) (hpatient m hm)
    rwa [hrest.line_eq, htaken] at hline

/-- One byte is at the transport and two more are queued. The transport confirms the first byte, then one of the
others. -/
theorem delivery_partial_write : ∃ moves s, Run (fresh {}) moves s ∧ s.Resting ∧ confirmed moves = [97, 98] ∧
    s.inFlight = [99] ∧ s.conn.store.contents = [] ∧
    ∃ parts, List.Forall₂ (fun e part => Contributes e.1 e.2 part) (ledger moves).settled parts ∧
      confirmed moves ++ (s.inFlight ++ s.conn.store.contents) = parts.flatten := by
  obtain ⟨moves, s, run, hfaith, hseq, hpatient, hrest, hend⟩ := Run.exists_of_follow (fresh {})
    [.call 0 (.add { bytes := ⟨#[97]⟩ } .nonBlocking), .run 0, .run 0, .resume 0, .run 0, .run 0,
      .call 0 (.add { bytes := ⟨#[98, 99]⟩ } .nonBlocking), .complete 1 0 (.ok 1), .run 1, .resume 1, .run 1,
      .complete 1 1 (.ok 1)]
    (P := fun moves s => (∀ m ∈ moves, m.IsFaithful) ∧ (∀ m ∈ moves, m.IsSequential) ∧ (∀ m ∈ moves, m.IsPatient) ∧
      s.Resting ∧ confirmed moves = [97, 98] ∧ s.inFlight = [99] ∧ s.conn.store.contents = []) (by decide +kernel)
  obtain ⟨-, -, parts, hparts, -, heq⟩ := delivery run hfaith hseq hrest
  exact ⟨moves, s, run, hrest, hend.1, hend.2.1, hend.2.2, parts, hparts, heq hpatient⟩

/-- A blocking flush that does not wait for the end of the chain any longer overtakes the byte in flight. -/
theorem delivery_out_of_order : ¬ ∀ (config : Config) (moves : List Move) (s : System), Run (fresh config) moves s →
    (∀ m ∈ moves, m.IsFaithful) → (∀ m ∈ moves, m.IsSequential) → s.Resting →
    ∃ parts, List.Forall₂ (fun e part => Contributes e.1 e.2 part) (ledger moves).settled parts ∧
      confirmed moves ++ (s.inFlight ++ s.conn.store.contents) = parts.flatten := by
  intro h
  obtain ⟨moves, s, run, hfaith, hseq, hrest, haccepted, hdata, hstream⟩ := Run.exists_of_follow (fresh {})
    [.call 0 (.add { bytes := ⟨#[97]⟩ } .nonBlocking), .run 0, .run 0, .resume 0, .run 0, .run 0,
      .call 0 (.add { bytes := ⟨#[98]⟩ } .nonBlocking), .call 0 (.flush .blocking), .expire 0, .run 0, .run 0, .run 0,
      .complete 0 1 (.ok 1), .resume 0, .run 0, .run 0, .run 0]
    (P := fun moves s => (∀ m ∈ moves, m.IsFaithful) ∧ (∀ m ∈ moves, m.IsSequential) ∧ s.Resting ∧
      (∀ e ∈ (ledger moves).settled, e.2.isRefusal = false) ∧ (ledger moves).settled.flatMap accepted = [97, 98] ∧
      confirmed moves ++ (s.inFlight ++ s.conn.store.contents) = [98, 97]) (by decide +kernel)
  obtain ⟨parts, hparts, heq⟩ := h {} moves s run hfaith hseq hrest
  rw [flatten_eq_accepted hparts fun e he => .inr (haccepted e he), hdata, hstream] at heq
  simp at heq

end System

end Outflow
