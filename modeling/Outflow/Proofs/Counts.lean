import Outflow.Proofs.Lending
import Outflow.Proofs.Offering

/-! Whatever count the transport reports, no cursor runs past the end of its buffer. A count beyond the end of a write
does what the length of the write would have done. -/
namespace Outflow

/-- A report with its count cut off at `limit`. -/
def Outcome.capped (limit : Nat) : Outcome → Outcome
  | .ok count => .ok (min count limit)
  | .error cause => .error cause

theorem Outcome.written_capped (limit : Nat) (outcome : Outcome) :
    (outcome.capped limit).written = outcome.written.map fun count => min count limit := by
  cases outcome with
  | error cause => rfl
  | ok count =>
    have hneg : min count limit < 0 ↔ count < 0 := by omega
    have hcount : (min count (limit : Int)).toNat = min count.toNat limit := by omega
    simp only [capped, written, hneg, hcount]
    split <;> rfl

theorem Connection.settle_capped (c : Connection) (f : Flight) (isInline : Bool) (outcome : Outcome) (write : Write) :
    c.settle f isInline (outcome.capped write.remaining) write = c.settle f isInline outcome write := by
  cases write with
  | single buf =>
    have hmin (count : Nat) : min (min count (Write.single buf).remaining) buf.remaining = min count buf.remaining := by
      simp [Write.remaining, Write.buffers, remainingIn]
    simp only [settle, settleSingle, Outcome.written_capped]
    cases outcome.written with
    | error err => rfl
    | ok count => simp only [Except.map, hmin]
  | gather bufs =>
    simp only [settle, settleGather, Outcome.written_capped]
    cases outcome.written with
    | error err => rfl
    | ok count =>
      have hdrop : dropAll (min count (Write.gather bufs).remaining) bufs = dropAll count bufs :=
        dropAll_min_remainingIn count bufs
      simp only [Except.map, advanceAll_eq, hdrop]

def Answer.capped : Answer → Answer
  | returned outcome buf => returned (outcome.capped buf.remaining) buf
  | dropped => dropped

namespace System

variable {config : Config} {s s' : System} {moves : List Move} {a : Action} {sig : Option Signal} {t : ThreadId}

/-- The system with the reports that wait for a call cut off at the length of their write. -/
def capped (s : System) : System := s.setAnswers (s.answers.map Answer.capped)

/-- An action whose report is cut off at the length of the write that it ends. -/
def cappedAction (s : System) : Action → Action
  | .complete t w outcome =>
    .complete t w ((s.outstanding.find? w).elim outcome fun handed => outcome.capped handed.write.remaining)
  | a => a

/-- The same move, with no report beyond the end of a write. -/
def Move.capped (m : Move) : Move :=
  ⟨m.before.capped, m.before.cappedAction m.action, m.after.capped, m.signal⟩

@[simp]
theorem frame_capped (s : System) : s.capped.conn = s.conn ∧ s.capped.markers = s.markers ∧
    s.capped.threads = s.threads ∧ s.capped.outstanding = s.outstanding ∧ s.capped.nextWrite = s.nextWrite ∧
    s.capped.transportPending = s.transportPending :=
  ⟨rfl, rfl, rfl, rfl, rfl, rfl⟩

@[simp]
theorem thread_capped (s : System) (t : ThreadId) : s.capped.thread t = s.thread t := rfl

@[simp]
theorem find?_capped (s : System) (w : WriteId) : s.capped.answers.find? w = (s.answers.find? w).map Answer.capped :=
  Table.find?_map _ _ _

/-! ### One step -/

/-- What comes of a step, with the reports cut off. -/
def cappedTurn (x : Turn) : Turn := (x.1.capped, x.2)

section Turns

variable (s : System) (t : ThreadId) (rest : List Frame)

theorem startChain_capped (starter : Starter) (g : Guard) :
    s.capped.startChain t starter g = cappedTurn (s.startChain t starter g) := by
  simp only [startChain, frame_capped]
  cases s.conn.takeWrite.2 <;> rfl

theorem addNonBlocking_capped (src : Chunk) : s.capped.addNonBlocking t src = cappedTurn (s.addNonBlocking t src) := by
  simp only [addNonBlocking, Permit.tryAcquire, frame_capped]
  cases s.conn.permit.held with
  | false => rfl
  | true => cases s.conn.queue? src <;> rfl

theorem flush_capped (mode : Mode) : s.capped.flush t mode = cappedTurn (s.flush t mode) := by
  cases mode with
  | blocking => rfl
  | nonBlocking =>
    simp only [flush, Permit.tryAcquire, frame_capped]
    cases s.conn.permit.held with
    | false => exact startChain_capped (s.setPermit s.conn.permit.grant) t .flush s.conn.permit.nextGuard
    | true => rfl

theorem call_capped (c : Call) : s.capped.call t c = cappedTurn (s.call t c) := by
  cases c with
  | add src mode =>
    simp only [call, frame_capped]
    cases src.hasRemaining with
    | false => rfl
    | true =>
      cases s.conn.error with
      | some err => rfl
      | none =>
        cases mode with
        | blocking => rfl
        | nonBlocking => exact addNonBlocking_capped s t src
  | flush mode =>
    simp only [call, frame_capped]
    cases s.conn.error with
    | some err => rfl
    | none => exact flush_capped s t mode
  | registerInterest =>
    cases hheld : s.conn.permit.held <;>
      simp only [call, Connection.registerInterest, frame_capped, hheld, if_true, Bool.false_eq_true, if_false] <;> rfl
  | reset | recycle => rfl

theorem drive_capped (next : Deferral Job × Option Job) :
    s.capped.drive t rest next = cappedTurn (s.drive t rest next) := by
  obtain ⟨deferral, job⟩ := next
  cases job <;> rfl

theorem runAdding_capped (src : Chunk) : s.capped.runAdding t rest src = cappedTurn (s.runAdding t rest src) := by
  simp only [runAdding]
  cases src.hasRemaining <;> rfl

theorem runAdmitted_capped (src : Chunk) (g : Guard) :
    s.capped.runAdmitted t rest src g = cappedTurn (s.runAdmitted t rest src g) := by
  simp only [runAdmitted, frame_capped]
  cases s.conn.error <;> rfl

theorem runCollecting_capped (goal : Goal) :
    s.capped.runCollecting t rest goal = cappedTurn (s.runCollecting t rest goal) := by
  simp only [runCollecting, frame_capped]
  cases s.conn.error <;> rfl

theorem runSweeping_capped (sweep : Sweep) :
    s.capped.runSweeping t rest sweep = cappedTurn (s.runSweeping t rest sweep) := by
  obtain ⟨chunks, primary, goal⟩ := sweep
  cases chunks with
  | cons c chunks => rfl
  | nil =>
    cases primary with
    | some p => rfl
    | none => cases goal <;> rfl

theorem runWriting_capped (buf : Buffer) (sweep : Sweep) :
    s.capped.runWriting t rest buf sweep = cappedTurn (s.runWriting t rest buf sweep) := by
  simp only [runWriting]
  cases buf.hasRemaining <;> rfl

/-- A call that finds its answer cuts it off itself. -/
theorem runAwaitingReply_capped (w : WriteId) (sweep : Sweep) : s.capped.runAwaitingReply t rest w sweep
    = (s.runAwaitingReply t rest w sweep).map cappedTurn := by
  have herase : ({ s.capped with answers := s.capped.answers.erase w } : System)
      = ({ s with answers := s.answers.erase w } : System).capped := by
    simp [capped, setAnswers]
  simp only [runAwaitingReply, find?_capped, herase]
  cases s.answers.find? w with
  | none => rfl
  | some answer =>
    cases answer with
    | dropped => rfl
    | returned outcome buf =>
      simp only [Option.map_some, Answer.capped, Outcome.written_capped]
      cases outcome.written with
      | error err => rfl
      | ok count =>
        have hmin : min (min count buf.remaining) buf.remaining = min count buf.remaining := by omega
        simp only [Except.map, hmin, Buffer.advance_of_le (Nat.min_le_right count buf.remaining)]
        rfl

theorem run_capped : s.capped.run t = (s.run t).map cappedTurn := by
  simp only [run, thread_capped]
  cases (s.thread t).stack with
  | nil => rfl
  | cons frame rest =>
    cases frame with
    | inTransport w | attaching err | notifying event | answering reply | issuing m starter | refusing err g
    | yielding goal g => rfl
    | telling event => cases event <;> rfl
    | driving | carrying job => exact congrArg some (drive_capped s t rest _)
    | starting starter g => exact congrArg some (startChain_capped (s.setStack t rest) t starter g)
    | adding src => exact congrArg some (runAdding_capped s t rest src)
    | awaitingRoom src buffered limit =>
      simp only [runAwaitingRoom, Permit.tryAcquire, frame_capped]
      cases s.conn.permit.held <;> rfl
    | admitted src g => exact congrArg some (runAdmitted_capped s t rest src g)
    | awaitingChain goal =>
      simp only [runAwaitingChain, Permit.tryAcquire, frame_capped]
      cases s.conn.permit.held <;> rfl
    | collecting goal => exact congrArg some (runCollecting_capped s t rest goal)
    | sweeping sweep => exact congrArg some (runSweeping_capped s t rest sweep)
    | writing buf sweep => exact congrArg some (runWriting_capped s t rest buf sweep)
    | awaitingReply w sweep => exact runAwaitingReply_capped s t rest w sweep

theorem expire_capped : s.capped.expire t = (s.expire t).map cappedTurn := by
  simp only [expire, thread_capped]
  cases (s.thread t).stack with
  | nil => rfl
  | cons frame rest =>
    cases frame with
    | awaitingRoom src buffered limit | awaitingChain goal =>
      simp only [frame_capped]
      cases s.conn.permit.held <;> rfl
    | awaitingReply w sweep =>
      simp only [find?_capped]
      cases s.answers.find? w <;> rfl
    | _ => rfl

theorem resume_capped : s.capped.resume t = (s.resume t).map cappedTurn := by
  simp only [resume, thread_capped]
  cases (s.thread t).stack with
  | nil => rfl
  | cons frame rest => cases frame <;> rfl

theorem set_capped (w : WriteId) (answer : Answer) : s.capped.setAnswers (s.capped.answers.set w answer.capped)
    = (s.setAnswers (s.answers.set w answer)).capped := by
  simp [capped, setAnswers]

/-- The end of a write of a chain cuts the report off, and that of a round trip leaves this to the call. -/
theorem complete_capped {handed : Handed} (w : WriteId) (hw : s.outstanding.find? w = some handed) (outcome : Outcome) :
    s.capped.complete t w (outcome.capped handed.write.remaining) = (s.complete t w outcome).map cappedTurn := by
  simp only [complete, frame_capped, hw]
  cases handed with
  | stray buf => rfl
  | trip buf => exact congrArg (fun s' => some (s', none)) (set_capped (s.endWrite w) w (.returned outcome buf))
  | chain write flight =>
    simp only [Handed.write, Connection.settle_capped]
    cases s.conn.settle flight (s.markers.isInline flight.marker t) outcome write with
    | error f => rfl
    | ok r =>
      obtain ⟨conn, verdict⟩ := r
      cases verdict with
      | finished notify => cases notify <;> rfl
      | _ => rfl

theorem abandon_capped (w : WriteId) : s.capped.abandon w = (s.abandon w).map cappedTurn := by
  simp only [abandon, frame_capped]
  cases s.outstanding.find? w with
  | none => rfl
  | some handed =>
    cases handed with
    | trip buf => exact congrArg (fun s' => some (s', none)) (set_capped (s.endWrite w) w .dropped)
    | _ => rfl

/-- A report beyond the end of a write does the same as its length. -/
theorem perform_capped (a : Action) : s.capped.perform (s.cappedAction a) = (s.perform a).map cappedTurn := by
  cases a with
  | call t c =>
    cases hout : (s.thread t).isOutside with
    | true =>
      simp only [cappedAction, perform, thread_capped, hout, if_true]
      exact congrArg some (call_capped s t c)
    | false => simp [cappedAction, perform, hout]
  | run t => exact run_capped s t
  | expire t => exact expire_capped s t
  | resume t => exact resume_capped s t
  | complete t w outcome =>
    cases hout : (s.thread t).isOutside with
    | true =>
      simp only [cappedAction, perform, thread_capped, hout, if_true]
      cases hw : s.outstanding.find? w with
      | none => simp [complete, hw]
      | some handed => exact complete_capped s t w hw outcome
    | false => simp [cappedAction, perform, hout]
  | abandon w => exact abandon_capped s w
  | transportPending pending => rfl

end Turns

/-! ### Whole runs -/

theorem capped_run (run : Run (fresh config) moves s) : Run (fresh config) (moves.map Move.capped) s.capped := by
  induction run with
  | nil => exact .nil
  | @snoc moves s a s' sig run h ih =>
    have hstep : s.capped.perform (s.cappedAction a) = some (s'.capped, sig) := by
      rw [perform_capped, h]
      rfl
    rw [List.map_append]
    exact ih.snoc hstep

/-- No step runs into a failed assertion. -/
theorem no_fault_step (h : Step s a s' sig) (f : Fault) : sig ≠ some (.fault f) := by
  cases h <;> simp

theorem no_fault_run (run : Run (fresh config) moves s) : ∀ m ∈ moves, ∀ f, m.signal ≠ some (.fault f) := by
  induction run with
  | nil => simp
  | snoc run h ih =>
    rw [List.forall_mem_append, List.forall_mem_singleton]
    exact ⟨ih, no_fault_step (step_perform h)⟩

/-- Whatever the transport reports, no assertion about a cursor fails, and each primary buffer has its cursor where
there are bytes and these where there is room. With each report cut off at the length of its write the same steps lead
to the same state with the same signals, up to reports that wait for a call. -/
theorem counts_harmless (run : Run (fresh config) moves s) :
    (∀ m ∈ moves, ∀ f, m.signal ≠ some (.fault f)) ∧
    (∀ p ∈ s.primaryBuffers, p.pos ≤ p.filled.size ∧ p.filled.size ≤ p.capacity ∧ p.capacity = config.bufferSize) ∧
    Run (fresh config) (moves.map Move.capped) s.capped := by
  refine ⟨no_fault_run run, fun p hp => ?_, capped_run run⟩
  obtain ⟨⟨hpos, hfilled⟩, hcapacity⟩ := wellFormed_primaryBuffers (sound_run run) p hp
  exact ⟨hpos, hfilled, hcapacity⟩

/-- The counts that the transport reports. -/
def counts (moves : List Move) : List Int :=
  moves.filterMap fun m => match m.action with
    | .complete _ _ (.ok count) => some count
    | _ => none

/-- Far too much is reported for a chain and for a round trip, then less than nothing for another chain. -/
theorem counts_harmless_extremes : ∃ moves s, Run (fresh {}) moves s ∧
    counts moves = [9223372036854775807, 9223372036854775807, -9223372036854775808] ∧
    counts (moves.map Move.capped) = [2, 1, -9223372036854775808] ∧
    (∀ m ∈ moves, ∀ f, m.signal ≠ some (.fault f)) ∧
    (∀ p ∈ s.primaryBuffers, p.pos ≤ p.filled.size ∧ p.filled.size ≤ p.capacity ∧ p.capacity = 8192) ∧
    Run (fresh {}) (moves.map Move.capped) s.capped := by
  obtain ⟨moves, s, run, hcounts, hcapped⟩ := Run.exists_of_follow (fresh {})
    [.call 0 (.add { bytes := ⟨#[97, 98]⟩ } .nonBlocking), .run 0, .run 0, .resume 0, .run 0, .run 0,
      .complete 1 0 (.ok 9223372036854775807), .call 0 (.add { bytes := ⟨#[99]⟩ } .blocking), .run 0, .run 0,
      .call 0 (.flush .blocking), .run 0, .run 0, .run 0, .complete 1 1 (.ok 9223372036854775807), .resume 0, .run 0,
      .run 0, .run 0, .call 0 (.add { bytes := ⟨#[100]⟩ } .nonBlocking), .run 0, .run 0, .resume 0, .run 0, .run 0,
      .complete 1 2 (.ok (-9223372036854775808)), .run 1, .resume 1, .resume 1]
    (P := fun moves _ => counts moves = [9223372036854775807, 9223372036854775807, -9223372036854775808] ∧
      counts (moves.map Move.capped) = [2, 1, -9223372036854775808]) (by decide +kernel)
  obtain ⟨hfault, hbuffers, hrun⟩ := counts_harmless run
  exact ⟨moves, s, run, hcounts, hcapped, hfault, hbuffers, hrun⟩

end System

end Outflow
