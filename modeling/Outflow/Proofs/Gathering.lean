import Outflow.Proofs.Conservation
import Outflow.Proofs.Numbering

/-! Single writes and gathering writes of one buffer end alike, so a system that only gathers does the same. -/
namespace Outflow

/-! ### Gathering -/

/-- A single write as a gathering write of one buffer. -/
def Write.gathered (w : Write) : Write := .gather w.buffers

def Job.gathered (job : Job) : Job := { job with write := job.write.gathered }

def Verdict.gathered : Verdict → Verdict
  | reissue write => reissue write.gathered
  | v => v

def Frame.gathered : Frame → Frame
  | carrying job => carrying job.gathered
  | f => f

def Thread.gathered (th : Thread) : Thread :=
  { stack := th.stack.map Frame.gathered, deferral := th.deferral.map Job.gathered }

/-- Only the writes of chains are gathered, round trips stay what they are. -/
def Handed.gathered : Handed → Handed
  | chain write flight => chain write.gathered flight
  | h => h

namespace System

/-- The system with each single write of a chain, waiting or handed over, as a gathering write of one buffer. -/
def gathered (s : System) : System :=
  { s with threads := s.threads.map Thread.gathered, outstanding := s.outstanding.map Handed.gathered }

/-- The move of a system in which all writes of chains are gathered. -/
def Move.gathered (m : Move) : Move := { m with before := m.before.gathered, after := m.after.gathered }

/-- A run in which each single write of a chain is replaced by a gathering write of one buffer. -/
inductive GatheringRun (start : System) : List Move → System → Prop
  | nil : GatheringRun start [] start
  | snoc {moves s a s' sig} (run : GatheringRun start moves s) (h : s.perform a = some (s', sig)) :
      GatheringRun start (moves ++ [⟨s, a, s'.gathered, sig⟩]) s'.gathered

end System

@[simp]
theorem Job.gathered_comp : Job.gathered ∘ Job.gathered = Job.gathered := rfl

@[simp]
theorem Frame.gathered_gathered (frame : Frame) : frame.gathered.gathered = frame.gathered := by
  cases frame <;> rfl

@[simp]
theorem Frame.gathered_comp : Frame.gathered ∘ Frame.gathered = Frame.gathered :=
  funext Frame.gathered_gathered

theorem Handed.gathered_comp : Handed.gathered ∘ Handed.gathered = Handed.gathered :=
  funext fun h => by cases h <;> rfl

theorem Handed.buffers_gathered (h : Handed) : h.gathered.write.buffers = h.write.buffers := by
  cases h <;> rfl

@[simp]
theorem Deferral.map_map {α β γ : Type} (f : α → β) (g : β → γ) (q : Deferral α) :
    (q.map f).map g = q.map (g ∘ f) := by
  cases q <;> simp [Deferral.map]

namespace Thread

@[simp]
theorem gathered_comp : Thread.gathered ∘ Thread.gathered = Thread.gathered :=
  funext fun th => by simp [Thread.gathered]

theorem isIdle_gathered (th : Thread) : th.gathered.isIdle = th.isIdle := by
  obtain ⟨stack, deferral⟩ := th
  cases stack <;> cases deferral <;> rfl

@[simp]
theorem isOutside_gathered (th : Thread) : th.gathered.isOutside = th.isOutside := by
  obtain ⟨stack, deferral⟩ := th
  cases stack with
  | nil => rfl
  | cons frame rest => cases frame <;> rfl

end Thread

/-- With nothing else to send a buffer goes out as it came. -/
theorem Store.drain_alone {s : Store} {buf : Buffer} (hlen : s.overflowLen = Chunk.total s.overflow)
    (hs : s.hasFollowUp = false) (hb : buf.hasRemaining = true) : s.drain [buf] = (s, [buf]) := by
  obtain ⟨hp, hf⟩ := Bool.or_eq_false_iff.1 hs
  have hnone : s.overflow = [] := hasPending_eq_false_iff.1 hp
  have hbacklog : s.backlog = [] := List.reverse_eq_nil_iff.1 hnone
  have hzero : s.overflowLen = 0 := by rw [hlen, hnone, Chunk.total]
  obtain ⟨p, hsp, hr, -⟩ | ⟨-, heq⟩ := s.takePrimaryIfPending_cases
  · simp [hsp, hr] at hf
  · obtain ⟨capacity, primary, backlog, overflowLen⟩ := s
    simp_all [drain, takeOverflow]

namespace Connection

variable {c : Connection} {f : Flight} {isInline : Bool} {outcome : Outcome} {buf : Buffer} {count : Nat}

/-- The end of a single write, and that of a gathering write of the same buffer. -/
theorem settle_gather_alone (hlen : c.store.overflowLen = Chunk.total c.store.overflow) :
    c.settle f isInline outcome (.gather [buf])
      = (c.settle f isInline outcome (.single buf)).map fun r => (r.1, r.2.gathered) := by
  simp only [settle, settleSingle, settleGather]
  cases outcome.written with
  | error err => cases hg : c.permit.isCurrent f.guard <;> simp [fail, hg, Except.map, Verdict.gathered]
  | ok count =>
    have hdrop : dropAll count [buf] = [buf.drop (min count buf.remaining)] := rfl
    simp only [advanceAll_eq, hdrop, Buffer.advance_of_le (Nat.min_le_right count buf.remaining), bind, Except.bind]
    generalize buf.drop (min count buf.remaining) = rest
    cases hg : c.permit.isCurrent f.guard with
    | false => rfl
    | true =>
      cases hs : c.store.hasFollowUp with
      | true => rfl
      | false =>
        cases hr : rest.hasRemaining with
        | true =>
          simp [hr, Store.drain_alone hlen hs hr, pure, Except.pure, Except.map, Verdict.gathered, Write.gathered,
            Write.buffers]
        | false => simp [hr, pure, Except.pure, Except.map, finish, Verdict.gathered]

theorem settle_gathered (hlen : c.store.overflowLen = Chunk.total c.store.overflow) (write : Write) :
    c.settle f isInline outcome write.gathered
      = (c.settle f isInline outcome write).map fun r => (r.1, r.2.gathered) := by
  cases write with
  | single buf => exact settle_gather_alone hlen
  | gather bufs =>
    simp only [Write.gathered, Write.buffers, settle, settleGather]
    cases outcome.written with
    | error err => cases hg : c.permit.isCurrent f.guard <;> simp [fail, hg, Except.map, Verdict.gathered]
    | ok count =>
      simp only [advanceAll_eq, bind, Except.bind]
      split
      · rfl
      · split <;> rfl

/-- What is left of a single write goes out alone if there is nothing else to send. -/
theorem settle_single_alone_iff {c' : Connection} {v : Verdict} {rest : Buffer}
    (h : c.settle f isInline outcome (.single buf) = .ok (c', v)) : v = .reissue (.single rest) ↔
      ∃ count, outcome.written = .ok count ∧ c.permit.isCurrent f.guard = true ∧ c.store.hasFollowUp = false ∧
        rest = buf.drop (min count buf.remaining) ∧ rest.hasRemaining = true := by
  obtain ⟨c₁, v₁, heq, hset⟩ := settle_cases c f isInline outcome (.single buf)
  obtain ⟨rfl, rfl⟩ := Prod.mk.inj (Except.ok.inj (heq.symm.trans h))
  constructor
  · rintro rfl
    cases hset with
    | alone hw hg hs hb hr =>
      obtain rfl := List.singleton_inj.1 hb
      exact ⟨_, hw, hg, hs, rfl, hr⟩
  · rintro ⟨count, hw, hg, hs, rfl, hr⟩
    simp [settle, settleSingle, hw, hg, hs, hr, Buffer.advance_of_le (Nat.min_le_right count buf.remaining), bind,
      Except.bind, pure, Except.pure] at h
    exact h.2.symm

end Connection

namespace System

variable {s s' : System} {t : ThreadId} {rest : List Frame} {a : Action} {sig : Option Signal}

@[simp]
theorem gathered_gathered (s : System) : s.gathered.gathered = s.gathered := by
  simp [gathered, Handed.gathered_comp]

@[simp]
theorem frame_gathered (s : System) : s.gathered.conn = s.conn ∧ s.gathered.markers = s.markers ∧
    s.gathered.answers = s.answers ∧ s.gathered.nextWrite = s.nextWrite ∧
    s.gathered.transportPending = s.transportPending :=
  ⟨rfl, rfl, rfl, rfl, rfl⟩

@[simp]
theorem find?_gathered (s : System) (w : WriteId) :
    s.gathered.outstanding.find? w = (s.outstanding.find? w).map Handed.gathered :=
  Table.find?_map _ _ _

@[simp]
theorem thread_gathered (s : System) (t : ThreadId) : s.gathered.thread t = (s.thread t).gathered := by
  unfold thread
  rw [gathered, Table.find?_map]
  cases s.threads.find? t <;> rfl

@[simp]
theorem gathered_setThread (s : System) (t : ThreadId) (th : Thread) :
    (s.setThread t th).gathered = s.gathered.setThread t th.gathered := by
  unfold setThread
  rw [Thread.isIdle_gathered]
  cases th.isIdle <;> simp [gathered]

@[simp]
theorem gathered_setStack (s : System) (t : ThreadId) (stack : List Frame) :
    (s.setStack t stack).gathered = s.gathered.setStack t (stack.map Frame.gathered) := by
  rw [setStack, gathered_setThread, setStack, thread_gathered]
  rfl

@[simp]
theorem gathered_push (s : System) (t : ThreadId) (frame : Frame) :
    (s.push t frame).gathered = s.gathered.push t frame.gathered := by
  rw [push, gathered_setStack, push, thread_gathered]
  rfl

@[simp]
theorem gathered_withConn (s : System) (conn : Connection) :
    ({ s with conn } : System).gathered = { s.gathered with conn } := rfl

@[simp]
theorem gathered_setConn (s : System) (conn : Connection) : (s.setConn conn).gathered = s.gathered.setConn conn := rfl

@[simp]
theorem gathered_setMarkers (s : System) (markers : Markers) :
    (s.setMarkers markers).gathered = s.gathered.setMarkers markers := rfl

@[simp]
theorem gathered_withAnswers (s : System) (answers : Table Answer) :
    ({ s with answers } : System).gathered = { s.gathered with answers } := rfl

/-! ### Turns of two systems that are the same when gathered -/

/-- The turn of a system in which all writes of chains are gathered. -/
def gatheredTurn (x : Turn) : Turn := (x.1.gathered, x.2)

section Turns

variable {s f : System} {t : ThreadId} {rest rest' : List Frame} {goal : Goal} {sweep : Sweep} {src : Chunk}
  {g : Guard}

theorem conn_of_gathered (h : s.gathered = f.gathered) : s.conn = f.conn := by
  rw [← s.frame_gathered.1, h, f.frame_gathered.1]

theorem answer_gathered (h : s.gathered = f.gathered) (reply : Reply) :
    gatheredTurn (s.answer reply) = gatheredTurn (f.answer reply) := by
  simp [answer, gatheredTurn, h]

theorem answerStarter_gathered (h : s.gathered = f.gathered) (starter : Starter) :
    gatheredTurn (s.answerStarter starter) = gatheredTurn (f.answerStarter starter) := by
  have hdata : s.hasData = f.hasData := by
    have hpending : s.gathered.transportPending = f.gathered.transportPending := by rw [h]
    rw [hasData, hasData, conn_of_gathered h]
    exact congrArg _ hpending
  rw [answerStarter, hdata]
  exact answer_gathered h _

theorem handOver_gathered (h : s.gathered = f.gathered) {x y : Handed} (hxy : x.gathered = y.gathered) :
    gatheredTurn (s.handOver t x) = gatheredTurn (f.handOver t y) := by
  have hnext : s.nextWrite = f.nextWrite := by
    rw [← s.frame_gathered.2.2.2.1, h, f.frame_gathered.2.2.2.1]
  have hset :
      ({ s with outstanding := s.outstanding.set f.nextWrite x, nextWrite := f.nextWrite + 1 } : System).gathered
        = ({ f with outstanding := f.outstanding.set f.nextWrite y, nextWrite := f.nextWrite + 1 } :
            System).gathered := by
    simp only [gathered, System.mk.injEq, Table.map_set, hxy] at h ⊢
    simp [h]
  simp only [handOver, gatheredTurn, gathered_push, hnext, hset]

theorem startChain_gathered (h : s.gathered = f.gathered) (starter : Starter) :
    gatheredTurn (s.startChain t starter g) = gatheredTurn (f.startChain t starter g) := by
  have hmarkers : s.markers = f.markers := by rw [← s.frame_gathered.2.1, h, f.frame_gathered.2.1]
  simp only [startChain, conn_of_gathered h]
  cases f.conn.takeWrite.2 with
  | none => exact answerStarter_gathered (by simp [h, conn_of_gathered h]) starter
  | some write => simp [gatheredTurn, h, hmarkers, conn_of_gathered h]

theorem addNonBlocking_gathered (h : s.gathered = f.gathered) :
    gatheredTurn (s.addNonBlocking t src) = gatheredTurn (f.addNonBlocking t src) := by
  simp only [addNonBlocking, Permit.tryAcquire, conn_of_gathered h]
  cases f.conn.permit.held with
  | false => simp [gatheredTurn, h, conn_of_gathered h]
  | true =>
    cases f.conn.queue? src with
    | ok conn => exact answer_gathered (by simp [h]) .done
    | error full => simp [gatheredTurn, h]

theorem flush_gathered (h : s.gathered = f.gathered) (mode : Mode) :
    gatheredTurn (s.flush t mode) = gatheredTurn (f.flush t mode) := by
  cases mode with
  | blocking => simp [flush, sweepFrame, gatheredTurn, h, conn_of_gathered h]
  | nonBlocking =>
    simp only [flush, Permit.tryAcquire, conn_of_gathered h]
    cases f.conn.permit.held with
    | false => exact startChain_gathered (by simp [h, conn_of_gathered h]) .flush
    | true => exact answerStarter_gathered h .flush

theorem call_gathered (h : s.gathered = f.gathered) (c : Call) :
    gatheredTurn (s.call t c) = gatheredTurn (f.call t c) := by
  cases c with
  | add src mode =>
    simp only [call, conn_of_gathered h]
    cases src.hasRemaining with
    | false => exact answer_gathered h .done
    | true =>
      cases f.conn.error with
      | some err => exact answer_gathered h _
      | none =>
        cases mode with
        | blocking => simp [gatheredTurn, h]
        | nonBlocking => exact addNonBlocking_gathered h
  | flush mode =>
    simp only [call, conn_of_gathered h]
    cases f.conn.error with
    | some err => exact answer_gathered h _
    | none => exact flush_gathered h mode
  | registerInterest =>
    simp only [call, conn_of_gathered h]
    cases f.conn.registerInterest.2 with
    | true => simp [gatheredTurn, h]
    | false => exact answer_gathered (by simp [h]) .done
  | reset =>
    simp only [call, conn_of_gathered h]
    exact answer_gathered (by simp [h]) .done
  | recycle =>
    simp only [call, conn_of_gathered h]
    exact answer_gathered (by simp [h]) .done

/-! ### Steps of a thread -/

variable (hrest : rest.map Frame.gathered = rest'.map Frame.gathered)

include hrest

theorem runAdding_gathered (h : s.gathered = f.gathered) :
    gatheredTurn (s.runAdding t rest src) = gatheredTurn (f.runAdding t rest' src) := by
  simp only [runAdding, conn_of_gathered h]
  cases src.hasRemaining with
  | false => exact answer_gathered (by simp [h, hrest]) .done
  | true => simp [gatheredTurn, sweepFrame, h, hrest, conn_of_gathered h]

theorem drive_gathered (h : s.gathered = f.gathered) {x y : Deferral Job × Option Job}
    (hqueue : x.1.map Job.gathered = y.1.map Job.gathered) (hjob : x.2.map Job.gathered = y.2.map Job.gathered) :
    gatheredTurn (s.drive t rest x) = gatheredTurn (f.drive t rest' y) := by
  obtain ⟨queue, job⟩ := x
  obtain ⟨queue', job'⟩ := y
  have hthread (frames : List Frame) : (s.setThread t { stack := frames ++ rest, deferral := queue }).gathered
      = (f.setThread t { stack := frames ++ rest', deferral := queue' }).gathered := by
    simp [Thread.gathered, h, hrest, hqueue]
  cases job with
  | none =>
    cases job' with
    | none => exact Prod.ext (hthread []) rfl
    | some job' => simp at hjob
  | some job =>
    cases job' with
    | none => simp at hjob
    | some job' =>
      simp only [Option.map_some, Option.some.injEq, Job.gathered, Job.mk.injEq] at hjob
      exact handOver_gathered (hthread [.driving]) (by simp [Handed.gathered, hjob])

theorem runAdmitted_gathered (h : s.gathered = f.gathered) :
    gatheredTurn (s.runAdmitted t rest src g) = gatheredTurn (f.runAdmitted t rest' src g) := by
  simp only [runAdmitted, conn_of_gathered h]
  cases f.conn.error <;> simp [gatheredTurn, h, hrest, conn_of_gathered h]

theorem runCollecting_gathered (h : s.gathered = f.gathered) :
    gatheredTurn (s.runCollecting t rest goal) = gatheredTurn (f.runCollecting t rest' goal) := by
  simp only [runCollecting, conn_of_gathered h]
  cases f.conn.error with
  | some err => exact answer_gathered (by simp [h, hrest]) _
  | none => simp [gatheredTurn, h, hrest, conn_of_gathered h]

theorem runSweeping_gathered (h : s.gathered = f.gathered) :
    gatheredTurn (s.runSweeping t rest sweep) = gatheredTurn (f.runSweeping t rest' sweep) := by
  obtain ⟨chunks, primary, goal⟩ := sweep
  simp only [runSweeping, conn_of_gathered h]
  cases chunks with
  | cons c chunks => simp [gatheredTurn, h, hrest]
  | nil =>
    cases primary with
    | some p => simp [gatheredTurn, h, hrest]
    | none =>
      cases goal with
      | flush => exact answer_gathered (by simp [h, hrest, conn_of_gathered h]) _
      | add src => simp [gatheredTurn, h, hrest, conn_of_gathered h]

theorem runWriting_gathered (h : s.gathered = f.gathered) (buf : Buffer) :
    gatheredTurn (s.runWriting t rest buf sweep) = gatheredTurn (f.runWriting t rest' buf sweep) := by
  have hnext : s.nextWrite = f.nextWrite := by rw [← s.frame_gathered.2.2.2.1, h, f.frame_gathered.2.2.2.1]
  simp only [runWriting, hnext, conn_of_gathered h]
  cases buf.hasRemaining with
  | true => exact handOver_gathered (by simp [h, hrest]) rfl
  | false => simp [gatheredTurn, h, hrest, conn_of_gathered h]

theorem failSweep_gathered (h : s.gathered = f.gathered) (err : Error) (returned : Option Buffer) :
    gatheredTurn (s.failSweep t rest sweep err returned) = gatheredTurn (f.failSweep t rest' sweep err returned) := by
  rw [failSweep, failSweep, conn_of_gathered h]
  exact answer_gathered (by simp [h, hrest, conn_of_gathered h]) _

theorem runAwaitingReply_gathered (h : s.gathered = f.gathered) (w : WriteId) :
    (s.runAwaitingReply t rest w sweep).map gatheredTurn = (f.runAwaitingReply t rest' w sweep).map gatheredTurn := by
  have hanswers : s.answers = f.answers := by rw [← s.frame_gathered.2.2.1, h, f.frame_gathered.2.2.1]
  simp only [runAwaitingReply, hanswers]
  cases f.answers.find? w with
  | none => rfl
  | some answer =>
    cases answer with
    | dropped => exact congrArg some (failSweep_gathered hrest (by simp [h]) _ _)
    | returned outcome buf =>
      dsimp only
      cases outcome.written with
      | error err => exact congrArg some (failSweep_gathered hrest (by simp [h]) _ _)
      | ok count => simp [Buffer.advance_of_le (Nat.min_le_right count buf.remaining), gatheredTurn, h, hrest]

theorem runIssuing_gathered (h : s.gathered = f.gathered) (m : MarkerId) (starter : Starter) :
    gatheredTurn (s.runIssuing t rest m starter) = gatheredTurn (f.runIssuing t rest' m starter) := by
  have hmarkers : s.markers = f.markers := by rw [← s.frame_gathered.2.1, h, f.frame_gathered.2.1]
  rw [runIssuing, runIssuing, hmarkers]
  exact answerStarter_gathered (by simp [h, hrest]) starter

end Turns

/-! ### A system and what it becomes when gathered -/

section Lockstep

variable {s : System} {t : ThreadId}

theorem run_gathered (s : System) (t : ThreadId) :
    (s.gathered.run t).map gatheredTurn = (s.run t).map gatheredTurn := by
  have hself := s.gathered_gathered
  have hdeferral : (s.gathered.thread t).deferral = (s.thread t).deferral.map Job.gathered := by simp [Thread.gathered]
  have hstack : (s.gathered.thread t).stack = (s.thread t).stack.map Frame.gathered := by simp [Thread.gathered]
  simp only [run, hdeferral, hstack]
  cases (s.thread t).stack with
  | nil => rfl
  | cons frame rest =>
    have hrest : (rest.map Frame.gathered).map Frame.gathered = rest.map Frame.gathered := by simp
    cases frame with
    | inTransport w | attaching err | notifying event => rfl
    | telling event => cases event <;> simp [runTelling, gatheredTurn, Frame.gathered]
    | answering reply => exact congrArg some (answer_gathered (by simp) reply)
    | driving => exact congrArg some (drive_gathered hrest hself (by simp) (by simp))
    | carrying job =>
      refine congrArg some (drive_gathered hrest hself ?_ ?_)
      · simp
      · simp
    | starting starter g => exact congrArg some (startChain_gathered (by simp) starter)
    | issuing m starter => exact congrArg some (runIssuing_gathered hrest hself m starter)
    | adding src => exact congrArg some (runAdding_gathered hrest hself)
    | awaitingRoom src buffered limit =>
      cases hheld : s.conn.permit.held <;>
        simp [runAwaitingRoom, Permit.tryAcquire, hheld, gatheredTurn, Frame.gathered]
    | admitted src g => exact congrArg some (runAdmitted_gathered hrest hself)
    | refusing err g => exact congrArg some (answer_gathered (by simp) _)
    | awaitingChain goal =>
      cases hheld : s.conn.permit.held <;>
        simp [runAwaitingChain, Permit.tryAcquire, hheld, gatheredTurn, Frame.gathered]
    | yielding goal g => simp [runYielding, gatheredTurn, Frame.gathered]
    | collecting goal => exact congrArg some (runCollecting_gathered hrest hself)
    | sweeping sweep => exact congrArg some (runSweeping_gathered hrest hself)
    | writing buf sweep => exact congrArg some (runWriting_gathered hrest hself buf)
    | awaitingReply w sweep => exact runAwaitingReply_gathered hrest hself w

theorem resume_gathered (s : System) (t : ThreadId) :
    (s.gathered.resume t).map gatheredTurn = (s.resume t).map gatheredTurn := by
  have hstack : (s.gathered.thread t).stack = (s.thread t).stack.map Frame.gathered := by simp [Thread.gathered]
  simp only [resume, hstack]
  cases (s.thread t).stack with
  | nil => rfl
  | cons frame rest => cases frame <;> simp [Frame.gathered, gatheredTurn]

theorem expire_gathered (s : System) (t : ThreadId) :
    (s.gathered.expire t).map gatheredTurn = (s.expire t).map gatheredTurn := by
  have hstack : (s.gathered.thread t).stack = (s.thread t).stack.map Frame.gathered := by simp [Thread.gathered]
  simp only [expire, hstack]
  cases (s.thread t).stack with
  | nil => rfl
  | cons frame rest =>
    have hrest : (rest.map Frame.gathered).map Frame.gathered = rest.map Frame.gathered := by simp
    cases frame with
    | awaitingRoom src buffered limit =>
      cases hheld : s.conn.permit.held <;> simp [hheld, gatheredTurn, Frame.gathered, answer]
    | awaitingChain goal => cases hheld : s.conn.permit.held <;> simp [hheld, gatheredTurn, Frame.gathered]
    | awaitingReply w sweep =>
      have hdisown : (s.gathered.disown w).gathered = (s.disown w).gathered := by
        simp only [disown, find?_gathered]
        cases s.outstanding.find? w with
        | none => exact s.gathered_gathered
        | some handed => cases handed <;> simp [gathered, Handed.gathered, Handed.gathered_comp]
      simp only [List.map_cons, Frame.gathered, frame_gathered]
      cases (s.answers.find? w).isNone with
      | true => exact congrArg some (failSweep_gathered hrest hdisown .timeout none)
      | false => rfl
    | _ => rfl

theorem endWrite_gathered (s : System) (w : WriteId) : (s.gathered.endWrite w).gathered = (s.endWrite w).gathered := by
  simp [endWrite, gathered, Handed.gathered_comp]

theorem complete_gathered (hlen : s.conn.store.overflowLen = Chunk.total s.conn.store.overflow) (w : WriteId)
    (outcome : Outcome) : (s.gathered.complete t w outcome).map gatheredTurn
      = (s.complete t w outcome).map gatheredTurn := by
  have hend := endWrite_gathered s w
  simp only [complete, find?_gathered]
  cases s.outstanding.find? w with
  | none => rfl
  | some handed =>
    cases handed with
    | stray buf => exact congrArg some (Prod.ext hend rfl)
    | trip buf =>
      exact congrArg some (Prod.ext (congrArg (setAnswers · (s.answers.set w (.returned outcome buf))) hend) rfl)
    | chain write flight =>
      simp only [Option.map_some, Handed.gathered, frame_gathered, Connection.settle_gathered hlen]
      cases s.conn.settle flight (s.markers.isInline flight.marker t) outcome write with
      | error f => exact congrArg some (Prod.ext hend rfl)
      | ok r =>
        obtain ⟨conn, v⟩ := r
        have hconn : ((s.gathered.endWrite w).setConn conn).gathered = ((s.endWrite w).setConn conn).gathered :=
          congrArg (setConn · conn) hend
        have hpush {frame frame' : Frame} (hframe : frame.gathered = frame'.gathered) :
            (((s.gathered.endWrite w).setConn conn).push t frame).gathered
              = (((s.endWrite w).setConn conn).push t frame').gathered := by
          rw [gathered_push, gathered_push, hconn, hframe]
        cases v with
        | stale => exact congrArg some (Prod.ext hconn rfl)
        | reissue next => exact congrArg some (Prod.ext (hpush rfl) rfl)
        | finished notify =>
          cases notify with
          | true => exact congrArg some (Prod.ext (hpush rfl) rfl)
          | false => exact congrArg some (Prod.ext hconn rfl)
        | failed err => exact congrArg some (Prod.ext (hpush rfl) rfl)

theorem abandon_gathered (s : System) (w : WriteId) :
    (s.gathered.abandon w).map gatheredTurn = (s.abandon w).map gatheredTurn := by
  have hend := endWrite_gathered s w
  simp only [abandon, find?_gathered]
  cases s.outstanding.find? w with
  | none => rfl
  | some handed =>
    cases handed with
    | stray buf => exact congrArg some (Prod.ext hend rfl)
    | trip buf => exact congrArg some (Prod.ext (congrArg (setAnswers · (s.answers.set w .dropped)) hend) rfl)
    | chain write flight =>
      exact congrArg some (Prod.ext (congrArg (setPermit · (s.conn.permit.release flight.guard)) hend) rfl)

/-- Both systems can do the same, with the same signals, and stay the same up to gathering. -/
theorem perform_gathered (hlen : s.conn.store.overflowLen = Chunk.total s.conn.store.overflow) (a : Action) :
    (s.gathered.perform a).map gatheredTurn = (s.perform a).map gatheredTurn := by
  have hself := s.gathered_gathered
  cases a with
  | call t c =>
    simp only [perform, thread_gathered, Thread.isOutside_gathered]
    split
    · exact congrArg some (call_gathered hself c)
    · rfl
  | run t => exact run_gathered s t
  | expire t => exact expire_gathered s t
  | resume t => exact resume_gathered s t
  | complete t w outcome =>
    simp only [perform, thread_gathered, Thread.isOutside_gathered]
    split
    · exact complete_gathered hlen w outcome
    · rfl
  | abandon w => exact abandon_gathered s w
  | transportPending pending => exact congrArg some (Prod.ext (congrArg (setTransportPending · pending) hself) rfl)

end Lockstep

/-! ### Whole runs -/

section Runs

variable {config : Config} {s s' : System} {moves : List Move}

theorem overflowLen_run (run : Run (fresh config) moves s) :
    s.conn.store.overflowLen = Chunk.total s.conn.store.overflow :=
  (sound_run run).store.wellFormed.length

theorem gathered_run (run : Run (fresh config) moves s) :
    GatheringRun (fresh config) (moves.map Move.gathered) s.gathered := by
  induction run with
  | nil => exact .nil
  | @snoc moves s a s' sig run h ih =>
    have hstep := perform_gathered (overflowLen_run run) a
    rw [h, Option.map_some, Option.map_eq_some_iff] at hstep
    obtain ⟨⟨s₁, sig₁⟩, hperform, heq⟩ := hstep
    obtain ⟨hsame, rfl⟩ := Prod.mk.inj heq
    rw [List.map_append, ← hsame]
    have hnext := ih.snoc hperform
    rwa [hsame] at hnext ⊢

theorem exists_run_of_gathering {moves' : List Move} (run : GatheringRun (fresh config) moves' s') :
    ∃ moves s, Run (fresh config) moves s ∧ moves' = moves.map Move.gathered ∧ s' = s.gathered := by
  induction run with
  | nil => exact ⟨[], _, .nil, rfl, rfl⟩
  | @snoc moves' s₁ a s₂ sig run h ih =>
    obtain ⟨moves, s, hrun, rfl, rfl⟩ := ih
    have hstep := perform_gathered (overflowLen_run hrun) a
    rw [h, Option.map_some, eq_comm, Option.map_eq_some_iff] at hstep
    obtain ⟨⟨s', sig'⟩, hperform, heq⟩ := hstep
    obtain ⟨hsame, rfl⟩ := Prod.mk.inj heq
    have hsame : s'.gathered = s₂.gathered := hsame
    exact ⟨_, s', hrun.snoc hperform, by simp [Move.gathered, hsame], hsame.symm⟩

theorem confirmedBy_gathered (s : System) (a : Action) : s.gathered.confirmedBy a = s.confirmedBy a := by
  cases a with
  | complete t w outcome =>
    simp only [confirmedBy, find?_gathered]
    cases s.outstanding.find? w with
    | none => rfl
    | some handed => simp [Write.unsent, Handed.buffers_gathered]
  | _ => rfl

theorem confirmed_gathered (moves : List Move) : confirmed (moves.map Move.gathered) = confirmed moves := by
  simp only [confirmed, List.flatMap_map]
  exact List.flatMap_congr fun m _ => confirmedBy_gathered m.before m.action

theorem isGather_of_gathered {w : WriteId} {write : Write} {flight : Flight}
    (hw : s.gathered.outstanding.find? w = some (.chain write flight)) : write.isGather = true := by
  rw [find?_gathered, Option.map_eq_some_iff] at hw
  obtain ⟨handed, -, heq⟩ := hw
  cases handed with
  | trip buf | stray buf => cases heq
  | chain write' flight' =>
    obtain ⟨rfl, -⟩ := Handed.chain.inj heq
    rfl

/-- A single write ends like a gathering write of its buffer: they leave the same connection and tell the same, and the
chain goes on with the same buffers. Only what is left of a single write, with nothing else to send, goes out single
again. So in any run all single writes of chains can be gathering ones, and nothing else changes. -/
theorem forms_agree {c : Connection} (hlen : c.store.overflowLen = Chunk.total c.store.overflow) (f : Flight)
    (isInline : Bool) (outcome : Outcome) (buf : Buffer) (run : Run (fresh config) moves s) :
    (∃ c' v v', c.settle f isInline outcome (.single buf) = .ok (c', v) ∧
      c.settle f isInline outcome (.gather [buf]) = .ok (c', v') ∧
      ((v' = v ∧ ∀ rest, v ≠ .reissue (.single rest)) ∨
        ∃ count rest, outcome.written = .ok count ∧ c.permit.isCurrent f.guard = true ∧
          c.store.hasFollowUp = false ∧ rest = buf.drop (min count buf.remaining) ∧ rest.hasRemaining = true ∧
          v = .reissue (.single rest) ∧ v' = .reissue (.gather [rest]))) ∧
    GatheringRun (fresh config) (moves.map Move.gathered) s.gathered ∧
    ((moves.map Move.gathered).map fun m => (m.action, m.signal, m.after.conn))
      = (moves.map fun m => (m.action, m.signal, m.after.conn)) ∧
    confirmed (moves.map Move.gathered) = confirmed moves ∧
    (∀ w, (s.gathered.outstanding.find? w).map (·.write.buffers) = (s.outstanding.find? w).map (·.write.buffers)) ∧
    (∀ w write flight, s.gathered.outstanding.find? w = some (.chain write flight) → write.isGather = true) ∧
    ∀ moves' s', GatheringRun (fresh config) moves' s' →
      ∃ moves s, Run (fresh config) moves s ∧ moves' = moves.map Move.gathered ∧ s' = s.gathered := by
  refine ⟨?_, gathered_run run, by simp [Move.gathered], confirmed_gathered moves, fun w => ?_,
    fun w write flight => isGather_of_gathered, fun moves' s' => exists_run_of_gathering⟩
  · obtain ⟨c', v, hsingle, -⟩ := Connection.settle_cases c f isInline outcome (.single buf)
    have hgather : c.settle f isInline outcome (.gather [buf])
        = (c.settle f isInline outcome (.single buf)).map fun r => (r.1, r.2.gathered) :=
      Connection.settle_gather_alone hlen
    rw [hsingle] at hgather
    refine ⟨c', v, v.gathered, hsingle, hgather, ?_⟩
    have halone (rest : Buffer) : v = .reissue (.single rest) ↔ _ := Connection.settle_single_alone_iff hsingle
    cases v with
    | reissue write =>
      cases write with
      | single rest =>
        obtain ⟨count, hw, hg, hs, hb, hr⟩ := (halone rest).1 rfl
        exact .inr ⟨count, rest, hw, hg, hs, hb, hr, rfl, rfl⟩
      | gather bufs => exact .inl ⟨rfl, by simp⟩
    | stale | finished _ | failed _ => exact .inl ⟨rfl, by simp⟩
  · cases hw : s.outstanding.find? w with
    | none => simp [hw]
    | some handed => simp [hw, Handed.buffers_gathered]

/-- A chain sends two bytes one by one. Gathered, it hands over a gathering write of one buffer each time. -/
theorem forms_agree_byte_by_byte : ∃ moves s write flight, Run (fresh {}) moves s ∧
    GatheringRun (fresh {}) (moves.map Move.gathered) s.gathered ∧ confirmed (moves.map Move.gathered) = [97] ∧
    s.outstanding.find? 1 = some (.chain write flight) ∧ write.isGather = false ∧
    s.gathered.outstanding.find? 1 = some (.chain write.gathered flight) ∧ write.gathered.isGather = true := by
  obtain ⟨moves, s, run, hconfirmed, hsingle⟩ := Run.exists_of_follow (fresh {})
    [.call 0 (.add { bytes := ⟨#[97, 98]⟩ } .nonBlocking), .run 0, .run 0, .complete 1 0 (.ok 1), .run 1]
    (P := fun moves s => confirmed moves = [97] ∧
      (s.outstanding.find? 1).any (fun h => h.isChain && !h.write.isGather) = true) (by decide +kernel)
  obtain ⟨handed, hw, hhanded⟩ := (Option.any_eq_true _ _).1 hsingle
  simp only [Bool.and_eq_true, Bool.not_eq_true'] at hhanded
  cases handed with
  | trip buf | stray buf => cases hhanded.1
  | chain write flight =>
    obtain ⟨-, hgathering, -, hbytes, -, hgather, -⟩ := forms_agree (c := s.conn) (overflowLen_run run) flight false
      (.ok 1) (.chunk { bytes := ⟨#[98]⟩ }) run
    have hw' : s.gathered.outstanding.find? 1 = some (.chain write.gathered flight) := by simp [hw, Handed.gathered]
    exact ⟨moves, s, write, flight, run, hgathering, hbytes.trans hconfirmed, hw, hhanded.2, hw', hgather 1 _ _ hw'⟩

end Runs

end System

end Outflow
