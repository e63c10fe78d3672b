import Outflow.Scenario.Basic
import Outflow.System.Step

/-!
A connection with its surroundings, and the small changes that a run makes to them.
-/

namespace Outflow.Scenario

/-- The thread of the producer. -/
def mainThread : ThreadId := 0

/-- The thread on which a descriptor is written to. -/
def workerThread : ThreadId := 1

/-- Steps that are left for the time in which the thread `waiter` waits, with the results of those that are done, the
latest first. They are done by a thread of their own. -/
structure Meanwhile where
  waiter : ThreadId
  thread : ThreadId
  steps : List Step
  results : List Result := []

/-- Takes out the innermost step that is kept for the time in which a thread waits, if it can be done now. -/
def Meanwhile.take? (t : ThreadId) (ready : Step → Bool) : List Meanwhile → Option ((ThreadId × Step) × List Meanwhile)
  | [] => none
  | m :: rest =>
    match m.waiter == t, m.steps with
    | true, step :: steps => if ready step then some ((m.thread, step), { m with steps } :: rest) else none
    | _, _ => (take? t ready rest).map fun (next, rest) => (next, m :: rest)

/-- How following a thread ended. -/
inductive Halt
  | replied (reply : Reply)
  | returned
  | fault (f : Fault)
  | waiting

/-- The milliseconds for which a step waits for a write. -/
def stepPatience : Nat := 3000

structure World where
  system : System
  medium : Medium
  cues : List Cue
  fallback : Cue
  onEvent : List (List Step)
  recording : Bool
  quiet : Bool
  quietOffers : Bool
  forcedPending : Bool := false
  issued : Nat := 0
  gathering : Nat := 0
  /-- The latest first. -/
  log : List Entry := []
  tally : Tally := {}
  nextThread : ThreadId := 2
  /-- The innermost first. -/
  meanwhile : List Meanwhile := []
  /-- Threads whose calls came to their end while another thread, which acts for the time of their wait, needed them to
  go on. -/
  ended : List (ThreadId × Halt) := []

abbrev Run := StateM World

namespace World

def ofSetup (setup : Setup) : Except Fault World := do
  let system ← System.start setup.config
  return {
    system
    medium := setup.medium
    cues := setup.cues
    fallback := setup.fallback
    onEvent := setup.onEvent
    recording := setup.recording
    quiet := setup.quiet
    quietOffers := setup.quietOffers }

def note (w : World) (entry : Entry) : World := { w with log := entry :: w.log }

/-- Writes that wait in the scripted transport. -/
def parked (w : World) : Nat :=
  match w.medium with
  | .scripted parked _ => parked.length
  | _ => 0

def snapshot (w : World) : Snapshot :=
  let conn := w.system.conn
  { buffered := conn.store.bufferedBytes
    chunks := conn.store.chunks
    lent := conn.store.primaryIsLent
    held := conn.permit.held
    interest := conn.interest
    hasData := w.system.hasData
    error := conn.error
    parked := w.parked }

def transportPending (w : World) : Bool :=
  w.forcedPending ||
    match w.medium with
    | .descriptor _ queue => !queue.isEmpty
    | _ => false

def stats (w : World) : Stats :=
  let none : Stats := { issued := w.issued, gathering := w.gathering, written := none, mock := none }
  match w.medium with
  | .scripted _ written => { none with written := some written }
  | .inline writer => { none with written := some writer.sink }
  | .mock mock => { none with mock := some mock }
  | .descriptor _ _ => none

/-- The write that a completion with this index would end. -/
def waiting? (w : World) (index : Nat) : Option WriteId :=
  match w.medium with
  | .scripted parked _ => parked[index]?
  | .mock mock => mock.queue.head?
  | _ => none

/-- Whether a step can be done while a wait of the given length lasts. One that needs a write comes when that is there,
or when it gives up first. -/
def isReady (w : World) (wait : Nat) (step : Step) : Bool :=
  match step.deed with
  | .complete _ index _ true => (w.waiting? index).isSome || stepPatience < wait
  | _ => true

/-- The thread that waits while `t` does its steps. -/
def waiter? (w : World) (t : ThreadId) : Option ThreadId :=
  (w.meanwhile.find? fun m => m.thread == t).map Meanwhile.waiter

end World

namespace Mock

def submit (m : Mock) (gather : Bool) : Mock :=
  { m with
    issued := m.issued + 1
    gathering := m.gathering + gather.toNat
    inFlight := m.inFlight + 1
    maxInFlight := max m.maxInFlight (m.inFlight + 1) }

end Mock

/-- What an ending reports of `write`, unless it drops or parks it. -/
def Ending.outcome? (write : Write) : Ending → Option Outcome
  | .count n => some (.ok n)
  | .atMost n => some (.ok (min n write.remaining))
  | .failure cause => some (.error cause)
  | .all => some (.ok write.remaining)
  | .drop | .park => none

def Result.ofReply : Reply → Result
  | .done => .nothing
  | .pending more => .flag more
  | .refused err => .failed err

end Outflow.Scenario
