import Outflow.Scenario.World

/-!
Runs of a described scenario. One thread is followed at a time: while it is inside the connection its steps are done,
and while it is in foreign code that code does what the scenario says. A thread that has to wait lets the steps happen
that were kept for this time, and then its time runs out.
-/

namespace Outflow.Scenario

def Halt.result : Halt → Result
  | replied reply => .ofReply reply
  | returned | waiting => .nothing
  | fault f => .fault f

/-- Does one step, unless it is refused. -/
def attempt (a : Action) : Run (Option (Option Signal)) := fun w =>
  match w.system.perform a with
  | some (system, signal) => (some signal, { w with system })
  | none => (none, w)

/-- Does one step that cannot be refused where it is done. -/
def perform (a : Action) : Run (Option Signal) := do
  return (← attempt a).join

def note (entry : Entry) : Run Unit := modify (·.note entry)

def depth (t : ThreadId) : Run Nat := return (← get).system.depth t

def refreshPending : Run Unit := do
  let _ ← perform (.transportPending (← get).transportPending)

/-- A thread that has not been used before. -/
def newThread : Run ThreadId := do
  let w ← get
  set { w with nextThread := w.nextThread + 1 }
  return w.nextThread

/-- What the transport does with the next write. -/
def nextCue : Run Cue := do
  let w ← get
  match w.cues with
  | cue :: cues =>
    set { w with cues }
    return cue
  | [] => return w.fallback

/-- Counts and notes a write that was handed to the transport. -/
def noteWrite (write : Write) : Run Unit :=
  modify fun w =>
    let w := { w with issued := w.issued + 1, gathering := w.gathering + write.isGather.toNat }
    if w.quiet then w else w.note (.write write w.system.conn.config.timeout)

/-- Counts and notes an event, and takes the steps that belong to it. -/
def noteEvent (event : Event) : Run (List Step) := do
  modify fun w =>
    let w := w.note (.event event)
    if !w.recording then w
    else if event.isError then { w with tally := { w.tally with errors := w.tally.errors + 1 } }
    else { w with tally := { w.tally with writable := w.tally.writable + 1 } }
  let w ← get
  match w.onEvent with
  | steps :: onEvent =>
    set { w with onEvent }
    return steps
  | [] => return []

def noteAttach (err : Error) : Run Unit :=
  modify fun w =>
    if w.recording then
      { w.note (.attach err) with tally := { w.tally with attached := w.tally.attached + 1 } }
    else w

def setMedium (medium : Medium) : Run Unit := modify ({ · with medium })

/-- Keeps what a reported outcome says was written. -/
def recordOutcome (write : Write) (outcome : Outcome) : Run Unit :=
  modify fun w =>
    match w.medium with
    | .scripted parked written => { w with medium := .scripted parked (written.addOutcome write outcome) }
    | .mock mock =>
      { w with
        medium := .mock { mock with
          inFlight := mock.inFlight - 1
          written := mock.written.addOutcome write outcome } }
    | _ => w

/-- Takes the write that a completion with this index ends out of the waiting ones. -/
def takeWaiting (index : Nat) : Run (Option WriteId) := do
  let w ← get
  match w.medium with
  | .scripted parked written => setMedium (.scripted (parked.eraseIdx index) written)
  | .mock mock => setMedium (.mock { mock with queue := mock.queue.tail })
  | _ => pure ()
  return w.waiting? index

def handedWrite (id : WriteId) : Run Write := do
  match (← get).system.outstanding.find? id with
  | some handed => return handed.write
  | none => return .gather []

/-- Offers a write to the writer, and notes what was offered. -/
def offerWrite (write : Write) (writer : Writer) : Run Outcome := do
  let attempt := writer.write write.buffers
  setMedium (.inline attempt.writer)
  if !(← get).quietOffers then
    let offered := slices write.buffers
    modify fun w => attempt.offers.repeat (fun w => w.note (.offer offered)) w
  return attempt.outcome

/-- The step that comes next while a thread waits, and who does it. A wait of no length leaves no time for it. -/
def nextMeanwhile (t : ThreadId) : Run (Option (ThreadId × Step)) := do
  let w ← get
  let wait := w.system.conn.config.timeout.toMillis
  match Meanwhile.take? t (w.isReady wait) w.meanwhile with
  | some (next, meanwhile) =>
    if 0 < wait then
      set { w with meanwhile }
      return some next
    else return none
  | none => return none

/-- Keeps the result of a step that another thread did meanwhile. -/
def noteMeanwhile (thread : ThreadId) (result : Result) : Run Unit :=
  modify fun w =>
    { w with
      meanwhile := w.meanwhile.map fun m =>
        if m.thread = thread then { m with results := result :: m.results } else m }

/-- How the call of a thread ended, if that was while it waited. -/
def takeEnded (t : ThreadId) : Run (Option Halt) := do
  let w ← get
  match w.ended.find? fun entry => entry.1 == t with
  | some (_, halt) =>
    set { w with ended := w.ended.filter fun entry => entry.1 != t }
    return some halt
  | none => return none

def beginMeanwhile (m : Meanwhile) : Run Unit := modify fun w => { w with meanwhile := m :: w.meanwhile }

/-- What is left of the innermost steps that were kept for a wait. -/
def endMeanwhile : Run (List Step × List Result) := do
  let w ← get
  match w.meanwhile with
  | m :: meanwhile =>
    set { w with meanwhile }
    return (m.steps, m.results.reverse)
  | [] => return ([], [])

mutual

/-- Follows a thread until its stack is back at `base`, or until it has to wait if it is not `patient`. The first
argument bounds the number of rounds. -/
def follow : Nat → ThreadId → Nat → Bool → Option Signal → Run Halt
  | 0, _, _, _, _ => return .returned
  | _ + 1, _, _, _, some (.replied reply) => return .replied reply
  | _ + 1, _, _, _, some (.fault f) => return .fault f
  | rounds + 1, t, base, patient, some (.handed id) => do
    transmit rounds t id
    let signal ← perform (.resume t)
    follow rounds t base patient signal
  | rounds + 1, t, base, patient, some (.attach err) => do
    noteAttach err
    let signal ← perform (.resume t)
    follow rounds t base patient signal
  | rounds + 1, t, base, patient, some (.notify event) => do
    let steps ← noteEvent event
    nested rounds t steps
    let signal ← perform (.resume t)
    follow rounds t base patient signal
  | rounds + 1, t, base, patient, none => do
    if (← depth t) ≤ base then return .returned
    match ← attempt (.run t) with
    | some signal => follow rounds t base patient signal
    | none =>
      if patient then
        let signal ← await rounds t
        match ← takeEnded t with
        | some halt => return halt
        | none => follow rounds t base patient signal
      else return .waiting

/-- Lets something happen while a thread waits. -/
def await : Nat → ThreadId → Run (Option Signal)
  | 0, _ => return none
  | rounds + 1, t => do
    match ← nextMeanwhile t with
    | some (other, step) => do
      let result ← act rounds other step
      noteMeanwhile other result
      return none
    | none => perform (.expire t)

/-- Makes a call on a thread and follows it to its end. -/
def call : Nat → ThreadId → Call → Run Result
  | 0, _, _ => return .nothing
  | rounds + 1, t, c => do
    let base ← depth t
    let signal ← perform (.call t c)
    return (← follow rounds t base true signal).result

/-- The transport reports an outcome on a thread. -/
def report : Nat → ThreadId → WriteId → Outcome → Run Unit
  | 0, _, _, _ => return
  | rounds + 1, t, id, outcome => do
    let base ← depth t
    let signal ← perform (.complete t id outcome)
    let _ ← follow rounds t base true signal

/-- Ends a write, on this thread or elsewhere. -/
def finish : Nat → ThreadId → WriteId → Write → Ending → Bool → Run Unit
  | 0, _, _, _, _, _ => return
  | rounds + 1, t, id, write, ending, elsewhere => do
    let t ← if elsewhere then newThread else pure t
    match ending.outcome? write with
    | some outcome => do
      recordOutcome write outcome
      report rounds t id outcome
    | none => do
      let _ ← perform (.abandon id)

/-- The transport gets a write. -/
def transmit : Nat → ThreadId → WriteId → Run Unit
  | 0, _, _ => return
  | rounds + 1, t, id => do
    let write ← handedWrite id
    noteWrite write
    let cue ← nextCue
    nested rounds t cue.before
    match (← get).medium with
    | .scripted parked written =>
      match cue.ending with
      | .park => setMedium (.scripted (parked ++ [id]) written)
      | ending => finish rounds t id write ending cue.elsewhere
    | .mock mock => do
      let mock := mock.submit write.isGather
      if mock.auto then
        setMedium (.mock mock)
        finish rounds t id write .all false
      else setMedium (.mock { mock with queue := mock.queue ++ [id] })
    | .inline writer => do
      let outcome ← offerWrite write writer
      report rounds t id outcome
    | .descriptor d queue => do
      setMedium (.descriptor d (queue ++ [id]))
      refreshPending
      if t ≠ workerThread then work rounds
    nested rounds t cue.after

/-- The worker does what is queued for the descriptor. -/
def work : Nat → Run Unit
  | 0 => return
  | rounds + 1 => do
    match (← get).medium with
    | .descriptor d (id :: queue) => do
      let write ← handedWrite id
      let (outcome, d) := d.write write.buffers
      setMedium (.descriptor d queue)
      refreshPending
      report rounds workerThread id outcome
      work rounds
    | _ => return

/-- Steps done by foreign code, one after another. -/
def nested : Nat → ThreadId → List Step → Run Unit
  | 0, _, _ => return
  | _ + 1, _, [] => return
  | rounds + 1, t, step :: steps => do
    let result ← act rounds t step
    note (.step step.name result)
    nested rounds t steps

/-- Adds the same data a number of times, until it is refused. -/
def addTimes : Nat → ThreadId → Chunk → Mode → Nat → Run Result
  | 0, _, _, _, _ => return .nothing
  | _ + 1, _, _, _, 0 => return .nothing
  | rounds + 1, t, src, mode, times + 1 => do
    match ← call rounds t (.add src mode) with
    | .nothing => addTimes rounds t src mode times
    | result => return result

/-- Ends a waiting write, if there is one. -/
def complete : Nat → ThreadId → Nat → Ending → Bool → Run Result
  | 0, _, _, _, _ => return .absent
  | rounds + 1, t, index, ending, elsewhere => do
    match ← takeWaiting index with
    | none => return .absent
    | some id => do
      let write ← handedWrite id
      let mock := match (← get).medium with
        | .mock _ => some { buffers := write.buffers.length, bytes := .ofWrite write : MockWrite }
        | _ => none
      finish rounds t id write ending elsewhere
      return .ended write.remaining write.isGather mock

/-- A step that needs a write lets the thread go on during whose wait it is done, as far as that one can. -/
def awaitWrite : Nat → ThreadId → Nat → Run Unit
  | 0, _, _ => return
  | rounds + 1, t, index => do
    let w ← get
    match w.waiting? index, w.waiter? t with
    | none, some waiter => do
      match ← follow rounds waiter 0 false none with
      | .waiting => return
      | halt => modify fun w => { w with ended := (waiter, halt) :: w.ended }
    | _, _ => return

/-- Ends waiting writes completely until there is none, and counts them. -/
def drain : Nat → ThreadId → Nat → Run Result
  | 0, _, count => return .number count
  | rounds + 1, t, count => do
    match ← complete rounds t 0 .all false with
    | .absent => return .number count
    | _ => drain rounds t (count + 1)

/-- Does one step on a thread, and on another one what belongs to the time in which the first waits. What is left of
that when the step is over comes behind it. -/
def act : Nat → ThreadId → Step → Run Result
  | 0, _, _ => return .nothing
  | rounds + 1, t, step => do
    match step.during with
    | [] => fulfil rounds t step.deed
    | steps => do
      let thread ← newThread
      beginMeanwhile { waiter := t, thread, steps }
      let result ← fulfil rounds t step.deed
      let (left, results) ← endMeanwhile
      return .during result (results ++ (← actAll rounds thread left))

/-- Does steps one after another. -/
def actAll : Nat → ThreadId → List Step → Run (List Result)
  | 0, _, _ => return []
  | _ + 1, _, [] => return []
  | rounds + 1, t, step :: steps => do
    let result ← act rounds t step
    return result :: (← actAll rounds t steps)

/-- Does on a thread what a step asks for. -/
def fulfil : Nat → ThreadId → Deed → Run Result
  | 0, _, _ => return .nothing
  | rounds + 1, t, deed => do
    match deed with
    | .add data mode times => addTimes rounds t data mode times
    | .flush mode => call rounds t (.flush mode)
    | .registerInterest => call rounds t .registerInterest
    | .reset => call rounds t .reset
    | .recycle => call rounds t .recycle
    | .hasData => return .flag (← get).system.hasData
    | .storedError =>
      match (← get).system.conn.error with
      | some err => return .failed err
      | none => return .nothing
    | .debug => return .text (← get).system.conn.debug
    | .config => return .settings (← get).system.conn.config
    | .setFallback cue => do
      modify ({ · with fallback := cue })
      return .nothing
    | .setAuto auto => do
      match (← get).medium with
      | .mock mock => setMedium (.mock { mock with auto })
      | _ => pure ()
      return .nothing
    | .setPending pending => do
      modify ({ · with forcedPending := pending })
      refreshPending
      return .nothing
    | .complete ending index elsewhere wait => do
      if wait then awaitWrite rounds t index
      complete rounds t index ending elsewhere
    | .drain => drain rounds t 0
    | .closePeer => do
      match (← get).medium with
      | .descriptor d queue => setMedium (.descriptor d.closePeer queue)
      | _ => pure ()
      return .nothing
    | .read => do
      match (← get).medium with
      | .descriptor d queue => do
        let (bytes, d) := d.read
        setMedium (.descriptor d queue)
        match bytes with
        | some bytes => return .bytes bytes
        | none => return .nothing
      | _ => return .nothing
    | .stats => return .stats (← get).stats
    | .unknown => return .unknown

end

def Entry.isEvent : Entry → Bool
  | .attach _ | .event _ => true
  | _ => false

/-- Does one step of the producer. Events are listed last if there were steps for the time in which it waits. -/
def topLevel (rounds : Nat) (step : Step) : Run Report := do
  modify ({ · with log := [] })
  let result ← act rounds mainThread step
  let w ← get
  let log := w.log.reverse
  return {
    result
    log := if step.during.isEmpty then log else log.filter (!·.isEvent) ++ log.filter Entry.isEvent
    snapshot := w.snapshot }

/-- Rounds after which a thread is given up that finds no end, as over a transport that never accepts anything. -/
def patience : Nat := 100000000

/-- What a scenario shows, step by step, and the events recorded in all. -/
def run (setup : Setup) : Except Fault (List Report × Tally) := do
  let w ← World.ofSetup setup
  let (reports, w) := (setup.steps.mapM (topLevel patience)).run w
  return (reports, w.tally)

end Outflow.Scenario
