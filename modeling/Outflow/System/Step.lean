import Outflow.System.Basic

/-!
The steps of a connection and its threads. `perform` does one of them, or refuses one that the thread is not ready for.
-/

namespace Outflow

/-- One step: of a thread, of the clock (`expire`), or of the foreign code around the connection. -/
inductive Action
  | call (t : ThreadId) (c : Call)
  | run (t : ThreadId)
  | expire (t : ThreadId)
  | resume (t : ThreadId)
  | complete (t : ThreadId) (w : WriteId) (outcome : Outcome)
  | abandon (w : WriteId)
  | transportPending (pending : Bool)

namespace Sweep

/-- Puts everything unsent back at the head of the queue, beginning with what the transport gave back. -/
def putBack (sweep : Sweep) (returned : Option Buffer) (s : Store) : Store :=
  let (s, left) := s.salvage returned
  let (s, last) := s.salvage (sweep.primary.map .primary)
  (s.requeueFront (left.toList ++ sweep.chunks ++ last.toList)).ensurePrimary

end Sweep

namespace System

/-! ### Chains -/

def handOver (s : System) (t : ThreadId) (h : Handed) : Turn :=
  let w := s.nextWrite
  let s := { s with outstanding := s.outstanding.set w h, nextWrite := w + 1 }
  (s.push t (.inTransport w), some (.handed w))

/-- Starts a chain with what is stored, by a holder of the permit. With nothing to send the permit is free again. -/
def startChain (s : System) (t : ThreadId) (starter : Starter) (g : Guard) : Turn :=
  let (store, write) := s.conn.takeWrite
  let s := s.setStore store
  match write with
  | none => (s.setPermit (s.conn.permit.release g)).answerStarter starter
  | some write =>
    let (markers, m) := s.markers.fresh
    let s := s.setMarkers (markers.enter m t)
    ((s.push t (.issuing m starter)).push t (.carrying { write, flight := { guard := g, marker := m } }), none)

/-! ### Calls -/

/-- Takes `src` over, for a holder of the permit. -/
def takeOver (s : System) (src : Chunk) : System := s.setStore (s.conn.store.ensurePrimary.append src)

def addNonBlocking (s : System) (t : ThreadId) (src : Chunk) : Turn :=
  match s.conn.permit.tryAcquire with
  | some (permit, g) => (((s.setPermit permit).takeOver src).push t (.starting .add g), none)
  | none =>
    match s.conn.queue? src with
    | .ok conn => { s with conn }.answer .done
    | .error (buffered, limit) => (s.push t (.awaitingRoom src buffered limit), none)

/-- A chain in flight goes first, so a blocking write waits for it. -/
def sweepFrame (s : System) (goal : Goal) : Frame :=
  if s.conn.permit.held then .awaitingChain goal else .collecting goal

def flush (s : System) (t : ThreadId) : Mode → Turn
  | .blocking => (s.push t (s.sweepFrame .flush), none)
  | .nonBlocking =>
    match s.conn.permit.tryAcquire with
    | some (permit, g) => (s.setPermit permit).startChain t .flush g
    | none => s.answerStarter .flush

/-- No data is always accepted. Otherwise a stored failure answers adds and flushes before anything else is done. -/
def call (s : System) (t : ThreadId) : Call → Turn
  | .add src mode =>
    if !src.hasRemaining then s.answer .done
    else
      match s.conn.error, mode with
      | some err, _ => s.answer (.refused err)
      | none, .blocking => (s.push t (.adding src), none)
      | none, .nonBlocking => s.addNonBlocking t src
  | .flush mode =>
    match s.conn.error with
    | some err => s.answer (.refused err)
    | none => s.flush t mode
  | .registerInterest =>
    let (conn, notify) := s.conn.registerInterest
    let s := { s with conn }
    if notify then ((s.push t (.answering .done)).push t (.telling .writable), none) else s.answer .done
  | .reset => { s with conn := s.conn.reset }.answer .done
  | .recycle => { s with conn := s.conn.recycle }.answer .done

/-! ### Steps of a thread inside the connection, with `rest` below its innermost frame -/

/-- One round of a blocking add. A full buffer, or as much in the queue, is written out. -/
def runAdding (s : System) (t : ThreadId) (rest : List Frame) (src : Chunk) : Turn :=
  if !src.hasRemaining then (s.setStack t rest).answer .done
  else
    let (store, count, full) := s.conn.absorb src
    let s := s.setStore store
    let src := src.drop count
    (s.setStack t ((if full then s.sweepFrame (.add src) else .adding src) :: rest), none)

/-- The next step of a thread that works off its deferred writes: one of them is handed over, or `rest` goes on. -/
def drive (s : System) (t : ThreadId) (rest : List Frame) : Deferral Job × Option Job → Turn
  | (deferral, some job) =>
    (s.setThread t { stack := .driving :: rest, deferral }).handOver t (.chain job.write job.flight)
  | (deferral, none) => (s.setThread t { stack := rest, deferral }, none)

/-- Room was made by the end of the chain in flight. -/
def runAwaitingRoom (s : System) (t : ThreadId) (rest : List Frame) (src : Chunk) : Option Turn :=
  match s.conn.permit.tryAcquire with
  | none => none
  | some (permit, g) => some ((s.setPermit permit).setStack t (.admitted src g :: rest), none)

/-- The chain that was waited for may have ended with a failure. -/
def runAdmitted (s : System) (t : ThreadId) (rest : List Frame) (src : Chunk) (g : Guard) : Turn :=
  match s.conn.error with
  | some err => (s.setStack t (.refusing err g :: rest), none)
  | none => ((s.takeOver src).setStack t (.starting .add g :: rest), none)

def runRefusing (s : System) (t : ThreadId) (rest : List Frame) (err : Error) (g : Guard) : Turn :=
  ((s.setPermit (s.conn.permit.release g)).setStack t rest).answer (.refused err)

/-- The permit is only taken to see that it is free. -/
def runAwaitingChain (s : System) (t : ThreadId) (rest : List Frame) (goal : Goal) : Option Turn :=
  match s.conn.permit.tryAcquire with
  | none => none
  | some (permit, g) => some ((s.setPermit permit).setStack t (.yielding goal g :: rest), none)

def runYielding (s : System) (t : ThreadId) (rest : List Frame) (goal : Goal) (g : Guard) : Turn :=
  ((s.setPermit (s.conn.permit.release g)).setStack t (.collecting goal :: rest), none)

def runCollecting (s : System) (t : ThreadId) (rest : List Frame) (goal : Goal) : Turn :=
  match s.conn.error with
  | some err => (s.setStack t rest).answer (.refused err)
  | none =>
    let (store, chunks) := s.conn.store.takeOverflow
    let (store, primary) := store.takePrimaryIfPending
    ((s.setStore store).setStack t (.sweeping { chunks, primary, goal } :: rest), none)

/-- Goes on to the next buffer of a sweep. After the last one the call has what it wanted. -/
def runSweeping (s : System) (t : ThreadId) (rest : List Frame) (sweep : Sweep) : Turn :=
  match sweep.chunks, sweep.primary with
  | c :: chunks, _ => (s.setStack t (.writing (.chunk c) { sweep with chunks } :: rest), none)
  | [], some p => (s.setStack t (.writing (.primary p) { sweep with primary := none } :: rest), none)
  | [], none =>
    let s := s.setStore s.conn.store.ensurePrimary
    match sweep.goal with
    | .flush => (s.setStack t rest).answer (.pending false)
    | .add src => (s.setStack t (.adding src :: rest), none)

/-- One round trip for what is left of `buf`. -/
def runWriting (s : System) (t : ThreadId) (rest : List Frame) (buf : Buffer) (sweep : Sweep) : Turn :=
  if buf.hasRemaining then
    (s.setStack t (.awaitingReply s.nextWrite sweep :: rest)).handOver t (.trip buf)
  else ((s.setStore (s.conn.store.reclaim buf)).setStack t (.sweeping sweep :: rest), none)

/-- Ends a sweep that could not write everything. The failure is told to the caller only. -/
def failSweep (s : System) (t : ThreadId) (rest : List Frame) (sweep : Sweep) (err : Error)
    (returned : Option Buffer) : Turn :=
  ((s.setStore (sweep.putBack returned s.conn.store)).setStack t rest).answer (.refused err)

/-- The end of a round trip. A count beyond the end of the buffer is cut off there. -/
def runAwaitingReply (s : System) (t : ThreadId) (rest : List Frame) (w : WriteId) (sweep : Sweep) : Option Turn :=
  match s.answers.find? w with
  | none => none
  | some answer =>
    let s := { s with answers := s.answers.erase w }
    match answer with
    | .dropped =>
      some (s.failSweep t rest sweep (.ofCause "transport dropped a blocking write without completing it") none)
    | .returned outcome buf =>
      match outcome.written with
      | .error err => some (s.failSweep t rest sweep err (some buf))
      | .ok count =>
        match buf.advance (min count buf.remaining) with
        | .ok buf => some (s.setStack t (.writing buf sweep :: rest), none)
        | .error f => some (s.setStack t rest, some (.fault f))

/-- The issuing call leaves its marker, and is over. -/
def runIssuing (s : System) (t : ThreadId) (rest : List Frame) (m : MarkerId) (starter : Starter) : Turn :=
  ((s.setMarkers (s.markers.exit m)).setStack t rest).answerStarter starter

/-- Calls the notifier. A failure is attached before it is told. -/
def runTelling (s : System) (t : ThreadId) (rest : List Frame) : Event → Turn
  | .writable => (s.setStack t (.notifying .writable :: rest), some (.notify .writable))
  | .error err => (s.setStack t (.attaching err :: rest), some (.attach err))

/-- The next step of the innermost frame, if it is not foreign and need not wait. -/
def run (s : System) (t : ThreadId) : Option Turn :=
  match (s.thread t).stack with
  | [] => none
  | frame :: rest =>
    match frame with
    | .inTransport _ | .attaching _ | .notifying _ => none
    | .telling event => some (s.runTelling t rest event)
    | .answering reply => some ((s.setStack t rest).answer reply)
    | .driving => some (s.drive t rest (s.thread t).deferral.next)
    | .carrying job => some (s.drive t rest ((s.thread t).deferral.submit job))
    | .starting starter g => some ((s.setStack t rest).startChain t starter g)
    | .issuing m starter => some (s.runIssuing t rest m starter)
    | .adding src => some (s.runAdding t rest src)
    | .awaitingRoom src _ _ => s.runAwaitingRoom t rest src
    | .admitted src g => some (s.runAdmitted t rest src g)
    | .refusing err g => some (s.runRefusing t rest err g)
    | .awaitingChain goal => s.runAwaitingChain t rest goal
    | .yielding goal g => some (s.runYielding t rest goal g)
    | .collecting goal => some (s.runCollecting t rest goal)
    | .sweeping sweep => some (s.runSweeping t rest sweep)
    | .writing buf sweep => some (s.runWriting t rest buf sweep)
    | .awaitingReply w sweep => s.runAwaitingReply t rest w sweep

/-- Nobody waits for the round trip any more. -/
def disown (s : System) (w : WriteId) : System :=
  { s with
    outstanding := match s.outstanding.find? w with
      | some (.trip buf) => s.outstanding.set w (.stray buf)
      | _ => s.outstanding }

/-- Time runs out for a thread that has to wait. Behind a chain that takes too long a blocking call goes on. -/
def expire (s : System) (t : ThreadId) : Option Turn :=
  match (s.thread t).stack with
  | .awaitingRoom _ buffered limit :: rest =>
    if s.conn.permit.held then some ((s.setStack t rest).answer (.refused (.overloaded buffered limit))) else none
  | .awaitingChain goal :: rest =>
    if s.conn.permit.held then some (s.setStack t (.collecting goal :: rest), none) else none
  | .awaitingReply w sweep :: rest =>
    if (s.answers.find? w).isNone then some ((s.disown w).failSweep t rest sweep .timeout none) else none
  | _ => none

/-! ### Foreign code -/

/-- Foreign code returns. After the failure was attached, the notifier is told. -/
def resume (s : System) (t : ThreadId) : Option Turn :=
  match (s.thread t).stack with
  | .inTransport _ :: rest => some (s.setStack t rest, none)
  | .attaching err :: rest =>
    some (s.setStack t (.notifying (.error err) :: rest), some (.notify (.error err)))
  | .notifying _ :: rest => some (s.setStack t rest, none)
  | _ => none

/-- The transport reports the end of a write on thread `t`. -/
def complete (s : System) (t : ThreadId) (w : WriteId) (outcome : Outcome) : Option Turn :=
  match s.outstanding.find? w with
  | none => none
  | some handed =>
    let s := { s with outstanding := s.outstanding.erase w }
    match handed with
    | .stray _ => some (s, none)
    | .trip buf => some ({ s with answers := s.answers.set w (.returned outcome buf) }, none)
    | .chain write flight =>
      match s.conn.settle flight (s.markers.isInline flight.marker t) outcome write with
      | .error f => some (s, some (.fault f))
      | .ok (conn, verdict) =>
        let s := { s with conn }
        match verdict with
        | .stale | .finished false => some (s, none)
        | .finished true => some (s.push t (.telling .writable), none)
        | .reissue write => some (s.push t (.carrying { write, flight }), none)
        | .failed err => some (s.push t (.telling (.error err)), none)

/-- The transport forgets a write. The permit of a chain is freed with it, its buffers are gone. -/
def abandon (s : System) (w : WriteId) : Option Turn :=
  match s.outstanding.find? w with
  | none => none
  | some handed =>
    let s := { s with outstanding := s.outstanding.erase w }
    match handed with
    | .stray _ => some (s, none)
    | .trip _ => some ({ s with answers := s.answers.set w .dropped }, none)
    | .chain _ flight => some (s.setPermit (s.conn.permit.release flight.guard), none)

/-- One step, if it can be done. Calls and completions come from foreign code. -/
def perform (s : System) : Action → Option Turn
  | .call t c => if (s.thread t).isOutside then some (s.call t c) else none
  | .run t => s.run t
  | .expire t => s.expire t
  | .resume t => s.resume t
  | .complete t w outcome => if (s.thread t).isOutside then s.complete t w outcome else none
  | .abandon w => s.abandon w
  | .transportPending pending => some ({ s with transportPending := pending }, none)

end System

end Outflow
