import Outflow.Proofs.Connection
import Outflow.System.Step

/-! Everything that one step of a system can do, with the guards of each case. Later proofs go by these cases. -/
namespace Outflow

/-- What a blocking call takes out of a store. -/
def Store.sweep (s : Store) (goal : Goal) : Sweep :=
  { chunks := s.overflow, primary := s.takeOverflow.1.takePrimaryIfPending.2, goal }

/-- What it leaves. -/
def Store.swept (s : Store) : Store := s.takeOverflow.1.takePrimaryIfPending.1

namespace System

/-- A write goes to the transport from a loop on thread `t`, which has `queue` left. -/
def launch (s : System) (t : ThreadId) (rest : List Frame) (queue : List Job) (job : Job) : System :=
  ((s.setThread t { stack := .driving :: rest, deferral := .running queue }).handOver t
    (.chain job.write job.flight)).1

/-- A chain begins with `write`, and `store` is what stays behind. -/
def begin (s : System) (t : ThreadId) (starter : Starter) (g : Guard) (store : Store) (write : Write) : System :=
  let (markers, m) := s.markers.fresh
  (((s.setStore store).setMarkers (markers.enter m t)).push t (.issuing m starter)).push t
    (.carrying { write, flight := { guard := g, marker := m } })

/-- What remains when the transport is done with a write. -/
def endWrite (s : System) (w : WriteId) : System := { s with outstanding := s.outstanding.erase w }

def setConn (s : System) (conn : Connection) : System := { s with conn }

def setAnswers (s : System) (answers : Table Answer) : System := { s with answers }

def setTransportPending (s : System) (transportPending : Bool) : System := { s with transportPending }

inductive Step (s : System) : Action → System → Option Signal → Prop
  | addNothing {t src mode} (hout : (s.thread t).isOutside = true) (hsrc : src.hasRemaining = false) :
      Step s (.call t (.add src mode)) s (some (.replied .done))
  | addRefused {t src mode err} (hout : (s.thread t).isOutside = true) (hsrc : src.hasRemaining = true)
      (herr : s.conn.error = some err) :
      Step s (.call t (.add src mode)) s (some (.replied (.refused err)))
  | addBlocking {t src} (hout : (s.thread t).isOutside = true) (hsrc : src.hasRemaining = true)
      (herr : s.conn.error = none) :
      Step s (.call t (.add src .blocking)) (s.push t (.adding src)) none
  | addGranted {t src} (hout : (s.thread t).isOutside = true) (hsrc : src.hasRemaining = true)
      (herr : s.conn.error = none) (hfree : s.conn.permit.held = false) :
      Step s (.call t (.add src .nonBlocking))
        (((s.setPermit s.conn.permit.grant).takeOver src).push t (.starting .add s.conn.permit.nextGuard)) none
  | addQueued {t src conn} (hout : (s.thread t).isOutside = true) (hsrc : src.hasRemaining = true)
      (herr : s.conn.error = none) (hheld : s.conn.permit.held = true) (hroom : s.conn.queue? src = .ok conn) :
      Step s (.call t (.add src .nonBlocking)) (s.setConn conn) (some (.replied .done))
  | addFull {t src buffered limit} (hout : (s.thread t).isOutside = true) (hsrc : src.hasRemaining = true)
      (herr : s.conn.error = none) (hheld : s.conn.permit.held = true)
      (hroom : s.conn.queue? src = .error (buffered, limit)) :
      Step s (.call t (.add src .nonBlocking)) (s.push t (.awaitingRoom src buffered limit)) none
  | flushRefused {t mode err} (hout : (s.thread t).isOutside = true) (herr : s.conn.error = some err) :
      Step s (.call t (.flush mode)) s (some (.replied (.refused err)))
  | flushAwaits {t} (hout : (s.thread t).isOutside = true) (herr : s.conn.error = none)
      (hheld : s.conn.permit.held = true) :
      Step s (.call t (.flush .blocking)) (s.push t (.awaitingChain .flush)) none
  | flushCollects {t} (hout : (s.thread t).isOutside = true) (herr : s.conn.error = none)
      (hfree : s.conn.permit.held = false) :
      Step s (.call t (.flush .blocking)) (s.push t (.collecting .flush)) none
  | flushHeld {t} (hout : (s.thread t).isOutside = true) (herr : s.conn.error = none)
      (hheld : s.conn.permit.held = true) :
      Step s (.call t (.flush .nonBlocking)) s (some (.replied (.pending s.hasData)))
  | flushNothing {t} (hout : (s.thread t).isOutside = true) (herr : s.conn.error = none)
      (hfree : s.conn.permit.held = false) (htake : s.conn.takeWrite = (s.conn.store, none)) :
      Step s (.call t (.flush .nonBlocking))
        (s.setPermit (s.conn.permit.grant.release s.conn.permit.nextGuard))
        (some (.replied (.pending s.hasData)))
  | flushBegun {t store write} (hout : (s.thread t).isOutside = true) (herr : s.conn.error = none)
      (hfree : s.conn.permit.held = false) (htake : s.conn.takeWrite = (store, some write)) :
      Step s (.call t (.flush .nonBlocking))
        ((s.setPermit s.conn.permit.grant).begin t .flush s.conn.permit.nextGuard store write) none
  | registered {t} (hout : (s.thread t).isOutside = true) (hheld : s.conn.permit.held = true) :
      Step s (.call t .registerInterest) (s.setConn { s.conn with interest := true }) (some (.replied .done))
  | registeredFree {t} (hout : (s.thread t).isOutside = true) (hfree : s.conn.permit.held = false) :
      Step s (.call t .registerInterest) ((s.push t (.answering .done)).push t (.telling .writable)) none
  | reset {t} (hout : (s.thread t).isOutside = true) :
      Step s (.call t .reset) (s.setConn s.conn.reset) (some (.replied .done))
  | recycle {t} (hout : (s.thread t).isOutside = true) :
      Step s (.call t .recycle) (s.setConn s.conn.recycle) (some (.replied .done))
  | told {t rest} (hst : (s.thread t).stack = .telling .writable :: rest) :
      Step s (.run t) (s.setStack t (.notifying .writable :: rest)) (some (.notify .writable))
  | toldFailure {t rest err} (hst : (s.thread t).stack = .telling (.error err) :: rest) :
      Step s (.run t) (s.setStack t (.attaching err :: rest)) (some (.attach err))
  | answered {t rest reply} (hst : (s.thread t).stack = .answering reply :: rest) :
      Step s (.run t) (s.setStack t rest) (some (.replied reply))
  | driven {t rest job queue} (hst : (s.thread t).stack = .driving :: rest)
      (hd : (s.thread t).deferral = .running (job :: queue)) :
      Step s (.run t) (s.launch t rest queue job) (some (.handed s.nextWrite))
  | driveDone {t rest} (hst : (s.thread t).stack = .driving :: rest) (hd : (s.thread t).deferral.waiting = []) :
      Step s (.run t) (s.setThread t { stack := rest, deferral := .idle }) none
  | carried {t rest job} (hst : (s.thread t).stack = .carrying job :: rest) (hd : (s.thread t).deferral = .idle) :
      Step s (.run t) (s.launch t rest [] job) (some (.handed s.nextWrite))
  | deferred {t rest job queue} (hst : (s.thread t).stack = .carrying job :: rest)
      (hd : (s.thread t).deferral = .running queue) :
      Step s (.run t) (s.setThread t { stack := rest, deferral := .running (queue ++ [job]) }) none
  | startedNothing {t rest starter g} (hst : (s.thread t).stack = .starting starter g :: rest)
      (htake : s.conn.takeWrite = (s.conn.store, none)) :
      Step s (.run t) ((s.setStack t rest).setPermit (s.conn.permit.release g))
        (some (.replied (starter.reply s.hasData)))
  | started {t rest starter g store write} (hst : (s.thread t).stack = .starting starter g :: rest)
      (htake : s.conn.takeWrite = (store, some write)) :
      Step s (.run t) ((s.setStack t rest).begin t starter g store write) none
  | issued {t rest m starter} (hst : (s.thread t).stack = .issuing m starter :: rest) :
      Step s (.run t) ((s.setStack t rest).setMarkers (s.markers.exit m))
        (some (.replied (starter.reply s.hasData)))
  | addDone {t rest src} (hst : (s.thread t).stack = .adding src :: rest) (hsrc : src.hasRemaining = false) :
      Step s (.run t) (s.setStack t rest) (some (.replied .done))
  | absorbed {t rest src store count} (hst : (s.thread t).stack = .adding src :: rest)
      (hsrc : src.hasRemaining = true) (habs : s.conn.absorb src = (store, count, false)) :
      Step s (.run t) ((s.setStack t (.adding (src.drop count) :: rest)).setStore store) none
  | filledBehind {t rest src store count} (hst : (s.thread t).stack = .adding src :: rest)
      (hsrc : src.hasRemaining = true) (habs : s.conn.absorb src = (store, count, true))
      (hheld : s.conn.permit.held = true) :
      Step s (.run t) ((s.setStack t (.awaitingChain (.add (src.drop count)) :: rest)).setStore store) none
  | filled {t rest src store count} (hst : (s.thread t).stack = .adding src :: rest)
      (hsrc : src.hasRemaining = true) (habs : s.conn.absorb src = (store, count, true))
      (hfree : s.conn.permit.held = false) :
      Step s (.run t) ((s.setStack t (.collecting (.add (src.drop count)) :: rest)).setStore store) none
  | roomMade {t rest src buffered limit} (hst : (s.thread t).stack = .awaitingRoom src buffered limit :: rest)
      (hfree : s.conn.permit.held = false) :
      Step s (.run t) ((s.setStack t (.admitted src s.conn.permit.nextGuard :: rest)).setPermit s.conn.permit.grant)
        none
  | admittedLate {t rest src g err} (hst : (s.thread t).stack = .admitted src g :: rest)
      (herr : s.conn.error = some err) :
      Step s (.run t) (s.setStack t (.refusing err g :: rest)) none
  | admitted {t rest src g} (hst : (s.thread t).stack = .admitted src g :: rest) (herr : s.conn.error = none) :
      Step s (.run t) ((s.setStack t (.starting .add g :: rest)).takeOver src) none
  | refused {t rest err g} (hst : (s.thread t).stack = .refusing err g :: rest) :
      Step s (.run t) ((s.setStack t rest).setPermit (s.conn.permit.release g)) (some (.replied (.refused err)))
  | chainAwaited {t rest goal} (hst : (s.thread t).stack = .awaitingChain goal :: rest)
      (hfree : s.conn.permit.held = false) :
      Step s (.run t) ((s.setStack t (.yielding goal s.conn.permit.nextGuard :: rest)).setPermit s.conn.permit.grant)
        none
  | yielded {t rest goal g} (hst : (s.thread t).stack = .yielding goal g :: rest) :
      Step s (.run t) ((s.setStack t (.collecting goal :: rest)).setPermit (s.conn.permit.release g)) none
  | collectedLate {t rest goal err} (hst : (s.thread t).stack = .collecting goal :: rest)
      (herr : s.conn.error = some err) :
      Step s (.run t) (s.setStack t rest) (some (.replied (.refused err)))
  | collected {t rest goal} (hst : (s.thread t).stack = .collecting goal :: rest) (herr : s.conn.error = none) :
      Step s (.run t)
        ((s.setStack t (.sweeping (s.conn.store.sweep goal) :: rest)).setStore s.conn.store.swept)
        none
  | sweptChunk {t rest sweep c chunks} (hst : (s.thread t).stack = .sweeping sweep :: rest)
      (hc : sweep.chunks = c :: chunks) :
      Step s (.run t) (s.setStack t (.writing (.chunk c) { sweep with chunks } :: rest)) none
  | sweptPrimary {t rest sweep p} (hst : (s.thread t).stack = .sweeping sweep :: rest) (hc : sweep.chunks = [])
      (hp : sweep.primary = some p) :
      Step s (.run t) (s.setStack t (.writing (.primary p) { sweep with primary := none } :: rest)) none
  | sweptFlush {t rest sweep} (hst : (s.thread t).stack = .sweeping sweep :: rest) (hc : sweep.chunks = [])
      (hp : sweep.primary = none) (hg : sweep.goal = .flush) :
      Step s (.run t) ((s.setStack t rest).setStore s.conn.store.ensurePrimary) (some (.replied (.pending false)))
  | sweptAdd {t rest sweep src} (hst : (s.thread t).stack = .sweeping sweep :: rest) (hc : sweep.chunks = [])
      (hp : sweep.primary = none) (hg : sweep.goal = .add src) :
      Step s (.run t) ((s.setStack t (.adding src :: rest)).setStore s.conn.store.ensurePrimary) none
  | tripBegun {t rest buf sweep} (hst : (s.thread t).stack = .writing buf sweep :: rest)
      (hbuf : buf.hasRemaining = true) :
      Step s (.run t)
        ((s.setStack t (.awaitingReply s.nextWrite sweep :: rest)).handOver t (.trip buf)).1
        (some (.handed s.nextWrite))
  | tripsDone {t rest buf sweep} (hst : (s.thread t).stack = .writing buf sweep :: rest)
      (hbuf : buf.hasRemaining = false) :
      Step s (.run t) ((s.setStack t (.sweeping sweep :: rest)).setStore (s.conn.store.reclaim buf)) none
  | tripDropped {t rest w sweep} (hst : (s.thread t).stack = .awaitingReply w sweep :: rest)
      (hans : s.answers.find? w = some .dropped) :
      Step s (.run t)
        (((s.setStack t rest).setAnswers (s.answers.erase w)).setStore (sweep.putBack none s.conn.store))
        (some (.replied (.refused (.ofCause "transport dropped a blocking write without completing it"))))
  | tripFailed {t rest w sweep outcome buf err} (hst : (s.thread t).stack = .awaitingReply w sweep :: rest)
      (hans : s.answers.find? w = some (.returned outcome buf)) (hw : outcome.written = .error err) :
      Step s (.run t)
        (((s.setStack t rest).setAnswers (s.answers.erase w)).setStore (sweep.putBack (some buf) s.conn.store))
        (some (.replied (.refused err)))
  | tripDone {t rest w sweep outcome buf count} (hst : (s.thread t).stack = .awaitingReply w sweep :: rest)
      (hans : s.answers.find? w = some (.returned outcome buf)) (hw : outcome.written = .ok count) :
      Step s (.run t)
        ((s.setStack t (.writing (buf.drop (min count buf.remaining)) sweep :: rest)).setAnswers (s.answers.erase w))
        none
  | roomExpired {t rest src buffered limit} (hst : (s.thread t).stack = .awaitingRoom src buffered limit :: rest)
      (hheld : s.conn.permit.held = true) :
      Step s (.expire t) (s.setStack t rest) (some (.replied (.refused (.overloaded buffered limit))))
  | chainExpired {t rest goal} (hst : (s.thread t).stack = .awaitingChain goal :: rest)
      (hheld : s.conn.permit.held = true) :
      Step s (.expire t) (s.setStack t (.collecting goal :: rest)) none
  | tripExpired {t rest w sweep} (hst : (s.thread t).stack = .awaitingReply w sweep :: rest)
      (hans : s.answers.find? w = none) :
      Step s (.expire t)
        (((s.setStack t rest).disown w).setStore (sweep.putBack none s.conn.store))
        (some (.replied (.refused .timeout)))
  | transportReturned {t rest w} (hst : (s.thread t).stack = .inTransport w :: rest) :
      Step s (.resume t) (s.setStack t rest) none
  | attached {t rest err} (hst : (s.thread t).stack = .attaching err :: rest) :
      Step s (.resume t) (s.setStack t (.notifying (.error err) :: rest)) (some (.notify (.error err)))
  | notified {t rest event} (hst : (s.thread t).stack = .notifying event :: rest) :
      Step s (.resume t) (s.setStack t rest) none
  | strayEnded {t w outcome buf} (hout : (s.thread t).isOutside = true)
      (hw : s.outstanding.find? w = some (.stray buf)) :
      Step s (.complete t w outcome) (s.endWrite w) none
  | tripEnded {t w outcome buf} (hout : (s.thread t).isOutside = true)
      (hw : s.outstanding.find? w = some (.trip buf)) :
      Step s (.complete t w outcome)
        ((s.endWrite w).setAnswers (s.answers.set w (.returned outcome buf))) none
  | chainStale {t w outcome write flight} (hout : (s.thread t).isOutside = true)
      (hw : s.outstanding.find? w = some (.chain write flight))
      (hset : s.conn.Settled flight (s.markers.isInline flight.marker t) outcome write s.conn .stale) :
      Step s (.complete t w outcome) (s.endWrite w) none
  | chainQuiet {t w outcome write flight conn} (hout : (s.thread t).isOutside = true)
      (hw : s.outstanding.find? w = some (.chain write flight))
      (hset : s.conn.Settled flight (s.markers.isInline flight.marker t) outcome write conn (.finished false)) :
      Step s (.complete t w outcome) ((s.endWrite w).setConn conn) none
  | chainTold {t w outcome write flight conn} (hout : (s.thread t).isOutside = true)
      (hw : s.outstanding.find? w = some (.chain write flight))
      (hset : s.conn.Settled flight (s.markers.isInline flight.marker t) outcome write conn (.finished true)) :
      Step s (.complete t w outcome) (((s.endWrite w).setConn conn).push t (.telling .writable)) none
  | chainGoesOn {t w outcome write flight conn next} (hout : (s.thread t).isOutside = true)
      (hw : s.outstanding.find? w = some (.chain write flight))
      (hset : s.conn.Settled flight (s.markers.isInline flight.marker t) outcome write conn (.reissue next)) :
      Step s (.complete t w outcome)
        (((s.endWrite w).setConn conn).push t (.carrying { write := next, flight })) none
  | chainFailed {t w outcome write flight conn err} (hout : (s.thread t).isOutside = true)
      (hw : s.outstanding.find? w = some (.chain write flight))
      (hset : s.conn.Settled flight (s.markers.isInline flight.marker t) outcome write conn (.failed err)) :
      Step s (.complete t w outcome) (((s.endWrite w).setConn conn).push t (.telling (.error err))) none
  | strayForgotten {w buf} (hw : s.outstanding.find? w = some (.stray buf)) :
      Step s (.abandon w) (s.endWrite w) none
  | tripForgotten {w buf} (hw : s.outstanding.find? w = some (.trip buf)) :
      Step s (.abandon w) ((s.endWrite w).setAnswers (s.answers.set w .dropped)) none
  | chainForgotten {w write flight} (hw : s.outstanding.find? w = some (.chain write flight)) :
      Step s (.abandon w) ((s.endWrite w).setPermit (s.conn.permit.release flight.guard)) none
  | transportPending {pending} :
      Step s (.transportPending pending) (s.setTransportPending pending) none

variable {s s' : System} {t : ThreadId} {sig : Option Signal}

/-- The step is the turn that was found. -/
theorem Step.of_turn {a : Action} {turn : Turn} {s' : System} {sig : Option Signal} (h : some turn = some (s', sig))
    (hstep : Step s a turn.1 turn.2) : Step s a s' sig := by
  rw [Option.some.injEq] at h
  rwa [h] at hstep

theorem step_add {src : Chunk} {mode : Mode} (hout : (s.thread t).isOutside = true) :
    Step s (.call t (.add src mode)) (s.call t (.add src mode)).1 (s.call t (.add src mode)).2 := by
  cases hsrc : src.hasRemaining with
  | false =>
    simp only [call, hsrc, Bool.not_false, if_true]
    exact .addNothing hout hsrc
  | true =>
    simp only [call, hsrc, Bool.not_true, Bool.false_eq_true, if_false]
    cases herr : s.conn.error with
    | some err => exact .addRefused hout hsrc herr
    | none =>
      cases mode with
      | blocking => exact .addBlocking hout hsrc herr
      | nonBlocking =>
        simp only [addNonBlocking, Permit.tryAcquire]
        cases hheld : s.conn.permit.held with
        | false => exact .addGranted hout hsrc herr hheld
        | true =>
          cases hroom : s.conn.queue? src with
          | ok conn => exact .addQueued hout hsrc herr hheld hroom
          | error full => exact .addFull hout hsrc herr hheld hroom

theorem step_flush {mode : Mode} (hout : (s.thread t).isOutside = true) :
    Step s (.call t (.flush mode)) (s.call t (.flush mode)).1 (s.call t (.flush mode)).2 := by
  simp only [call]
  cases herr : s.conn.error with
  | some err => exact .flushRefused hout herr
  | none =>
    cases mode with
    | blocking =>
      simp only [flush, sweepFrame]
      cases hheld : s.conn.permit.held with
      | true => exact .flushAwaits hout herr hheld
      | false => exact .flushCollects hout herr hheld
    | nonBlocking =>
      simp only [flush, Permit.tryAcquire]
      cases hheld : s.conn.permit.held with
      | true => exact .flushHeld hout herr hheld
      | false =>
        have htake (p : Permit) : (s.setPermit p).conn.takeWrite = s.conn.takeWrite := rfl
        simp only [Bool.false_eq_true, if_false, startChain, htake]
        cases hwrite : s.conn.takeWrite.2 with
        | none =>
          have heq := Connection.takeWrite_eq_none hwrite
          simp only [heq]
          exact .flushNothing hout herr hheld heq
        | some write => exact .flushBegun hout herr hheld (Prod.ext rfl hwrite)

/-- What a call does at once. -/
theorem step_call {c : Call} (hout : (s.thread t).isOutside = true) :
    Step s (.call t c) (s.call t c).1 (s.call t c).2 := by
  cases c with
  | add src mode => exact step_add hout
  | flush mode => exact step_flush hout
  | registerInterest =>
    cases hheld : s.conn.permit.held with
    | true =>
      simp only [call, Connection.registerInterest, hheld, if_true, Bool.false_eq_true, if_false]
      exact .registered hout hheld
    | false =>
      simp only [call, Connection.registerInterest, hheld, if_true, Bool.false_eq_true, if_false]
      exact .registeredFree hout hheld
  | reset => exact .reset hout
  | recycle => exact .recycle hout

theorem step_starting {rest : List Frame} {starter : Starter} {g : Guard}
    (hst : (s.thread t).stack = .starting starter g :: rest) :
    Step s (.run t) ((s.setStack t rest).startChain t starter g).1
      ((s.setStack t rest).startChain t starter g).2 := by
  have htake : (s.setStack t rest).conn.takeWrite = s.conn.takeWrite := rfl
  simp only [startChain, htake]
  cases hwrite : s.conn.takeWrite.2 with
  | none =>
    have heq := Connection.takeWrite_eq_none hwrite
    simp only [heq]
    exact .startedNothing hst heq
  | some write => exact .started hst (Prod.ext rfl hwrite)

theorem step_adding {rest : List Frame} {src : Chunk} (hst : (s.thread t).stack = .adding src :: rest) :
    Step s (.run t) (s.runAdding t rest src).1 (s.runAdding t rest src).2 := by
  simp only [runAdding]
  cases hsrc : src.hasRemaining with
  | false =>
    simp only [Bool.not_false, if_true]
    exact .addDone hst hsrc
  | true =>
    simp only [Bool.not_true, Bool.false_eq_true, if_false]
    cases hfull : (s.conn.absorb src).2.2 with
    | false =>
      simp only [Bool.false_eq_true, if_false]
      exact .absorbed hst hsrc (Prod.ext rfl (Prod.ext rfl hfull))
    | true =>
      have habs : s.conn.absorb src = ((s.conn.absorb src).1, (s.conn.absorb src).2.1, true) :=
        Prod.ext rfl (Prod.ext rfl hfull)
      have hheld : (s.setStore (s.conn.absorb src).1).conn.permit.held = s.conn.permit.held := rfl
      simp only [if_true, sweepFrame, hheld]
      cases hheld : s.conn.permit.held with
      | true => exact .filledBehind hst hsrc habs hheld
      | false => exact .filled hst hsrc habs hheld

theorem step_sweeping {rest : List Frame} {sweep : Sweep} (hst : (s.thread t).stack = .sweeping sweep :: rest) :
    Step s (.run t) (s.runSweeping t rest sweep).1 (s.runSweeping t rest sweep).2 := by
  simp only [runSweeping]
  cases hc : sweep.chunks with
  | cons c chunks => exact .sweptChunk hst hc
  | nil =>
    cases hp : sweep.primary with
    | some p =>
      have h := Step.sweptPrimary hst hc hp
      rw [hc] at h
      exact h
    | none =>
      cases hg : sweep.goal with
      | flush => exact .sweptFlush hst hc hp hg
      | add src => exact .sweptAdd hst hc hp hg

theorem step_awaitingReply {rest : List Frame} {w : WriteId} {sweep : Sweep} {s' : System} {sig : Option Signal}
    (hst : (s.thread t).stack = .awaitingReply w sweep :: rest)
    (h : s.runAwaitingReply t rest w sweep = some (s', sig)) : Step s (.run t) s' sig := by
  unfold runAwaitingReply at h
  cases hans : s.answers.find? w with
  | none => simp [hans] at h
  | some answer =>
    cases answer with
    | dropped =>
      simp only [hans, Option.some.injEq] at h
      cases h
      exact .tripDropped hst hans
    | returned outcome buf =>
      cases hw : outcome.written with
      | error err =>
        simp only [hans, hw, Option.some.injEq] at h
        cases h
        exact .tripFailed hst hans hw
      | ok count =>
        simp only [hans, hw, Buffer.advance_of_le (Nat.min_le_right count buf.remaining), Option.some.injEq] at h
        cases h
        exact .tripDone hst hans hw

theorem step_driving {rest : List Frame} (hst : (s.thread t).stack = .driving :: rest) :
    Step s (.run t) (s.drive t rest (s.thread t).deferral.next).1 (s.drive t rest (s.thread t).deferral.next).2 := by
  cases hd : (s.thread t).deferral with
  | idle => exact .driveDone hst (by simp [hd, Deferral.waiting])
  | running queue =>
    cases queue with
    | nil => exact .driveDone hst (by simp [hd, Deferral.waiting])
    | cons job queue => exact .driven hst hd

theorem step_carrying {rest : List Frame} {job : Job} (hst : (s.thread t).stack = .carrying job :: rest) :
    Step s (.run t) (s.drive t rest ((s.thread t).deferral.submit job)).1
      (s.drive t rest ((s.thread t).deferral.submit job)).2 := by
  cases hd : (s.thread t).deferral with
  | idle => exact .carried hst hd
  | running queue => exact .deferred hst hd

theorem step_writing {rest : List Frame} {buf : Buffer} {sweep : Sweep}
    (hst : (s.thread t).stack = .writing buf sweep :: rest) :
    Step s (.run t) (s.runWriting t rest buf sweep).1 (s.runWriting t rest buf sweep).2 := by
  simp only [runWriting]
  cases hbuf : buf.hasRemaining with
  | true => exact .tripBegun hst hbuf
  | false => exact .tripsDone hst hbuf

theorem step_admitted {rest : List Frame} {src : Chunk} {g : Guard}
    (hst : (s.thread t).stack = .admitted src g :: rest) :
    Step s (.run t) (s.runAdmitted t rest src g).1 (s.runAdmitted t rest src g).2 := by
  simp only [runAdmitted]
  cases herr : s.conn.error with
  | some err => exact .admittedLate hst herr
  | none => exact .admitted hst herr

theorem step_collecting {rest : List Frame} {goal : Goal} (hst : (s.thread t).stack = .collecting goal :: rest) :
    Step s (.run t) (s.runCollecting t rest goal).1 (s.runCollecting t rest goal).2 := by
  simp only [runCollecting]
  cases herr : s.conn.error with
  | some err => exact .collectedLate hst herr
  | none => exact .collected hst herr

/-- The next step of a thread inside the connection. -/
theorem step_run {s' : System} {sig : Option Signal} (h : s.run t = some (s', sig)) : Step s (.run t) s' sig := by
  unfold run at h
  cases hst : (s.thread t).stack with
  | nil => simp [hst] at h
  | cons frame rest =>
    simp only [hst] at h
    cases frame with
    | inTransport _ | attaching _ | notifying _ => simp at h
    | telling event =>
      cases event with
      | writable => exact .of_turn h (.told hst)
      | error err => exact .of_turn h (.toldFailure hst)
    | answering reply => exact .of_turn h (.answered hst)
    | driving => exact .of_turn h (step_driving hst)
    | carrying job => exact .of_turn h (step_carrying hst)
    | starting starter g => exact .of_turn h (step_starting hst)
    | issuing m starter => exact .of_turn h (.issued hst)
    | adding src => exact .of_turn h (step_adding hst)
    | awaitingRoom src buffered limit =>
      cases hheld : s.conn.permit.held <;> simp [runAwaitingRoom, Permit.tryAcquire, hheld] at h
      obtain ⟨rfl, rfl⟩ := h
      exact .roomMade hst hheld
    | admitted src g => exact .of_turn h (step_admitted hst)
    | refusing err g => exact .of_turn h (.refused hst)
    | awaitingChain goal =>
      cases hheld : s.conn.permit.held <;> simp [runAwaitingChain, Permit.tryAcquire, hheld] at h
      obtain ⟨rfl, rfl⟩ := h
      exact .chainAwaited hst hheld
    | yielding goal g => exact .of_turn h (.yielded hst)
    | collecting goal => exact .of_turn h (step_collecting hst)
    | sweeping sweep => exact .of_turn h (step_sweeping hst)
    | writing buf sweep => exact .of_turn h (step_writing hst)
    | awaitingReply w sweep => exact step_awaitingReply hst h

theorem step_expire {s' : System} {sig : Option Signal} (h : s.expire t = some (s', sig)) :
    Step s (.expire t) s' sig := by
  unfold expire at h
  split at h
  · next src buffered limit rest hst =>
    split at h
    · next hheld =>
      cases h
      exact .roomExpired hst hheld
    · simp at h
  · next goal rest hst =>
    split at h
    · next hheld =>
      cases h
      exact .chainExpired hst hheld
    · simp at h
  · next w sweep rest hst =>
    split at h
    · next hans =>
      cases h
      exact .tripExpired hst (by simpa using hans)
    · simp at h
  · simp at h

theorem step_resume {s' : System} {sig : Option Signal} (h : s.resume t = some (s', sig)) :
    Step s (.resume t) s' sig := by
  unfold resume at h
  split at h
  · next hst =>
    cases h
    exact .transportReturned hst
  · next hst =>
    cases h
    exact .attached hst
  · next hst =>
    cases h
    exact .notified hst
  · simp at h

theorem step_complete {s' : System} {sig : Option Signal} {w : WriteId} {outcome : Outcome}
    (hout : (s.thread t).isOutside = true) (h : s.complete t w outcome = some (s', sig)) :
    Step s (.complete t w outcome) s' sig := by
  unfold complete at h
  cases hw : s.outstanding.find? w with
  | none => simp [hw] at h
  | some handed =>
    cases handed with
    | stray buf =>
      simp only [hw] at h
      cases h
      exact .strayEnded hout hw
    | trip buf =>
      simp only [hw] at h
      cases h
      exact .tripEnded hout hw
    | chain write flight =>
      obtain ⟨conn, v, heq, hset⟩ :=
        Connection.settle_cases s.conn flight (s.markers.isInline flight.marker t) outcome write
      simp only [hw, heq] at h
      cases v with
      | stale =>
        cases h
        cases hset
        exact .chainStale hout hw (.stale ‹_›)
      | reissue next =>
        cases h
        exact .chainGoesOn hout hw hset
      | finished notify =>
        cases notify with
        | true =>
          cases h
          exact .chainTold hout hw hset
        | false =>
          cases h
          exact .chainQuiet hout hw hset
      | failed err =>
        cases h
        exact .chainFailed hout hw hset

theorem step_abandon {s' : System} {sig : Option Signal} {w : WriteId} (h : s.abandon w = some (s', sig)) :
    Step s (.abandon w) s' sig := by
  unfold abandon at h
  cases hw : s.outstanding.find? w with
  | none => simp [hw] at h
  | some handed =>
    cases handed <;> simp only [hw] at h <;> cases h
    · exact .chainForgotten hw
    · exact .tripForgotten hw
    · exact .strayForgotten hw

/-- A step that is done is one of the cases. -/
theorem step_perform {s' : System} {a : Action} {sig : Option Signal} (h : s.perform a = some (s', sig)) :
    Step s a s' sig := by
  unfold perform at h
  cases a with
  | call t c =>
    simp only at h
    split at h
    · next hout =>
      have hcall : s.call t c = (s', sig) := Option.some.inj h
      have hstep := step_call (c := c) hout
      rwa [hcall] at hstep
    · simp at h
  | run t => exact step_run h
  | expire t => exact step_expire h
  | resume t => exact step_resume h
  | complete t w outcome =>
    simp only at h
    split at h
    · next hout => exact step_complete hout h
    · simp at h
  | abandon w => exact step_abandon h
  | transportPending pending =>
    cases h
    exact .transportPending

/-! ### Steps of the loop on a thread -/

section Loop

variable {rest : List Frame} {job : Job} {queue : List Job}

theorem perform_carried (hth : s.thread t = { stack := .carrying job :: rest }) :
    s.perform (.run t) = some (s.launch t rest [] job, some (.handed s.nextWrite)) := by
  simp [perform, run, hth, drive, Deferral.submit]
  rfl

/-- A write that finds a loop under way waits for it. -/
theorem perform_deferred (hth : s.thread t = { stack := .carrying job :: rest, deferral := .running queue }) :
    s.perform (.run t)
      = some (s.setThread t { stack := rest, deferral := .running (queue ++ [job]) }, none) := by
  simp [perform, run, hth, drive, Deferral.submit]

theorem perform_driven (hth : s.thread t = { stack := .driving :: rest, deferral := .running (job :: queue) }) :
    s.perform (.run t) = some (s.launch t rest queue job, some (.handed s.nextWrite)) := by
  simp [perform, run, hth, drive, Deferral.next]
  rfl

theorem perform_driveDone (hth : s.thread t = { stack := .driving :: rest, deferral := .running [] }) :
    s.perform (.run t) = some (s.setThread t { stack := rest }, none) := by
  simp [perform, run, hth, drive, Deferral.next]

end Loop

end System

end Outflow
