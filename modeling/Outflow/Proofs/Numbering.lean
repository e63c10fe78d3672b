import Outflow.Proofs.Soundness

/-! Two systems that differ only in how far they have counted their writes, markers and grants do the same, and so do
their threads one by one if other threads are elsewhere. -/
namespace Outflow

/-- How much further one system has counted than another. -/
structure Lead where
  writes : WriteId
  markers : MarkerId
  grants : UInt64

variable (d : Lead)

def Guard.shift (g : Guard) : Guard := { generation := g.generation + d.grants }

def Permit.shift (p : Permit) : Permit := { p with generation := p.generation + d.grants }

def Flight.shift (f : Flight) : Flight := { guard := f.guard.shift d, marker := f.marker + d.markers }

def Job.shift (job : Job) : Job := { job with flight := job.flight.shift d }

def Frame.shift : Frame → Frame
  | inTransport w => inTransport (w + d.writes)
  | carrying job => carrying (job.shift d)
  | starting starter g => starting starter (g.shift d)
  | issuing m starter => issuing (m + d.markers) starter
  | admitted src g => admitted src (g.shift d)
  | refusing err g => refusing err (g.shift d)
  | yielding goal g => yielding goal (g.shift d)
  | awaitingReply w sweep => awaitingReply (w + d.writes) sweep
  | f => f

def Deferral.map {α β : Type} (φ : α → β) : Deferral α → Deferral β
  | idle => idle
  | running queue => running (queue.map φ)

def Thread.shift (th : Thread) : Thread :=
  { stack := th.stack.map (Frame.shift d), deferral := th.deferral.map (Job.shift d) }

def Handed.shift : Handed → Handed
  | chain write flight => chain write (flight.shift d)
  | h => h

def Signal.shift : Signal → Signal
  | handed w => handed (w + d.writes)
  | sig => sig

def Connection.shift (c : Connection) : Connection := { c with permit := c.permit.shift d }

/-! ### The parts of a connection -/

namespace Permit

variable (p : Permit) (g : Guard)

@[simp]
theorem held_shift : (p.shift d).held = p.held := rfl

theorem add_one_shift (x y : UInt64) : x + y + 1 = x + 1 + y := by
  rw [UInt64.add_assoc, UInt64.add_comm y, ← UInt64.add_assoc]

@[simp]
theorem grant_shift : (p.shift d).grant = p.grant.shift d := by
  simp [grant, shift, add_one_shift]

@[simp]
theorem nextGuard_shift : (p.shift d).nextGuard = p.nextGuard.shift d := by
  simp [nextGuard, shift, Guard.shift, add_one_shift]

@[simp]
theorem reset_shift : (p.shift d).reset = p.reset.shift d := by
  simp [reset, shift, add_one_shift]

@[simp]
theorem isCurrent_shift : (p.shift d).isCurrent (g.shift d) = p.isCurrent g := by
  have h : (p.generation + d.grants == g.generation + d.grants) = (p.generation == g.generation) := by
    rw [Bool.eq_iff_iff, beq_iff_eq, beq_iff_eq, UInt64.add_left_inj]
  simp only [isCurrent, shift, Guard.shift, h]

@[simp]
theorem release_shift : (p.shift d).release (g.shift d) = (p.release g).shift d := by
  simp only [release, isCurrent_shift]
  split <;> rfl

end Permit

namespace Connection

variable (c : Connection)

@[simp]
theorem frame_shift : (c.shift d).store = c.store ∧ (c.shift d).error = c.error ∧ (c.shift d).interest = c.interest ∧
    (c.shift d).config = c.config :=
  ⟨rfl, rfl, rfl, rfl⟩

@[simp]
theorem permit_shift : (c.shift d).permit = c.permit.shift d := rfl

@[simp]
theorem takeWrite_shift : (c.shift d).takeWrite = c.takeWrite := rfl

@[simp]
theorem absorb_shift (src : Chunk) : (c.shift d).absorb src = c.absorb src := rfl

theorem queue?_shift (src : Chunk) : (c.shift d).queue? src = (c.queue? src).map (Connection.shift d) := by
  unfold queue?
  simp only [frame_shift]
  split
  · split <;> rfl
  · rfl

theorem registerInterest_shift :
    (c.shift d).registerInterest = (c.registerInterest.1.shift d, c.registerInterest.2) := by
  cases hheld : c.permit.held <;> simp [registerInterest, hheld, shift]

theorem recycle_shift : (c.shift d).recycle = c.recycle.shift d := by
  simp [recycle, shift]

theorem finish_shift (flight : Flight) (isInline : Bool) : (c.shift d).finish (flight.shift d) isInline
    = ((c.finish flight isInline).1.shift d, (c.finish flight isInline).2) := by
  simp [finish, Flight.shift, shift]

theorem fail_shift (err : Error) (bufs : List Buffer) (flight : Flight) : (c.shift d).fail err bufs (flight.shift d)
    = ((c.fail err bufs flight).1.shift d, (c.fail err bufs flight).2) := by
  simp only [fail, permit_shift, Flight.shift, Permit.isCurrent_shift, Permit.release_shift]
  split <;> rfl

theorem settle_shift (flight : Flight) (isInline : Bool) (outcome : Outcome) (write : Write) :
    (c.shift d).settle (flight.shift d) isInline outcome write
      = (c.settle flight isInline outcome write).map fun r => (r.1.shift d, r.2) := by
  have hcurrent : (c.shift d).permit.isCurrent (flight.shift d).guard = c.permit.isCurrent flight.guard :=
    Permit.isCurrent_shift d c.permit flight.guard
  have hfinish (store : Store) : finish { c.shift d with store } (flight.shift d) isInline
      = ((finish { c with store } flight isInline).1.shift d, (finish { c with store } flight isInline).2) :=
    finish_shift d { c with store } flight isInline
  have hstore : (c.shift d).store = c.store := rfl
  cases write with
  | single buf =>
    simp only [settle, settleSingle]
    cases outcome.written with
    | error err => simp [fail_shift, Except.map]
    | ok count =>
      simp only [hcurrent, hstore, hfinish]
      cases buf.advance (min count buf.remaining) with
      | error f => rfl
      | ok buf =>
        simp only [bind, Except.bind]
        split
        · rfl
        · split
          · rfl
          · split <;> rfl
  | gather bufs =>
    simp only [settle, settleGather]
    cases outcome.written with
    | error err => simp [fail_shift, Except.map]
    | ok count =>
      simp only [hcurrent, hstore, hfinish]
      cases advanceAll count bufs with
      | error f => rfl
      | ok bufs =>
        simp only [bind, Except.bind]
        split
        · rfl
        · split <;> rfl

end Connection

namespace Deferral

variable {α β : Type} (φ : α → β)

@[simp]
theorem next_map (q : Deferral α) : (q.map φ).next = (q.next.1.map φ, q.next.2.map φ) := by
  cases q with
  | idle => rfl
  | running queue => cases queue <;> rfl

@[simp]
theorem submit_map (job : α) (q : Deferral α) :
    (q.map φ).submit (φ job) = ((q.submit job).1.map φ, (q.submit job).2.map φ) := by
  cases q <;> simp [map, submit]

end Deferral

theorem Thread.isOutside_shift (th : Thread) : (th.shift d).isOutside = th.isOutside := by
  obtain ⟨stack, deferral⟩ := th
  cases stack with
  | nil => rfl
  | cons frame rest => cases frame <;> rfl

namespace System

/-- The first system is like the second one, but has counted further. -/
structure Ahead (s f : System) : Prop where
  conn : s.conn = f.conn.shift d
  thread : ∀ t, s.thread t = (f.thread t).shift d
  outstanding : ∀ w, s.outstanding.find? (w + d.writes) = (f.outstanding.find? w).map (Handed.shift d)
  answers : ∀ w, s.answers.find? (w + d.writes) = f.answers.find? w
  nextWrite : s.nextWrite = f.nextWrite + d.writes
  nextMarker : s.markers.next = f.markers.next + d.markers
  issuing : ∀ m, s.markers.issuing.find? (m + d.markers) = f.markers.issuing.find? m
  transportPending : s.transportPending = f.transportPending

/-- Two turns that tell the same and lead to such systems. -/
def Alike (x y : Turn) : Prop := Ahead d x.1 y.1 ∧ x.2 = y.2.map (Signal.shift d)

variable (on : ThreadId → Prop)

/-- The first system is like the second one as far as the threads of `on` can see, but has counted further. -/
structure AheadOn (s f : System) : Prop where
  conn : s.conn = f.conn.shift d
  thread : ∀ t, on t → s.thread t = (f.thread t).shift d
  outstanding : ∀ w, s.outstanding.find? (w + d.writes) = (f.outstanding.find? w).map (Handed.shift d)
  answers : ∀ w, s.answers.find? (w + d.writes) = f.answers.find? w
  nextWrite : s.nextWrite = f.nextWrite + d.writes
  nextMarker : s.markers.next = f.markers.next + d.markers
  issuing : ∀ m, s.markers.issuing.find? (m + d.markers) = f.markers.issuing.find? m
  transportPending : s.transportPending = f.transportPending

def AlikeOn (x y : Turn) : Prop := AheadOn d on x.1 y.1 ∧ x.2 = y.2.map (Signal.shift d)

variable {d} {on} {s f : System}

theorem Ahead.seen (h : Ahead d s f) : AheadOn d on s f := { h with thread := fun t _ => h.thread t }

theorem AheadOn.whole (h : AheadOn d (fun _ => True) s f) : Ahead d s f :=
  { h with thread := fun t => h.thread t trivial }

namespace AheadOn

variable {t : ThreadId}

theorem setThread (h : AheadOn d on s f) (t : ThreadId) (th : Thread) :
    AheadOn d on (s.setThread t (th.shift d)) (f.setThread t th) := by
  refine { h with thread := fun u hu => ?_ }
  rw [thread_setThread, thread_setThread]
  split
  · rfl
  · exact h.thread u hu

theorem setStack (h : AheadOn d on s f) (ht : on t) (stack : List Frame) :
    AheadOn d on (s.setStack t (stack.map (Frame.shift d))) (f.setStack t stack) := by
  rw [System.setStack, h.thread t ht]
  exact h.setThread t { f.thread t with stack }

theorem push (h : AheadOn d on s f) (ht : on t) (frame : Frame) :
    AheadOn d on (s.push t (frame.shift d)) (f.push t frame) := by
  rw [System.push, h.thread t ht]
  exact h.setStack ht (frame :: (f.thread t).stack)

theorem setConn (h : AheadOn d on s f) (conn : Connection) : AheadOn d on (s.setConn (conn.shift d)) (f.setConn conn) :=
  { h with conn := rfl }

theorem setStore (h : AheadOn d on s f) (store : Store) : AheadOn d on (s.setStore store) (f.setStore store) := by
  refine { h with conn := ?_ }
  simp [h.conn, Connection.shift]

theorem setPermit (h : AheadOn d on s f) (permit : Permit) :
    AheadOn d on (s.setPermit (permit.shift d)) (f.setPermit permit) := by
  refine { h with conn := ?_ }
  simp [h.conn, Connection.shift]

theorem grant (h : AheadOn d on s f) :
    AheadOn d on (s.setPermit s.conn.permit.grant) (f.setPermit f.conn.permit.grant) := by
  rw [h.conn, Connection.permit_shift, Permit.grant_shift]
  exact h.setPermit _

theorem release (h : AheadOn d on s f) (g : Guard) :
    AheadOn d on (s.setPermit (s.conn.permit.release (g.shift d))) (f.setPermit (f.conn.permit.release g)) := by
  rw [h.conn, Connection.permit_shift, Permit.release_shift]
  exact h.setPermit _

theorem setAnswers (h : AheadOn d on s f) {answers answers' : Table Answer}
    (ha : ∀ w, answers.find? (w + d.writes) = answers'.find? w) :
    AheadOn d on (s.setAnswers answers) (f.setAnswers answers') :=
  { h with answers := ha }

theorem setAnswer (h : AheadOn d on s f) (w : WriteId) (answer : Answer) :
    AheadOn d on (s.setAnswers (s.answers.set (w + d.writes) answer)) (f.setAnswers (f.answers.set w answer)) := by
  refine h.setAnswers fun v => ?_
  simp [Table.find?_set, h.answers v]

theorem eraseAnswer (h : AheadOn d on s f) (w : WriteId) :
    AheadOn d on (s.setAnswers (s.answers.erase (w + d.writes))) (f.setAnswers (f.answers.erase w)) := by
  refine h.setAnswers fun v => ?_
  simp [Table.find?_erase, h.answers v]

theorem endWrite (h : AheadOn d on s f) (w : WriteId) : AheadOn d on (s.endWrite (w + d.writes)) (f.endWrite w) := by
  refine { h with outstanding := fun v => ?_ }
  simp only [frame_endWrite, Table.find?_erase, h.outstanding v, Nat.add_right_cancel_iff]
  split <;> rfl

theorem disown (h : AheadOn d on s f) (w : WriteId) : AheadOn d on (s.disown (w + d.writes)) (f.disown w) := by
  refine { h with outstanding := fun v => ?_ }
  simp only [find?_disown, h.outstanding v, Nat.add_right_cancel_iff]
  split
  · cases f.outstanding.find? v with
    | none => rfl
    | some handed => cases handed <;> rfl
  · rfl

theorem enterMarker (h : AheadOn d on s f) (t : ThreadId) :
    AheadOn d on (s.setMarkers (s.markers.fresh.1.enter s.markers.fresh.2 t))
      (f.setMarkers (f.markers.fresh.1.enter f.markers.fresh.2 t)) := by
  refine { h with nextMarker := ?_, issuing := fun m => ?_ }
  · simp [Markers.fresh, Markers.enter, h.nextMarker, Nat.add_right_comm]
  · simp [Markers.fresh, Markers.enter, Table.find?_set, h.issuing m, h.nextMarker]

theorem exitMarker (h : AheadOn d on s f) (m : MarkerId) :
    AheadOn d on (s.setMarkers (s.markers.exit (m + d.markers))) (f.setMarkers (f.markers.exit m)) := by
  refine { h with nextMarker := h.nextMarker, issuing := fun m' => ?_ }
  simp [Markers.exit, Table.find?_erase, h.issuing m']

theorem setTransportPending (h : AheadOn d on s f) (pending : Bool) :
    AheadOn d on (s.setTransportPending pending) (f.setTransportPending pending) :=
  { h with transportPending := rfl }

theorem hasData (h : AheadOn d on s f) : s.hasData = f.hasData := by
  rw [System.hasData, h.conn, h.transportPending]
  rfl

/-! ### Turns -/

theorem answer (h : AheadOn d on s f) (reply : Reply) : AlikeOn d on (s.answer reply) (f.answer reply) := ⟨h, rfl⟩

theorem answerStarter (h : AheadOn d on s f) (starter : Starter) :
    AlikeOn d on (s.answerStarter starter) (f.answerStarter starter) := by
  rw [System.answerStarter, h.hasData]
  exact h.answer _

theorem handOver (h : AheadOn d on s f) (ht : on t) (handed : Handed) :
    AlikeOn d on (s.handOver t (handed.shift d)) (f.handOver t handed) := by
  have hs : AheadOn d on
      { s with outstanding := s.outstanding.set s.nextWrite (handed.shift d), nextWrite := s.nextWrite + 1 }
      { f with outstanding := f.outstanding.set f.nextWrite handed, nextWrite := f.nextWrite + 1 } := by
    refine { h with outstanding := fun v => ?_, nextWrite := ?_ }
    · simp only [Table.find?_set, h.outstanding v, h.nextWrite, Nat.add_right_cancel_iff]
      split <;> rfl
    · simp [h.nextWrite, Nat.add_right_comm]
  simp only [System.handOver, h.nextWrite] at hs ⊢
  exact ⟨hs.push ht (.inTransport f.nextWrite), rfl⟩

theorem startChain (h : AheadOn d on s f) (ht : on t) (starter : Starter) (g : Guard) :
    AlikeOn d on (s.startChain t starter (g.shift d)) (f.startChain t starter g) := by
  have hs := h.setStore f.conn.takeWrite.1
  have hnext : (s.setStore f.conn.takeWrite.1).markers.fresh.2 = f.markers.next + d.markers := h.nextMarker
  simp only [System.startChain, h.conn, Connection.takeWrite_shift, hnext]
  cases f.conn.takeWrite.2 with
  | none => exact (hs.release g).answerStarter starter
  | some write =>
    have hm := hs.enterMarker t
    rw [hnext] at hm
    exact ⟨(hm.push ht (.issuing f.markers.next starter)).push ht
      (.carrying { write, flight := { guard := g, marker := f.markers.next } }), rfl⟩

theorem takeOver (h : AheadOn d on s f) (src : Chunk) : AheadOn d on (s.takeOver src) (f.takeOver src) := by
  rw [System.takeOver, h.conn]
  exact h.setStore _

/-! ### Calls -/

theorem addNonBlocking (h : AheadOn d on s f) (ht : on t) (src : Chunk) :
    AlikeOn d on (s.addNonBlocking t src) (f.addNonBlocking t src) := by
  have hheld : s.conn.permit.held = f.conn.permit.held := by rw [h.conn]; rfl
  have hguard : s.conn.permit.nextGuard = f.conn.permit.nextGuard.shift d := by rw [h.conn]; simp
  simp only [System.addNonBlocking, Permit.tryAcquire, hheld, hguard]
  cases f.conn.permit.held with
  | false => exact ⟨(h.grant.takeOver src).push ht (.starting .add f.conn.permit.nextGuard), rfl⟩
  | true =>
    simp only [if_true, h.conn, Connection.queue?_shift]
    cases f.conn.queue? src with
    | ok conn => exact (h.setConn conn).answer .done
    | error full => exact ⟨h.push ht (.awaitingRoom src full.1 full.2), rfl⟩

theorem flush (h : AheadOn d on s f) (ht : on t) (mode : Mode) : AlikeOn d on (s.flush t mode) (f.flush t mode) := by
  have hheld : s.conn.permit.held = f.conn.permit.held := by rw [h.conn]; rfl
  have hguard : s.conn.permit.nextGuard = f.conn.permit.nextGuard.shift d := by rw [h.conn]; simp
  cases mode with
  | blocking =>
    simp only [System.flush, System.sweepFrame, hheld]
    cases f.conn.permit.held with
    | true => exact ⟨h.push ht (.awaitingChain .flush), rfl⟩
    | false => exact ⟨h.push ht (.collecting .flush), rfl⟩
  | nonBlocking =>
    simp only [System.flush, Permit.tryAcquire, hheld, hguard]
    cases f.conn.permit.held with
    | true => exact h.answerStarter .flush
    | false => exact h.grant.startChain ht .flush f.conn.permit.nextGuard

theorem call (h : AheadOn d on s f) (ht : on t) (c : Call) : AlikeOn d on (s.call t c) (f.call t c) := by
  have herror : s.conn.error = f.conn.error := by rw [h.conn]; rfl
  cases c with
  | add src mode =>
    simp only [System.call, herror]
    cases src.hasRemaining with
    | false => exact h.answer .done
    | true =>
      cases f.conn.error with
      | some err => exact h.answer _
      | none =>
        cases mode with
        | blocking => exact ⟨h.push ht (.adding src), rfl⟩
        | nonBlocking => exact h.addNonBlocking ht src
  | flush mode =>
    simp only [System.call, herror]
    cases f.conn.error with
    | some err => exact h.answer _
    | none => exact h.flush ht mode
  | registerInterest =>
    have hs := h.setConn f.conn.registerInterest.1
    simp only [System.call, h.conn, Connection.registerInterest_shift]
    cases f.conn.registerInterest.2 with
    | true => exact ⟨(hs.push ht (.answering .done)).push ht (.telling .writable), rfl⟩
    | false => exact hs.answer .done
  | reset =>
    simp only [System.call, h.conn]
    exact (h.setConn f.conn.reset).answer .done
  | recycle =>
    simp only [System.call, h.conn, Connection.recycle_shift]
    exact (h.setConn f.conn.recycle).answer .done

/-! ### Steps inside the connection -/

variable {rest : List Frame}

/-- The innermost frame makes room for others. -/
theorem replace (h : AheadOn d on s f) (ht : on t) (frame : Frame) (rest : List Frame) :
    AheadOn d on (s.setStack t (frame.shift d :: rest.map (Frame.shift d))) (f.setStack t (frame :: rest)) :=
  h.setStack ht (frame :: rest)

theorem sweepFrame (h : AheadOn d on s f) (goal : Goal) : s.sweepFrame goal = (f.sweepFrame goal).shift d := by
  rw [System.sweepFrame, System.sweepFrame, h.conn, Connection.permit_shift, Permit.held_shift]
  split <;> rfl

theorem runAdding (h : AheadOn d on s f) (ht : on t) (src : Chunk) :
    AlikeOn d on (s.runAdding t (rest.map (Frame.shift d)) src) (f.runAdding t rest src) := by
  simp only [System.runAdding]
  cases src.hasRemaining with
  | false => exact (h.setStack ht rest).answer .done
  | true =>
    have hs := h.setStore (f.conn.absorb src).1
    simp only [h.conn, Connection.absorb_shift, hs.sweepFrame]
    cases (f.conn.absorb src).2.2 with
    | true => exact ⟨hs.replace ht _ rest, rfl⟩
    | false => exact ⟨hs.replace ht (.adding _) rest, rfl⟩

theorem drive (h : AheadOn d on s f) (ht : on t) (rest : List Frame) (next : Deferral Job × Option Job) :
    AlikeOn d on (s.drive t (rest.map (Frame.shift d)) (next.1.map (Job.shift d), next.2.map (Job.shift d)))
      (f.drive t rest next) := by
  obtain ⟨deferral, job⟩ := next
  cases job with
  | none => exact ⟨h.setThread t { stack := rest, deferral }, rfl⟩
  | some job => exact (h.setThread t { stack := .driving :: rest, deferral }).handOver ht (.chain job.write job.flight)

theorem runAwaitingRoom (h : AheadOn d on s f) (ht : on t) (src : Chunk) :
    Option.Rel (AlikeOn d on) (s.runAwaitingRoom t (rest.map (Frame.shift d)) src) (f.runAwaitingRoom t rest src) := by
  have hheld : s.conn.permit.held = f.conn.permit.held := by rw [h.conn]; rfl
  have hguard : s.conn.permit.nextGuard = f.conn.permit.nextGuard.shift d := by rw [h.conn]; simp
  simp only [System.runAwaitingRoom, Permit.tryAcquire, hheld, hguard]
  cases f.conn.permit.held with
  | true => exact .none
  | false => exact .some ⟨h.grant.replace ht (.admitted src f.conn.permit.nextGuard) rest, rfl⟩

theorem runAdmitted (h : AheadOn d on s f) (ht : on t) (src : Chunk) (g : Guard) :
    AlikeOn d on (s.runAdmitted t (rest.map (Frame.shift d)) src (g.shift d)) (f.runAdmitted t rest src g) := by
  simp only [System.runAdmitted, h.conn, Connection.frame_shift]
  cases f.conn.error with
  | some err => exact ⟨h.replace ht (.refusing err g) rest, rfl⟩
  | none => exact ⟨(h.takeOver src).replace ht (.starting .add g) rest, rfl⟩

theorem runRefusing (h : AheadOn d on s f) (ht : on t) (err : Error) (g : Guard) :
    AlikeOn d on (s.runRefusing t (rest.map (Frame.shift d)) err (g.shift d)) (f.runRefusing t rest err g) :=
  ((h.release g).setStack ht rest).answer (.refused err)

theorem runAwaitingChain (h : AheadOn d on s f) (ht : on t) (goal : Goal) :
    Option.Rel (AlikeOn d on) (s.runAwaitingChain t (rest.map (Frame.shift d)) goal)
      (f.runAwaitingChain t rest goal) := by
  have hheld : s.conn.permit.held = f.conn.permit.held := by rw [h.conn]; rfl
  have hguard : s.conn.permit.nextGuard = f.conn.permit.nextGuard.shift d := by rw [h.conn]; simp
  simp only [System.runAwaitingChain, Permit.tryAcquire, hheld, hguard]
  cases f.conn.permit.held with
  | true => exact .none
  | false => exact .some ⟨h.grant.replace ht (.yielding goal f.conn.permit.nextGuard) rest, rfl⟩

theorem runYielding (h : AheadOn d on s f) (ht : on t) (goal : Goal) (g : Guard) :
    AlikeOn d on (s.runYielding t (rest.map (Frame.shift d)) goal (g.shift d)) (f.runYielding t rest goal g) :=
  ⟨(h.release g).replace ht (.collecting goal) rest, rfl⟩

theorem runCollecting (h : AheadOn d on s f) (ht : on t) (goal : Goal) :
    AlikeOn d on (s.runCollecting t (rest.map (Frame.shift d)) goal) (f.runCollecting t rest goal) := by
  simp only [System.runCollecting, h.conn, Connection.frame_shift]
  cases f.conn.error with
  | some err => exact (h.setStack ht rest).answer (.refused err)
  | none => exact ⟨(h.setStore _).replace ht (.sweeping _) rest, rfl⟩

theorem runSweeping (h : AheadOn d on s f) (ht : on t) (sweep : Sweep) :
    AlikeOn d on (s.runSweeping t (rest.map (Frame.shift d)) sweep) (f.runSweeping t rest sweep) := by
  have hs := h.setStore f.conn.store.ensurePrimary
  simp only [System.runSweeping, h.conn, Connection.frame_shift]
  cases sweep.chunks with
  | cons c chunks => exact ⟨h.replace ht (.writing (.chunk c) { sweep with chunks }) rest, rfl⟩
  | nil =>
    cases sweep.primary with
    | some p =>
      exact ⟨h.replace ht (.writing (.primary p) { chunks := [], primary := none, goal := sweep.goal }) rest, rfl⟩
    | none =>
      cases sweep.goal with
      | flush => exact (hs.setStack ht rest).answer (.pending false)
      | add src => exact ⟨hs.replace ht (.adding src) rest, rfl⟩

theorem runWriting (h : AheadOn d on s f) (ht : on t) (buf : Buffer) (sweep : Sweep) :
    AlikeOn d on (s.runWriting t (rest.map (Frame.shift d)) buf sweep) (f.runWriting t rest buf sweep) := by
  simp only [System.runWriting, h.conn, h.nextWrite, Connection.frame_shift]
  cases buf.hasRemaining with
  | true => exact (h.replace ht (.awaitingReply f.nextWrite sweep) rest).handOver ht (.trip buf)
  | false => exact ⟨(h.setStore _).replace ht (.sweeping sweep) rest, rfl⟩

theorem failSweep (h : AheadOn d on s f) (ht : on t) (sweep : Sweep) (err : Error) (returned : Option Buffer) :
    AlikeOn d on (s.failSweep t (rest.map (Frame.shift d)) sweep err returned)
      (f.failSweep t rest sweep err returned) := by
  simp only [System.failSweep, h.conn, Connection.frame_shift]
  exact ((h.setStore _).setStack ht rest).answer (.refused err)

theorem runAwaitingReply (h : AheadOn d on s f) (ht : on t) (w : WriteId) (sweep : Sweep) :
    Option.Rel (AlikeOn d on) (s.runAwaitingReply t (rest.map (Frame.shift d)) (w + d.writes) sweep)
      (f.runAwaitingReply t rest w sweep) := by
  have hs := h.eraseAnswer w
  simp only [System.runAwaitingReply, h.answers w]
  cases f.answers.find? w with
  | none => exact .none
  | some answer =>
    cases answer with
    | dropped => exact .some (hs.failSweep ht sweep _ none)
    | returned outcome buf =>
      simp only
      cases outcome.written with
      | error err => exact .some (hs.failSweep ht sweep err (some buf))
      | ok count =>
        simp only
        cases buf.advance (min count buf.remaining) with
        | ok buf => exact .some ⟨hs.replace ht (.writing buf sweep) rest, rfl⟩
        | error fault => exact .some ⟨hs.setStack ht rest, rfl⟩

theorem runIssuing (h : AheadOn d on s f) (ht : on t) (m : MarkerId) (starter : Starter) :
    AlikeOn d on (s.runIssuing t (rest.map (Frame.shift d)) (m + d.markers) starter) (f.runIssuing t rest m starter) :=
  ((h.exitMarker m).setStack ht rest).answerStarter starter

theorem runTelling (h : AheadOn d on s f) (ht : on t) (event : Event) :
    AlikeOn d on (s.runTelling t (rest.map (Frame.shift d)) event) (f.runTelling t rest event) := by
  cases event with
  | writable => exact ⟨h.replace ht (.notifying .writable) rest, rfl⟩
  | error err => exact ⟨h.replace ht (.attaching err) rest, rfl⟩

theorem run (h : AheadOn d on s f) (ht : on t) : Option.Rel (AlikeOn d on) (s.run t) (f.run t) := by
  unfold System.run
  rw [h.thread t ht]
  cases hst : (f.thread t).stack with
  | nil =>
    simp only [Thread.shift, hst, List.map_nil]
    exact .none
  | cons frame rest =>
    simp only [Thread.shift, hst, List.map_cons]
    cases frame with
    | inTransport w | attaching err | notifying event => exact .none
    | telling event => exact .some (h.runTelling ht event)
    | answering reply => exact .some ((h.setStack ht rest).answer reply)
    | driving =>
      have hturn := h.drive ht rest (f.thread t).deferral.next
      rw [← Deferral.next_map] at hturn
      exact .some hturn
    | carrying job =>
      have hturn := h.drive ht rest ((f.thread t).deferral.submit job)
      rw [← Deferral.submit_map] at hturn
      exact .some hturn
    | starting starter g => exact .some ((h.setStack ht rest).startChain ht starter g)
    | issuing m starter => exact .some (h.runIssuing ht m starter)
    | adding src => exact .some (h.runAdding ht src)
    | awaitingRoom src buffered limit => exact h.runAwaitingRoom ht src
    | admitted src g => exact .some (h.runAdmitted ht src g)
    | refusing err g => exact .some (h.runRefusing ht err g)
    | awaitingChain goal => exact h.runAwaitingChain ht goal
    | yielding goal g => exact .some (h.runYielding ht goal g)
    | collecting goal => exact .some (h.runCollecting ht goal)
    | sweeping sweep => exact .some (h.runSweeping ht sweep)
    | writing buf sweep => exact .some (h.runWriting ht buf sweep)
    | awaitingReply w sweep => exact h.runAwaitingReply ht w sweep

theorem expire (h : AheadOn d on s f) (ht : on t) : Option.Rel (AlikeOn d on) (s.expire t) (f.expire t) := by
  have hheld : s.conn.permit.held = f.conn.permit.held := by rw [h.conn]; rfl
  have hstack : (s.thread t).stack = (f.thread t).stack.map (Frame.shift d) := by rw [h.thread t ht]; rfl
  unfold System.expire
  rw [hstack, hheld]
  cases (f.thread t).stack with
  | nil => exact .none
  | cons frame rest =>
    cases frame with
    | awaitingRoom src buffered limit =>
      cases f.conn.permit.held with
      | true => exact .some ((h.setStack ht rest).answer _)
      | false => exact .none
    | awaitingChain goal =>
      cases f.conn.permit.held with
      | true => exact .some ⟨h.replace ht (.collecting goal) rest, rfl⟩
      | false => exact .none
    | awaitingReply w sweep =>
      simp only [List.map_cons, Frame.shift, h.answers w]
      cases f.answers.find? w with
      | some answer => exact .none
      | none => exact .some ((h.disown w).failSweep ht sweep .timeout none)
    | _ => exact .none

/-! ### Foreign code -/

theorem resume (h : AheadOn d on s f) (ht : on t) : Option.Rel (AlikeOn d on) (s.resume t) (f.resume t) := by
  have hstack : (s.thread t).stack = (f.thread t).stack.map (Frame.shift d) := by rw [h.thread t ht]; rfl
  unfold System.resume
  rw [hstack]
  cases (f.thread t).stack with
  | nil => exact .none
  | cons frame rest =>
    cases frame with
    | inTransport w => exact .some ⟨h.setStack ht rest, rfl⟩
    | attaching err => exact .some ⟨h.replace ht (.notifying (.error err)) rest, rfl⟩
    | notifying event => exact .some ⟨h.setStack ht rest, rfl⟩
    | _ => exact .none

theorem complete (h : AheadOn d on s f) (ht : on t) (w : WriteId) (outcome : Outcome) :
    Option.Rel (AlikeOn d on) (s.complete t (w + d.writes) outcome) (f.complete t w outcome) := by
  have hs := h.endWrite w
  have hinline (m : MarkerId) : s.markers.isInline (m + d.markers) t = f.markers.isInline m t := by
    rw [Markers.isInline, h.issuing m]
    rfl
  simp only [System.complete, h.outstanding w]
  cases f.outstanding.find? w with
  | none => exact .none
  | some handed =>
    cases handed with
    | stray buf => exact .some ⟨hs, rfl⟩
    | trip buf => exact .some ⟨hs.setAnswer w (.returned outcome buf), rfl⟩
    | chain write flight =>
      have hflight : (flight.shift d).marker = flight.marker + d.markers := rfl
      simp only [Option.map_some, Handed.shift, hflight, hinline, h.conn, Connection.settle_shift]
      cases f.conn.settle flight (f.markers.isInline flight.marker t) outcome write with
      | error fault => exact .some ⟨hs.setConn f.conn, rfl⟩
      | ok settled =>
        obtain ⟨conn, verdict⟩ := settled
        have hconn := hs.setConn conn
        cases verdict with
        | stale => exact .some ⟨hconn, rfl⟩
        | finished notify =>
          cases notify with
          | true => exact .some ⟨hconn.push ht (.telling .writable), rfl⟩
          | false => exact .some ⟨hconn, rfl⟩
        | reissue write => exact .some ⟨hconn.push ht (.carrying { write, flight }), rfl⟩
        | failed err => exact .some ⟨hconn.push ht (.telling (.error err)), rfl⟩

theorem abandon (h : AheadOn d on s f) (w : WriteId) :
    Option.Rel (AlikeOn d on) (s.abandon (w + d.writes)) (f.abandon w) := by
  have hs := h.endWrite w
  simp only [System.abandon, h.outstanding w]
  cases f.outstanding.find? w with
  | none => exact .none
  | some handed =>
    cases handed with
    | stray buf => exact .some ⟨hs, rfl⟩
    | trip buf => exact .some ⟨hs.setAnswer w .dropped, rfl⟩
    | chain write flight => exact .some ⟨hs.release flight.guard, rfl⟩

end AheadOn

theorem Ahead.hasData (h : Ahead d s f) : s.hasData = f.hasData :=
  AheadOn.hasData (h.seen : AheadOn d (fun _ => True) s f)

end System

/-- The same action on a system that has counted further. -/
def Action.shift : Action → Action
  | complete t w outcome => complete t (w + d.writes) outcome
  | abandon w => abandon (w + d.writes)
  | a => a

namespace System

variable {d} {on : ThreadId → Prop} {s f : System}

/-- An action of a thread that sees the same does the same in both, or in neither. -/
theorem AheadOn.perform (h : AheadOn d on s f) {a : Action} (ha : ∀ t, a.thread = some t → on t) :
    Option.Rel (AlikeOn d on) (s.perform (a.shift d)) (f.perform a) := by
  have hout {t : ThreadId} (ht : on t) : (s.thread t).isOutside = (f.thread t).isOutside := by
    rw [h.thread t ht, Thread.isOutside_shift]
  cases a with
  | call t c =>
    simp only [Action.shift, System.perform, hout (ha t rfl)]
    cases (f.thread t).isOutside with
    | true => exact .some (h.call (ha t rfl) c)
    | false => exact .none
  | run t => exact h.run (ha t rfl)
  | expire t => exact h.expire (ha t rfl)
  | resume t => exact h.resume (ha t rfl)
  | complete t w outcome =>
    simp only [Action.shift, System.perform, hout (ha t rfl)]
    cases (f.thread t).isOutside with
    | true => exact h.complete (ha t rfl) w outcome
    | false => exact .none
  | abandon w => exact h.abandon w
  | transportPending pending => exact .some ⟨h.setTransportPending pending, rfl⟩

/-- An action does the same in both, or in neither. -/
theorem Ahead.perform (h : Ahead d s f) (a : Action) :
    Option.Rel (Alike d) (s.perform (a.shift d)) (f.perform a) := by
  have hseen : AheadOn d (fun _ => True) s f := h.seen
  have hrel := hseen.perform (a := a) fun _ _ => trivial
  generalize s.perform (a.shift d) = x at hrel ⊢
  generalize f.perform a = y at hrel ⊢
  cases hrel with
  | none => exact .none
  | some halike => exact .some ⟨halike.1.whole, halike.2⟩

end System

end Outflow
