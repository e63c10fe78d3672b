import Outflow.Proofs.Arrival
import Outflow.Proofs.Locality
import Outflow.Proofs.Offering
import Outflow.Transport.Inline

/-! Over a writer that answers at once a call ends with everything written, or with the failure that the writer met. -/
namespace Outflow

/-! ### What a writer takes -/

/-- The failure that a reception comes to. -/
def Reception.failure? : Reception → Option Error
  | .accept limit => if limit = 0 then some .endOfStream else none
  | .acceptAll => none
  | .refuse cause => some (.ofIo cause)

namespace Writer

variable {w : Writer} {bufs : List Buffer}

/-- What the writer does with the next write once it is not interrupted any more. -/
def next (w : Writer) : Reception := (w.script.dropWhile Reception.isInterruption).headD w.fallback

/-- How a write ends on a writer with `had` in its sink: the writer has taken `count` bytes of what it was offered, or
none because it failed. -/
inductive Ends (had : List UInt8) (bufs : List Buffer) (r : Reception) (outcome : Outcome) (got : List UInt8) : Prop
  | took {count : Nat} (hr : r.failure? = none) (hpos : 0 < count) (hle : count ≤ (bufs.flatMap Buffer.unsent).length)
      (houtcome : outcome = .ok count) (hgot : got = had ++ ((slices bufs).flatMap Chunk.unsent).take count)
  | failed {err : Error} (hr : r.failure? = some err) (houtcome : outcome.written = .error err) (hgot : got = had)

theorem receive_ends (w : Writer) (hbufs : 0 < remainingIn bufs) (r : Reception) :
    Ends w.sink.bytes bufs r (w.receive bufs r).1 (w.receive bufs r).2.sink.bytes := by
  have haccept (count : Nat) (hpos : 0 < count) (hle : count ≤ remainingIn bufs) (hr : r.failure? = none) :
      Ends w.sink.bytes bufs r (w.accept bufs count).1 (w.accept bufs count).2.sink.bytes := by
    rw [accept, if_neg hpos.ne']
    refine .took hr hpos (remainingIn_eq_length bufs ▸ hle) rfl ?_
    rw [unsent_slices]
    exact Record.bytes_add _ _ _
  cases r with
  | accept limit =>
    cases limit with
    | zero =>
      have hnone : min 0 (remainingIn bufs) = 0 := Nat.zero_min _
      simp only [receive, accept, hnone, if_true]
      exact .failed rfl rfl rfl
    | succ limit => exact haccept _ (by omega) (Nat.min_le_right _ _) rfl
  | acceptAll => exact haccept _ hbufs (Nat.le_refl _) rfl
  | refuse cause => exact .failed rfl rfl rfl

/-- Interruptions leave no trace. -/
theorem offer_eq (w : Writer) (bufs : List Buffer) (script : List Reception) (offers : Nat) :
    ∃ left, (w.offer bufs script offers).outcome
        = ({ w with script := left }.receive bufs ((script.dropWhile Reception.isInterruption).headD w.fallback)).1 ∧
      (w.offer bufs script offers).writer
        = ({ w with script := left }.receive bufs
            ((script.dropWhile Reception.isInterruption).headD w.fallback)).2 := by
  induction script generalizing offers with
  | nil => exact ⟨[], rfl, rfl⟩
  | cons r script ih =>
    unfold offer
    cases hr : r.isInterruption with
    | true => simpa [hr] using ih (offers + 1)
    | false =>
      refine ⟨script, ?_⟩
      simp [hr]

theorem write_ends (w : Writer) (hbufs : bufs.any Buffer.hasRemaining = true) :
    Ends w.sink.bytes bufs w.next (w.write bufs).outcome (w.write bufs).writer.sink.bytes := by
  have hpos : 0 < remainingIn bufs := by
    obtain ⟨b, hb, hr⟩ := List.any_eq_true.1 hbufs
    rw [remainingIn_eq_length, List.length_pos_iff, ne_eq, List.flatMap_eq_nil_iff]
    exact fun hnil => Buffer.hasRemaining_iff.1 hr (hnil b hb)
  obtain ⟨left, houtcome, hwriter⟩ := w.offer_eq bufs w.script 0
  rw [write, if_pos hbufs, houtcome, hwriter]
  exact receive_ends { w with script := left } hpos w.next

theorem Ends.length {had got : List UInt8} {r : Reception} {outcome : Outcome} (h : Ends had bufs r outcome got) :
    got.length = had.length + outcome.count := by
  cases h with
  | took _ _ hle houtcome hgot =>
    rw [houtcome, hgot, unsent_slices]
    simpa [Outcome.count] using hle
  | failed _ houtcome hgot => rw [Outcome.count_eq_zero houtcome, hgot, Nat.add_zero]

end Writer

namespace System

/-! ### Calls over a writer -/

/-- What can be done next over a writer: a call on an idle connection, a step of the call in progress, the answer to a
write that was handed over, by the writer and on the same thread, or the return of foreign code. It comes with what the
writer was heard to say to a write, and with what it has then. -/
inductive Inline (w : Writer) (s : System) : Action → List Reception → Record → Prop
  | add {t src} (hidle : s.Idle) : Inline w s (.call t (.add src .nonBlocking)) [] w.sink
  | flush {t} (hidle : s.Idle) : Inline w s (.call t (.flush .nonBlocking)) [] w.sink
  | run {t} : Inline w s (.run t) [] w.sink
  | offer {t v handed rest} (hst : (s.thread t).stack = .inTransport v :: rest)
      (hv : s.outstanding.find? v = some handed) :
      Inline w s (.complete t v (w.write handed.write.buffers).outcome) [w.next]
        (w.write handed.write.buffers).writer.sink
  | resume {t} (hback : ∀ v rest, (s.thread t).stack = .inTransport v :: rest → s.outstanding.find? v = none) :
      Inline w s (.resume t) [] w.sink

/-- A course of calls over a writer that has `had` when it begins. Whatever the writer said before, it may do anything
with the next write, except that it is not interrupted for ever. -/
inductive Session (start : System) (had : Record) : List Move → List Reception → System → Record → Prop
  | nil : Session start had [] [] start had
  | snoc {moves heard s sink w a said sink' s' sig} (session : Session start had moves heard s sink)
      (hsink : w.sink = sink) (hnext : w.next.isInterruption = false) (ha : Inline w s a said sink')
      (h : s.perform a = some (s', sig)) :
      Session start had (moves ++ [⟨s, a, s', sig⟩]) (heard ++ said) s' sink'

variable {config : Config} {start s s' : System} {moves : List Move} {heard said : List Reception}
  {had sink sink' : Record} {w : Writer} {a : Action} {sig : Option Signal} {t u : ThreadId} {frame : Frame}
  {rest : List Frame} {stream sent : List UInt8} {err : Option Error} {n : Nat}

theorem Session.run (session : Session start had moves heard s sink) : Run start moves s := by
  induction session with
  | nil => exact .nil
  | snoc _ _ _ _ h ih => exact ih.snoc h

/-- The bytes that the writer accepted in one step. -/
def Move.accepted (m : Move) : Nat :=
  match m.action with
  | .complete _ _ outcome => outcome.count
  | _ => 0

/-- The bytes that it accepted in all. -/
def acceptedIn (moves : List Move) : Nat := (moves.map Move.accepted).sum

/-- The next step is this one, whatever the writer does. -/
structure Forced (w : Writer) (s : System) (a : Action) (said : List Reception) (sink' : Record) : Prop where
  allowed : Inline w s a said sink'
  only : ∀ a' said' got, Inline w s a' said' got → (s.perform a').isSome = true → a' = a ∧ said' = said ∧ got = sink'

/-- Only one thread is inside. -/
def Alone (s : System) (t : ThreadId) : Prop := ∀ u, u ≠ t → s.thread u = {}

theorem Alone.eq_of_stack (h : s.Alone t) (hst : (s.thread u).stack = frame :: rest) : u = t := by
  by_contra hne
  simp [h u hne] at hst

theorem exists_stack_of_run (h : (s.perform (.run t)).isSome = true) :
    ∃ frame rest, (s.thread t).stack = frame :: rest ∧ frame.isForeign = false := by
  obtain ⟨⟨s', sig⟩, h⟩ := Option.isSome_iff_exists.1 h
  simp only [perform, run] at h
  split at h
  · cases h
  · next frame rest hst =>
    refine ⟨frame, rest, hst, ?_⟩
    cases frame <;> first | rfl | cases h

theorem exists_stack_of_resume (h : (s.perform (.resume t)).isSome = true) :
    ∃ frame rest, (s.thread t).stack = frame :: rest ∧ frame.isForeign = true := by
  obtain ⟨⟨s', sig⟩, h⟩ := Option.isSome_iff_exists.1 h
  cases step_perform h with
  | transportReturned hst | attached hst | notified hst => exact ⟨_, _, hst, rfl⟩

theorem not_idle (hst : (s.thread t).stack = frame :: rest) : ¬ s.Idle := fun hidle => by
  rw [hidle t] at hst
  cases hst

theorem forced_run (halone : s.Alone t) (hst : (s.thread t).stack = frame :: rest) (hf : frame.isForeign = false) :
    Forced w s (.run t) [] w.sink := by
  refine ⟨.run, fun a said got h hdone => ?_⟩
  cases h with
  | add hidle | flush hidle => exact absurd hidle (not_idle hst)
  | run =>
    obtain ⟨frame', rest', hst', -⟩ := exists_stack_of_run hdone
    exact ⟨congrArg _ (halone.eq_of_stack hst'), rfl, rfl⟩
  | offer hst' hv =>
    obtain rfl := halone.eq_of_stack hst'
    cases hst.symm.trans hst'
    cases hf
  | resume hback =>
    obtain ⟨frame', rest', hst', hf'⟩ := exists_stack_of_resume hdone
    obtain rfl := halone.eq_of_stack hst'
    cases hst.symm.trans hst'
    cases hf.symm.trans hf'

theorem forced_resume (halone : s.Alone t) (hst : (s.thread t).stack = frame :: rest) (hf : frame.isForeign = true)
    (hback : ∀ v, frame = .inTransport v → s.outstanding.find? v = none) : Forced w s (.resume t) [] w.sink := by
  refine ⟨.resume fun v rest' hst' => hback v (List.cons.inj (hst.symm.trans hst')).1, fun a said got h hdone => ?_⟩
  cases h with
  | add hidle | flush hidle => exact absurd hidle (not_idle hst)
  | run =>
    obtain ⟨frame', rest', hst', hf'⟩ := exists_stack_of_run hdone
    obtain rfl := halone.eq_of_stack hst'
    cases hst.symm.trans hst'
    cases hf.symm.trans hf'
  | offer hst' hv =>
    obtain rfl := halone.eq_of_stack hst'
    cases hst.symm.trans hst'
    cases (hback _ rfl).symm.trans hv
  | resume _ =>
    obtain ⟨frame', rest', hst', -⟩ := exists_stack_of_resume hdone
    exact ⟨congrArg _ (halone.eq_of_stack hst'), rfl, rfl⟩

theorem forced_offer (halone : s.Alone t) {v : WriteId} {handed : Handed}
    (hst : (s.thread t).stack = .inTransport v :: rest) (hv : s.outstanding.find? v = some handed) :
    Forced w s (.complete t v (w.write handed.write.buffers).outcome) [w.next]
      (w.write handed.write.buffers).writer.sink := by
  refine ⟨.offer hst hv, fun a said got h hdone => ?_⟩
  cases h with
  | add hidle | flush hidle => exact absurd hidle (not_idle hst)
  | run =>
    obtain ⟨frame', rest', hst', hf'⟩ := exists_stack_of_run hdone
    obtain rfl := halone.eq_of_stack hst'
    cases hst.symm.trans hst'
    cases hf'
  | offer hst' hv' =>
    obtain rfl := halone.eq_of_stack hst'
    cases hst.symm.trans hst'
    cases hv.symm.trans hv'
    exact ⟨rfl, rfl, rfl⟩
  | resume hback =>
    obtain ⟨frame', rest', hst', -⟩ := exists_stack_of_resume hdone
    obtain rfl := halone.eq_of_stack hst'
    cases hst.symm.trans hst'
    cases (hback _ _ hst).symm.trans hv

/-! ### How far a call has come -/

/-- No write is out: everything was delivered, or a failure has put an end to that. -/
inductive Rests (stream sent : List UInt8) (c : Connection) : Option Error → Prop
  | delivered (hfree : c.permit.held = false) (herr : c.error = none) (hinterest : c.interest = false)
      (hempty : c.store.contents = []) (hone : c.store.primaries = 1) (hsent : sent = stream) :
      Rests stream sent c none
  | broken {err : Error} (hfree : c.permit.held = false) (herr : c.error = some err) (hsent : sent <+: stream) :
      Rests stream sent c (some err)

/-- A chain carries all that is not delivered. -/
structure Carried (stream sent : List UInt8) (c : Connection) (write : Write) (flight : Flight) : Prop where
  current : c.permit.isCurrent flight.guard = true
  error : c.error = none
  interest : c.interest = false
  empty : c.store.contents = []
  one : c.store.primaries + write.primaries.length = 1
  sent : sent ++ write.unsent = stream

/-- A thread that is to hand over `job`, in as many steps. -/
inductive Bears (s : System) (job : Job) : Thread → Nat → Prop
  | first {m starter} : Bears s job { stack := [.carrying job, .issuing m starter] } 1
  | inside {v m starter} (hv : s.outstanding.find? v = none) : Bears s job
      { stack := [.carrying job, .inTransport v, .driving, .issuing m starter], deferral := .running [] } 3
  | waiting {v m starter} (hv : s.outstanding.find? v = none) : Bears s job
      { stack := [.inTransport v, .driving, .issuing m starter], deferral := .running [job] } 2
  | looping {m starter} : Bears s job { stack := [.driving, .issuing m starter], deferral := .running [job] } 1

/-- A thread that leaves the connection after the last write, in as many steps. -/
inductive Leaves (s : System) : Thread → Nat → Prop
  | telling {v m starter err} (hv : s.outstanding.find? v = none) : Leaves s
      { stack := [.telling (.error err), .inTransport v, .driving, .issuing m starter], deferral := .running [] } 6
  | attaching {v m starter err} (hv : s.outstanding.find? v = none) : Leaves s
      { stack := [.attaching err, .inTransport v, .driving, .issuing m starter], deferral := .running [] } 5
  | notifying {v m starter event} (hv : s.outstanding.find? v = none) : Leaves s
      { stack := [.notifying event, .inTransport v, .driving, .issuing m starter], deferral := .running [] } 4
  | inTransport {v m starter} (hv : s.outstanding.find? v = none) : Leaves s
      { stack := [.inTransport v, .driving, .issuing m starter], deferral := .running [] } 3
  | driving {m starter} : Leaves s { stack := [.driving, .issuing m starter], deferral := .running [] } 2
  | issuing {m starter} : Leaves s { stack := [.issuing m starter] } 1

/-- How far a call has come, with a bound on the steps that are left of it. -/
inductive Phase (stream sent : List UInt8) (s : System) : Option Error → Nat → Prop
  | idle {err : Option Error} (hidle : ∀ u, s.thread u = {}) (hrests : Rests stream sent s.conn err) :
      Phase stream sent s err 0
  | starting {t : ThreadId} {g : Guard} (hth : s.thread t = { stack := [.starting .add g] }) (halone : s.Alone t)
      (hcurrent : s.conn.permit.isCurrent g = true) (herr : s.conn.error = none) (hinterest : s.conn.interest = false)
      (hone : s.conn.store.primaries = 1) (hleft : s.conn.store.contents ≠ [])
      (hsent : sent ++ s.conn.store.contents = stream) :
      Phase stream sent s none (4 * s.conn.store.contents.length + 4)
  | bearing {t : ThreadId} {job : Job} {n : Nat} (hth : Bears s job (s.thread t) n) (halone : s.Alone t)
      (hcarried : Carried stream sent s.conn job.write job.flight) :
      Phase stream sent s none (4 * job.write.unsent.length + 2 + n)
  | offered {t : ThreadId} {v : WriteId} {m : MarkerId} {starter : Starter} {write : Write} {flight : Flight}
      (hth : s.thread t = { stack := [.inTransport v, .driving, .issuing m starter], deferral := .running [] })
      (hv : s.outstanding.find? v = some (.chain write flight)) (halone : s.Alone t)
      (hcarried : Carried stream sent s.conn write flight) :
      Phase stream sent s none (4 * write.unsent.length + 2)
  | leaving {t : ThreadId} {err : Option Error} {n : Nat} (hth : Leaves s (s.thread t) n) (halone : s.Alone t)
      (hrests : Rests stream sent s.conn err) : Phase stream sent s err n

theorem written_ofNat (count : Nat) : Outcome.written (.ok (count : Int)) = .ok count := by
  simp [Outcome.written]

/-- What the writer says to a write decides how its chain goes on. -/
theorem Carried.settled {c c' : Connection} {write : Write} {flight : Flight} {isInline : Bool} {outcome : Outcome}
    {v : Verdict} {r : Reception} {got : List UInt8} (hc : Carried stream sent c write flight)
    (hwf : c.store.WellFormed) (hends : Writer.Ends sent write.buffers r outcome got)
    (h : c.Settled flight isInline outcome write c' v) :
    (∃ next, v = .reissue next ∧ r.failure? = none ∧ Carried stream got c' next flight ∧
      next.unsent.length < write.unsent.length) ∨
    (v = .finished false ∧ r.failure? = none ∧ Rests stream got c' none) ∨
    ∃ err, v = .failed err ∧ r.failure? = some err ∧ Rests stream got c' (some err) := by
  have hfreed : (c.permit.release flight.guard).held = false := by simp [Permit.release, hc.current]
  have htook {count : Nat} (hw : outcome.written = .ok count) : r.failure? = none ∧ 0 < count ∧
      count ≤ write.unsent.length ∧ got = sent ++ write.unsent.take count := by
    cases hends with
    | took hr hpos hle houtcome hgot =>
      rw [houtcome, written_ofNat] at hw
      cases hw
      rw [unsent_slices] at hgot
      exact ⟨hr, hpos, hle, hgot⟩
    | failed _ houtcome _ => cases houtcome.symm.trans hw
  have hreissue {next : Write} (h : c.Settled flight isInline outcome write c' (.reissue next))
      (hrest : c' = { c with store := c'.store }) : r.failure? = none ∧ Carried stream got c' next flight ∧
        next.unsent.length < write.unsent.length := by
    obtain ⟨count, hw, -, hnext, hempty⟩ := h.unsent_reissue hwf
    obtain ⟨hr, hpos, hle, hgot⟩ := htook hw
    rw [hc.empty, List.append_nil] at hnext
    have hone := h.primaries_kept (by simp) hc.one.le
    refine ⟨hr, ⟨?_, ?_, ?_, hempty, hone.trans hc.one, ?_⟩, ?_⟩
    · rw [hrest]
      exact hc.current
    · rw [hrest]
      exact hc.error
    · rw [hrest]
      exact hc.interest
    · rw [hgot, hnext, List.append_assoc, List.take_append_drop, hc.sent]
    · rw [hnext, List.length_drop]
      omega
  cases hset : h with
  | stale hg => cases hg.symm.trans hc.current
  | failed hw hg =>
    refine .inr (.inr ⟨_, rfl, ?_⟩)
    cases hends with
    | took _ _ _ houtcome _ =>
      rw [houtcome, written_ofNat] at hw
      cases hw
    | failed hr houtcome hgot =>
      cases houtcome.symm.trans hw
      exact ⟨hr, .broken hfreed rfl (hgot ▸ ⟨_, hc.sent⟩)⟩
  | alone _ _ _ _ _ => exact .inl ⟨_, rfl, hreissue h rfl⟩
  | gathered _ _ _ => exact .inl ⟨_, rfl, hreissue h rfl⟩
  | finished hw _ _ _ =>
    obtain ⟨count, hw', -, hdone, -, hempty⟩ := h.unsent_finished hwf
    obtain ⟨hr, -, hle, hgot⟩ := htook hw'
    have hall : write.unsent.take count = write.unsent := by
      have hsplit := List.take_append_drop count write.unsent
      rwa [hdone, List.append_nil] at hsplit
    refine .inr (.inl ⟨by simp [hc.interest], hr, ?_⟩)
    refine .delivered hfreed hc.error (by simp [Connection.finish, hc.interest]) hempty ?_ ?_
    · exact (h.primaries_kept (by simp) hc.one.le).trans hc.one
    · rw [hgot, hall, hc.sent]

/-! ### One step of a call -/

theorem perform_returned {v : WriteId} (hst : (s.thread t).stack = .inTransport v :: rest) :
    s.perform (.resume t) = some (s.setStack t rest, none) := by
  simp [perform, resume, hst]

theorem perform_attached {err : Error} (hst : (s.thread t).stack = .attaching err :: rest) :
    s.perform (.resume t) = some (s.setStack t (.notifying (.error err) :: rest), some (.notify (.error err))) := by
  simp [perform, resume, hst]

theorem perform_notified {event : Event} (hst : (s.thread t).stack = .notifying event :: rest) :
    s.perform (.resume t) = some (s.setStack t rest, none) := by
  simp [perform, resume, hst]

theorem perform_told {err : Error} (hst : (s.thread t).stack = .telling (.error err) :: rest) :
    s.perform (.run t) = some (s.setStack t (.attaching err :: rest), some (.attach err)) := by
  simp [perform, run, hst, runTelling]

theorem alone_step (halone : s.Alone t) (h : s.perform a = some (s', sig)) (ha : a.thread = some t) : s'.Alone t := by
  intro u hu
  rw [thread_step (step_perform h) (by simpa [ha] using hu.symm), halone u hu]

/-- The next step is settled, and it brings the call nearer to its end. With a failure there is one more to do. -/
def Advances (stream : List UInt8) (w : Writer) (s : System) (err : Option Error) (n : Nat) : Prop :=
  ∃ a said sink s' sig err' n', Forced w s a said sink ∧ s.perform a = some (s', sig) ∧
    Phase stream sink.bytes s' err' n' ∧ n' + 1 ≤ n + (said.filterMap Reception.failure?).length ∧
    err'.toList = err.toList ++ said.filterMap Reception.failure? ∧
    (err.isSome = true → said = [] ∧ sink = w.sink)

/-- A step in which the writer has no part. -/
theorem Advances.of_quiet {n' : Nat} (hforced : Forced w s a [] w.sink) (h : s.perform a = some (s', sig))
    (hphase : Phase stream w.sink.bytes s' err n') (hlt : n' < n) : Advances stream w s err n :=
  ⟨a, [], w.sink, s', sig, err, n', hforced, h, hphase, hlt, by simp, fun _ => ⟨rfl, rfl⟩⟩

theorem Bears.advances {job : Job} (hth : Bears s job (s.thread t) n) (halone : s.Alone t)
    (hcarried : Carried stream w.sink.bytes s.conn job.write job.flight) :
    Advances stream w s none (4 * job.write.unsent.length + 2 + n) := by
  have hlaunched {m : MarkerId} {starter : Starter} {frame : Frame} {rest : List Frame}
      (hst : (s.thread t).stack = frame :: rest) (hf : frame.isForeign = false)
      (h : s.perform (.run t) = some (s.launch t [.issuing m starter] [] job, some (.handed s.nextWrite))) :
      Advances stream w s none (4 * job.write.unsent.length + 2 + 1) := by
    refine .of_quiet (forced_run halone hst hf) h
      (.offered (thread_launch_self s t _ _ _) ?_ (alone_step halone h rfl) hcarried) (by omega)
    simp [Table.find?_set]
  generalize hthread : s.thread t = th at hth
  cases hth with
  | first => exact hlaunched (by rw [hthread]) rfl (perform_carried hthread)
  | looping => exact hlaunched (by rw [hthread]) rfl (perform_driven hthread)
  | inside hv =>
    have h := perform_deferred hthread
    refine .of_quiet (forced_run halone (by rw [hthread]) rfl) h
      (.bearing (t := t) (n := 2) ?_ (alone_step halone h rfl) hcarried) (by omega)
    rw [thread_setThread, if_pos rfl]
    exact .waiting hv
  | waiting hv =>
    have h := perform_returned (congrArg Thread.stack hthread)
    refine .of_quiet (forced_resume halone (by rw [hthread]) rfl fun _ hv' => by cases hv'; exact hv) h
      (.bearing (t := t) (n := 1) ?_ (alone_step halone h rfl) hcarried) (by omega)
    rw [thread_setStack_self, hthread]
    exact .looping

theorem Leaves.advances (hth : Leaves s (s.thread t) n) (halone : s.Alone t)
    (hrests : Rests stream w.sink.bytes s.conn err) : Advances stream w s err n := by
  generalize hthread : s.thread t = th at hth
  have hst := congrArg Thread.stack hthread
  cases hth with
  | telling hv =>
    have h := perform_told hst
    refine .of_quiet (forced_run halone hst rfl) h
      (.leaving (t := t) (n := 5) ?_ (alone_step halone h rfl) hrests) (by omega)
    rw [thread_setStack_self, hthread]
    exact .attaching hv
  | attaching hv =>
    have h := perform_attached hst
    refine .of_quiet (forced_resume halone hst rfl (by simp)) h
      (.leaving (t := t) (n := 4) ?_ (alone_step halone h rfl) hrests) (by omega)
    rw [thread_setStack_self, hthread]
    exact .notifying hv
  | notifying hv =>
    have h := perform_notified hst
    refine .of_quiet (forced_resume halone hst rfl (by simp)) h
      (.leaving (t := t) (n := 3) ?_ (alone_step halone h rfl) hrests) (by omega)
    rw [thread_setStack_self, hthread]
    exact .inTransport hv
  | inTransport hv =>
    have h := perform_returned hst
    refine .of_quiet (forced_resume halone hst rfl fun _ hv' => by cases hv'; exact hv) h
      (.leaving (t := t) (n := 2) ?_ (alone_step halone h rfl) hrests) (by omega)
    rw [thread_setStack_self, hthread]
    exact .driving
  | driving =>
    have h := perform_driveDone hthread
    refine .of_quiet (forced_run halone hst rfl) h
      (.leaving (t := t) (n := 1) ?_ (alone_step halone h rfl) hrests) (by omega)
    rw [thread_setThread, if_pos rfl]
    exact .issuing
  | @issuing m starter =>
    have h : s.perform (.run t) = some (s.runIssuing t [] m starter) := by simp [perform, run, hst]
    have halone' := alone_step halone h rfl
    refine .of_quiet (forced_run halone hst rfl) h (.idle (fun u => ?_) hrests) (by omega)
    by_cases hu : u = t
    · subst hu
      simp [hthread]
    · exact halone' u hu

theorem offered_advances {capacity : Nat} {v : WriteId} {m : MarkerId} {starter : Starter} {write : Write}
    {flight : Flight}
    (hth : s.thread t = { stack := [.inTransport v, .driving, .issuing m starter], deferral := .running [] })
    (hv : s.outstanding.find? v = some (.chain write flight)) (halone : s.Alone t)
    (hcarried : Carried stream w.sink.bytes s.conn write flight) (hsound : s.Sound capacity) :
    Advances stream w s none (4 * write.unsent.length + 2) := by
  have hwf : write.WellFormed capacity := hsound.outstanding v _ hv
  have hpos := List.length_pos_iff.2 hwf.unsent_ne_nil
  have hends : Writer.Ends w.sink.bytes write.buffers w.next (w.write write.buffers).outcome
      (w.write write.buffers).writer.sink.bytes := by
    obtain ⟨b, hb⟩ := List.exists_mem_of_ne_nil _ hwf.ne_nil
    exact w.write_ends (List.any_eq_true.2 ⟨b, hb, hwf.hasRemaining b hb⟩)
  have hforced := forced_offer (w := w) halone (congrArg Thread.stack hth) hv
  obtain ⟨conn, verdict, heq, hset⟩ := Connection.settle_cases s.conn flight (s.markers.isInline flight.marker t)
    (w.write write.buffers).outcome write
  have hgone : (s.endWrite v).outstanding.find? v = none := by simp [Table.find?_erase]
  obtain ⟨next, rfl, hr, hcarried', hlt⟩ | ⟨rfl, hr, hrests⟩ | ⟨err, rfl, hr, hrests⟩ :=
    hcarried.settled hsound.store.wellFormed hends hset
  · have h : s.perform (.complete t v (w.write write.buffers).outcome)
        = some (((s.endWrite v).setConn conn).push t (.carrying { write := next, flight }), none) := by
      simp [perform, complete, hv, hth, Thread.isOutside, Frame.isForeign, heq, endWrite, setConn]
    have hthread : (((s.endWrite v).setConn conn).push t (.carrying { write := next, flight })).thread t
        = { stack := [.carrying { write := next, flight }, .inTransport v, .driving, .issuing m starter],
            deferral := .running [] } := by
      simp [hth]
    have hbears : Bears (((s.endWrite v).setConn conn).push t (.carrying { write := next, flight }))
        { write := next, flight }
        ((((s.endWrite v).setConn conn).push t (.carrying { write := next, flight })).thread t) 3 := by
      rw [hthread]
      exact .inside hgone
    refine ⟨_, _, _, _, _, none, _, hforced, h, .bearing hbears (alone_step halone h rfl) hcarried',
      by dsimp only; omega, by simp [hr], by simp⟩
  · have h : s.perform (.complete t v (w.write write.buffers).outcome)
        = some ((s.endWrite v).setConn conn, none) := by
      simp [perform, complete, hv, hth, Thread.isOutside, Frame.isForeign, heq, endWrite, setConn]
    refine ⟨_, _, _, _, _, none, _, hforced, h, .leaving (t := t) (n := 3) ?_ (alone_step halone h rfl) hrests,
      by omega, by simp [hr], by simp⟩
    have hthread : ((s.endWrite v).setConn conn).thread t = s.thread t := rfl
    rw [hthread, hth]
    exact .inTransport hgone
  · have h : s.perform (.complete t v (w.write write.buffers).outcome)
        = some (((s.endWrite v).setConn conn).push t (.telling (.error err)), none) := by
      simp [perform, complete, hv, hth, Thread.isOutside, Frame.isForeign, heq, endWrite, setConn]
    refine ⟨_, _, _, _, _, some err, _, hforced, h, .leaving (t := t) (n := 6) ?_ (alone_step halone h rfl) hrests,
      by simp [hr]; omega, by simp [hr], by simp⟩
    have hthread : ((s.endWrite v).setConn conn).thread t = s.thread t := rfl
    rw [thread_push_self, hthread, hth]
    exact .telling hgone

theorem starting_advances {g : Guard} (hwf : s.conn.store.WellFormed)
    (hth : s.thread t = { stack := [.starting .add g] }) (halone : s.Alone t)
    (hcurrent : s.conn.permit.isCurrent g = true) (herr : s.conn.error = none) (hinterest : s.conn.interest = false)
    (hone : s.conn.store.primaries = 1) (hleft : s.conn.store.contents ≠ [])
    (hsent : w.sink.bytes ++ s.conn.store.contents = stream) :
    Advances stream w s none (4 * s.conn.store.contents.length + 4) := by
  have hst := congrArg Thread.stack hth
  obtain ⟨hnil, -⟩ | ⟨store, write, htake, hempty, -, -, -, hunsent, -⟩ := Connection.takeWrite_cases hwf
  · exact absurd hnil hleft
  have h : s.perform (.run t) = some ((s.setStack t []).begin t .add g store write, none) := by
    simp [perform, run, hst, startChain, htake, begin]
  have hcarried : Carried stream w.sink.bytes { s.conn with store } write ⟨g, s.markers.next⟩ :=
    ⟨hcurrent, herr, hinterest, hempty, (Connection.primaries_takeWrite htake).trans hone, hunsent ▸ hsent⟩
  have hbears : Bears ((s.setStack t []).begin t .add g store write) ⟨write, ⟨g, s.markers.next⟩⟩
      (((s.setStack t []).begin t .add g store write).thread t) 1 := by
    have hthread : ((s.setStack t []).begin t .add g store write).thread t
        = { stack := [.carrying ⟨write, ⟨g, s.markers.next⟩⟩, .issuing s.markers.next .add] } := by
      simp [begin, Markers.fresh, hth]
    rw [hthread]
    exact .first
  refine .of_quiet (forced_run halone hst rfl) h (.bearing hbears (alone_step halone h rfl) hcarried) ?_
  dsimp only
  rw [hunsent]
  omega

theorem Phase.advances {capacity : Nat} (h : Phase stream w.sink.bytes s err n) (hpos : 0 < n)
    (hsound : s.Sound capacity) : Advances stream w s err n := by
  cases h with
  | idle _ _ => exact absurd hpos (Nat.lt_irrefl 0)
  | starting hth halone hcurrent herr hinterest hone hleft hsent =>
    exact starting_advances hsound.store.wellFormed hth halone hcurrent herr hinterest hone hleft hsent
  | bearing hth halone hcarried => exact hth.advances halone hcarried
  | offered hth hv halone hcarried => exact offered_advances hth hv halone hcarried hsound
  | leaving hth halone hrests => exact hth.advances halone hrests

theorem Bears.stack_ne_nil {job : Job} {th : Thread} (h : Bears s job th n) : th.stack ≠ [] := by
  cases h <;> simp

theorem Leaves.stack_ne_nil {th : Thread} (h : Leaves s th n) : th.stack ≠ [] := by
  cases h <;> simp

theorem Leaves.pos {th : Thread} (h : Leaves s th n) : 0 < n := by
  cases h <;> omega

theorem Phase.idle_iff (h : Phase stream sent s err n) : s.Idle ↔ n = 0 := by
  cases h with
  | idle hidle _ => exact ⟨fun _ => rfl, fun _ u => by rw [hidle u]⟩
  | starting hth _ _ _ _ _ _ _ | offered hth _ _ _ =>
    exact ⟨fun hidle => absurd hidle (not_idle (congrArg Thread.stack hth)), fun hzero => by omega⟩
  | bearing hth _ _ => exact ⟨fun hidle => absurd (hidle _) hth.stack_ne_nil, fun hzero => by omega⟩
  | leaving hth _ _ => exact ⟨fun hidle => absurd (hidle _) hth.stack_ne_nil, fun hzero => absurd hth.pos (by omega)⟩

/-- Nothing is left of the last call. -/
theorem Phase.of_idle (h : Phase stream sent s err n) (hidle : s.Idle) :
    (∀ u, s.thread u = {}) ∧ Rests stream sent s.conn err := by
  cases h with
  | idle hthreads hrests => exact ⟨hthreads, hrests⟩
  | starting hth _ _ _ _ _ _ _ | offered hth _ _ _ => exact absurd hidle (not_idle (congrArg Thread.stack hth))
  | bearing hth _ _ | leaving hth _ _ => exact absurd (hidle _) hth.stack_ne_nil

theorem Phase.error_eq {failure : Error} (h : Phase stream sent s (some failure) n) :
    s.conn.error = some failure := by
  cases h with
  | idle _ hrests | leaving _ _ hrests =>
    cases hrests with
    | broken _ herr _ => exact herr

/-! ### A call on an idle connection -/

/-- More to deliver makes no difference once deliveries have ended. -/
theorem Rests.extend {c : Connection} {more : List UInt8} (h : Rests stream sent c err)
    (hmore : err = none → more = []) : Rests (stream ++ more) sent c err := by
  cases h with
  | delivered hfree herr hinterest hempty hone hsent =>
    rw [hmore rfl, List.append_nil]
    exact .delivered hfree herr hinterest hempty hone hsent
  | broken hfree herr hsent => exact .broken hfree herr (hsent.trans (List.prefix_append _ _))

theorem Rests.free {c : Connection} (h : Rests stream sent c err) : c.permit.held = false := by
  cases h <;> assumption

theorem Rests.error_eq {c : Connection} (h : Rests stream sent c err) : c.error = err := by
  cases h <;> assumption

theorem isCurrent_grant (p : Permit) : p.grant.isCurrent p.nextGuard = true := by
  simp [Permit.grant, Permit.isCurrent, Permit.nextGuard]

theorem Phase.of_add {src : Chunk} (hwf : s.conn.store.WellFormed) (hidle : ∀ u, s.thread u = {})
    (hrests : Rests stream sent s.conn none) (hsrc : src.hasRemaining = true)
    (h : s.perform a = some (((s.setPermit s.conn.permit.grant).takeOver src).push t
      (.starting .add s.conn.permit.nextGuard), sig)) (ha : a.thread = some t) :
    Phase (stream ++ src.unsent) sent (((s.setPermit s.conn.permit.grant).takeOver src).push t
      (.starting .add s.conn.permit.nextGuard)) none (4 * src.unsent.length + 4) := by
  obtain ⟨-, herr, hinterest, hempty, hone, rfl⟩ := hrests
  have hcontents : (s.conn.store.ensurePrimary.append src).contents = src.unsent := by
    rw [Store.contents_append (Store.wellFormed_ensurePrimary hwf), Store.contents_ensurePrimary, hempty,
      List.nil_append]
  have halone := alone_step (fun u _ => hidle u) h ha
  have hphase : Phase (sent ++ src.unsent) sent (((s.setPermit s.conn.permit.grant).takeOver src).push t
      (.starting .add s.conn.permit.nextGuard)) none _ :=
    .starting (by simp [hidle]) halone (isCurrent_grant _) herr hinterest (by simp)
      (fun hnil => Chunk.hasRemaining_iff_unsent.1 hsrc (hcontents.symm.trans hnil)) (congrArg (sent ++ ·) hcontents)
  have hlength : (((s.setPermit s.conn.permit.grant).takeOver src).push t
      (.starting .add s.conn.permit.nextGuard)).conn.store.contents.length = src.unsent.length :=
    congrArg List.length hcontents
  rwa [hlength] at hphase

theorem Phase.call {c : Call} (hwf : s.conn.store.WellFormed) (hidle : ∀ u, s.thread u = {})
    (hrests : Rests stream sent s.conn err)
    (hc : (∃ src, c = .add src .nonBlocking) ∨ c = .flush .nonBlocking)
    (h : s.perform (.call t c) = some (s', sig)) :
    ∃ n, Phase (stream ++ c.data) sent s' err n ∧ n ≤ 4 * c.data.length + 4 := by
  have hfree := hrests.free
  have hstays (hmore : err = none → c.data = []) :
      ∃ n, Phase (stream ++ c.data) sent s err n ∧ n ≤ 4 * c.data.length + 4 :=
    ⟨0, .idle hidle (hrests.extend hmore), Nat.zero_le _⟩
  obtain ⟨src, rfl⟩ | rfl := hc
  · cases step_perform h with
    | addNothing _ hsrc => exact hstays fun _ => Chunk.hasRemaining_eq_false_iff.1 hsrc
    | addRefused _ _ herr =>
      refine hstays fun hnone => ?_
      cases (herr.symm.trans hrests.error_eq).trans hnone
    | addGranted _ hsrc herr _ =>
      obtain rfl : none = err := herr.symm.trans hrests.error_eq
      exact ⟨_, .of_add hwf hidle hrests hsrc h rfl, Nat.le_refl _⟩
    | addQueued _ _ _ hheld _ | addFull _ _ _ hheld _ => cases hheld.symm.trans hfree
  · cases step_perform h with
    | flushRefused _ _ => exact hstays fun _ => rfl
    | flushHeld _ _ hheld => cases hheld.symm.trans hfree
    | flushNothing _ herr _ _ =>
      obtain rfl : none = err := herr.symm.trans hrests.error_eq
      obtain ⟨-, -, hinterest, hempty, hone, rfl⟩ := hrests
      have hfreed : (s.conn.permit.grant.release s.conn.permit.nextGuard).held = false := by
        simp [Permit.release, isCurrent_grant]
      exact ⟨0, .idle hidle (.delivered hfreed herr hinterest hempty hone (List.append_nil _).symm), Nat.zero_le _⟩
    | flushBegun _ herr _ htake =>
      obtain rfl : none = err := herr.symm.trans hrests.error_eq
      obtain ⟨-, -, -, hempty, -, -⟩ := hrests
      obtain ⟨-, hnone⟩ | ⟨_, _, -, -, -, -, -, hunsent, hw⟩ := Connection.takeWrite_cases hwf
      · cases htake.symm.trans hnone
      · exact absurd (hunsent.trans hempty) hw.unsent_ne_nil

/-! ### Whole sessions -/

theorem transportPending_step (h : Step s a s' sig) (ha : ∀ pending, a ≠ .transportPending pending) :
    s'.transportPending = s.transportPending := by
  cases h <;> first | rfl | exact absurd rfl (ha _)

theorem acceptedIn_snoc (moves : List Move) (m : Move) : acceptedIn (moves ++ [m]) = acceptedIn moves + m.accepted := by
  simp [acceptedIn]

/-- What a writer has grows by what it says that it accepted. -/
theorem Inline.length (h : Inline w s a said sink') :
    sink'.bytes.length = w.sink.bytes.length + Move.accepted ⟨s, a, s', sig⟩ := by
  cases h with
  | add _ | flush _ | run | resume _ => rfl
  | @offer _ _ handed _ _ _ =>
    cases hbufs : handed.write.buffers.any Buffer.hasRemaining with
    | true => exact (w.write_ends hbufs).length
    | false => simp [Writer.write, hbufs, Move.accepted, Outcome.count]

/-- On an idle connection nothing can be done but to call. -/
theorem Inline.isCall (h : Inline w s a said sink') (hidle : s.Idle) (hdone : (s.perform a).isSome = true) :
    ∃ t c, a = .call t c ∧ ((∃ src, c = .add src .nonBlocking) ∨ c = .flush .nonBlocking) ∧ said = [] ∧
      sink' = w.sink := by
  cases h with
  | add _ => exact ⟨_, _, rfl, .inl ⟨_, rfl⟩, rfl, rfl⟩
  | flush _ => exact ⟨_, _, rfl, .inr rfl, rfl, rfl⟩
  | run =>
    obtain ⟨_, _, hst, -⟩ := exists_stack_of_run hdone
    exact absurd hidle (not_idle hst)
  | offer hst _ => exact absurd hidle (not_idle hst)
  | resume _ =>
    obtain ⟨_, _, hst, -⟩ := exists_stack_of_resume hdone
    exact absurd hidle (not_idle hst)

theorem Inline.not_isCall (h : Inline w s a said sink') (hbusy : ¬ s.Idle) : ∀ t c, a ≠ .call t c := by
  rintro t c rfl
  cases h <;> exact hbusy ‹_›

theorem Phase.step {capacity : Nat} (hphase : Phase stream w.sink.bytes s err n) (hsound : s.Sound capacity)
    (ha : Inline w s a said sink') (h : s.perform a = some (s', sig)) : ∃ err' n',
      Phase (stream ++ Move.given ⟨s, a, s', sig⟩) sink'.bytes s' err' n' ∧
      n' + 1 ≤ n + 5 * (Move.isCall ⟨s, a, s', sig⟩).toNat + 4 * (Move.given ⟨s, a, s', sig⟩).length
        + (said.filterMap Reception.failure?).length ∧
      err'.toList = err.toList ++ said.filterMap Reception.failure? ∧
      (err.isSome = true → said = [] ∧ sink' = w.sink) := by
  by_cases hidle : s.Idle
  · obtain ⟨t, c, rfl, hc, rfl, rfl⟩ := ha.isCall hidle (Option.isSome_of_eq_some h)
    obtain ⟨hthreads, hrests⟩ := hphase.of_idle hidle
    obtain ⟨n', hphase', hle⟩ := Phase.call hsound.store.wellFormed hthreads hrests hc h
    refine ⟨err, n', hphase', ?_, by simp, fun _ => ⟨rfl, rfl⟩⟩
    simp only [Move.isCall, Move.given, Bool.toNat_true]
    omega
  · have hpos : 0 < n := Nat.pos_of_ne_zero fun hzero => hidle (hphase.idle_iff.2 hzero)
    obtain ⟨a₁, said₁, sink₁, s₁, sig₁, err', n', hforced, h₁, hphase', hlt, herr, hquiet⟩ :=
      hphase.advances hpos hsound
    obtain ⟨rfl, rfl, rfl⟩ := hforced.only a said sink' ha (Option.isSome_of_eq_some h)
    cases h.symm.trans h₁
    have hnot := ha.not_isCall hidle
    have hgiven : Move.given ⟨s, a, s', sig⟩ = [] := by
      cases ha <;> first | rfl | exact absurd rfl (hnot _ _)
    refine ⟨err', n', ?_, by omega, herr, hquiet⟩
    rwa [hgiven, List.append_nil]

theorem Session.phase (session : Session (fresh config) {} moves heard s sink) : ∃ err n,
    Phase (given moves) sink.bytes s err n ∧ heard.filterMap Reception.failure? = err.toList ∧
    moves.length + n ≤ 5 * moves.countP Move.isCall + 4 * (given moves).length
      + (heard.filterMap Reception.failure?).length ∧
    sink.bytes.length = acceptedIn moves ∧ s.transportPending = false := by
  induction session with
  | nil =>
    refine ⟨none, 0, .idle (fun u => rfl) (.delivered rfl rfl rfl ?_ rfl rfl), rfl, Nat.zero_le _, rfl, rfl⟩
    simp [fresh, Connection.fresh, Store.contents, Store.empty, Store.overflow]
  | @snoc moves heard s sink w a said sink' s' sig session hsink hnext ha h ih =>
    subst hsink
    obtain ⟨err, n, hphase, hheard, hle, hlength, hpending⟩ := ih
    obtain ⟨err', n', hphase', hle', herr, -⟩ := hphase.step (sound_run session.run) ha h
    refine ⟨err', n', ?_, ?_, ?_, ?_, ?_⟩
    · rwa [given_snoc]
    · rw [List.filterMap_append, hheard, herr]
    · rw [countP_snoc, given_snoc, List.filterMap_append]
      simp only [List.length_append, List.length_singleton]
      omega
    · rw [acceptedIn_snoc, ← hlength]
      exact ha.length
    · rw [transportPending_step (step_perform h) (by cases ha <;> simp), hpending]

/-- After a failure the writer is not asked again. -/
theorem Session.after_failure {later : List Move} {failure : Error} (run : Run (fresh config) moves s)
    (hphase : Phase stream sink.bytes s (some failure) n) (session : Session s sink later said s' sink') :
    said = [] ∧ sink' = sink ∧ s'.conn.error = some failure := by
  have hphase' : said = [] ∧ sink' = sink ∧ ∃ stream n, Phase stream sink.bytes s' (some failure) n := by
    induction session with
    | nil => exact ⟨rfl, rfl, _, _, hphase⟩
    | @snoc later heard s₁ sink₁ w a said sink₂ s₂ sig session hsink hnext ha h ih =>
      obtain ⟨rfl, rfl, stream, n, hphase₁⟩ := ih
      subst hsink
      obtain ⟨err, n', hphase₂, -, herr, hquiet⟩ := hphase₁.step (sound_run (run.append session.run)) ha h
      obtain ⟨rfl, rfl⟩ := hquiet rfl
      obtain rfl : err = some failure := by simpa using herr
      exact ⟨rfl, rfl, _, _, hphase₂⟩
  obtain ⟨hsaid, hsink, stream, n, hphase'⟩ := hphase'
  exact ⟨hsaid, hsink, hphase'.error_eq⟩

theorem hasData_eq_false (hwf : s.conn.store.WellFormed) (hempty : s.conn.store.contents = [])
    (hone : s.conn.store.primaries = 1) (herr : s.conn.error = none) (hpending : s.transportPending = false) :
    s.hasData = false := by
  have hfollow := (Store.hasFollowUp_eq_false_iff hwf).2 hempty
  rw [Store.hasFollowUp, Bool.or_eq_false_iff] at hfollow
  cases hp : s.conn.store.primary with
  | none => simp [Store.primaries, hp] at hone
  | some p =>
    simp only [hp, Option.any_some] at hfollow
    simp [hasData, Connection.hasData, Store.primaryPending, hp, hfollow, herr, hpending]

/-- Over a writer that answers at once each call comes to its end, whatever the writer does with each offer. Then the
permit is free. If no offer failed the writer has all that was added, and nothing is left to do. Otherwise it has as
many bytes as it accepted, from the beginning on, the failure is stored as it was met, and later calls do not get to the
writer any more. -/
theorem inline_delivers (session : Session (fresh config) {} moves heard s sink) :
    moves.length ≤ 5 * moves.countP Move.isCall + 4 * (given moves).length
      + (heard.filterMap Reception.failure?).length ∧
    (¬ s.Idle → ∀ w : Writer, w.sink = sink →
      ∃ a said sink', Inline w s a said sink' ∧ (s.perform a).isSome = true) ∧
    (s.Idle → s.conn.permit.held = false ∧
      ((heard.filterMap Reception.failure? = [] ∧ sink.bytes = given moves ∧ s.hasData = false ∧
          s.conn.store.bufferedBytes = 0 ∧ s.conn.store.chunks = 0 ∧ s.conn.error = none) ∨
        ∃ failure, heard.filterMap Reception.failure? = [failure] ∧ s.conn.error = some failure ∧
          sink.bytes = (given moves).take (acceptedIn moves) ∧
          ∀ later said s' sink', Session s sink later said s' sink' →
            said = [] ∧ sink' = sink ∧ s'.conn.error = some failure)) := by
  have hsound := sound_run session.run
  obtain ⟨err, n, hphase, hheard, hle, hlength, hpending⟩ := session.phase
  refine ⟨by omega, fun hbusy w hw => ?_, fun hidle => ?_⟩
  · subst hw
    have hpos : 0 < n := Nat.pos_of_ne_zero fun hzero => hbusy (hphase.idle_iff.2 hzero)
    obtain ⟨a, said, sink', s', sig, -, -, hforced, h, -⟩ := hphase.advances hpos hsound
    exact ⟨a, said, sink', hforced.allowed, Option.isSome_of_eq_some h⟩
  · have hrests := (hphase.of_idle hidle).2
    refine ⟨hrests.free, ?_⟩
    cases hrests with
    | delivered _ herr _ hempty hone hsent =>
      have hwf := hsound.store.wellFormed
      have hchunks : s.conn.store.chunks = 0 := by
        rw [Store.contents_eq, List.append_eq_nil_iff, Store.queued_eq_nil_iff hwf] at hempty
        rw [Store.chunks_eq, hempty.2, List.length_nil]
      exact .inl ⟨hheard, hsent, hasData_eq_false hwf hempty hone herr hpending,
        (Store.contents_eq_nil_iff hwf).1 hempty, hchunks, herr⟩
    | @broken failure _ herr hsent =>
      refine .inr ⟨failure, hheard, herr, ?_, fun later said s' sink' later' =>
        later'.after_failure session.run hphase⟩
      rw [← hlength]
      exact List.prefix_iff_eq_take.1 hsent

/-- The next step on thread `t` over the writer `w`: an add if there is one, else a step of the call in progress. -/
def pace (w : Writer) (s : System) (t : ThreadId) : Option Chunk → Action × List Reception × Writer
  | some src => (.call t (.add src .nonBlocking), [], w)
  | none =>
    match (s.thread t).stack with
    | .inTransport v :: _ =>
      match s.outstanding.find? v with
      | some handed =>
        (.complete t v (w.write handed.write.buffers).outcome, [w.next], (w.write handed.write.buffers).writer)
      | none => (.resume t, [], w)
    | .attaching _ :: _ | .notifying _ :: _ => (.resume t, [], w)
    | _ => (.run t, [], w)

/-- Goes on for as many steps, if each can be done. -/
def serve (t : ThreadId) : Writer → System → List (Option Chunk) → Option (List Reception × System × Writer)
  | w, s, [] => some ([], s, w)
  | w, s, src :: srcs =>
    if (src.isNone || s.threads.entries.isEmpty) && !w.next.isInterruption then do
      let (s', _) ← s.perform (pace w s t src).1
      let (heard, last) ← serve t (pace w s t src).2.2 s' srcs
      return ((pace w s t src).2.1 ++ heard, last)
    else none

theorem idle_of_isEmpty (h : s.threads.entries.isEmpty = true) : s.Idle := by
  intro t
  simp [thread, Table.find?, List.isEmpty_iff.1 h]

theorem inline_pace {src : Option Chunk} (h : (src.isNone || s.threads.entries.isEmpty) = true) :
    Inline w s (pace w s t src).1 (pace w s t src).2.1 (pace w s t src).2.2.sink := by
  cases src with
  | some src => exact .add (idle_of_isEmpty h)
  | none =>
    simp only [pace]
    split
    · next v rest hst =>
      split
      · next handed hv => exact .offer hst hv
      · next hv =>
        refine .resume fun v' rest' hst' => ?_
        cases hst.symm.trans hst'
        exact hv
    · next hst => exact .resume fun _ _ hst' => by cases hst.symm.trans hst'
    · next hst => exact .resume fun _ _ hst' => by cases hst.symm.trans hst'
    · exact .run

theorem Session.of_serve {srcs : List (Option Chunk)} {last : Writer}
    (session : Session start had moves heard s w.sink) (h : serve t w s srcs = some (said, s', last)) :
    ∃ later, Session start had (moves ++ later) (heard ++ said) s' last.sink := by
  induction srcs generalizing moves heard s w said with
  | nil =>
    cases h
    exact ⟨[], by simpa using session⟩
  | cons src srcs ih =>
    unfold serve at h
    split at h
    · next hguard =>
      rw [Bool.and_eq_true, Bool.not_eq_true'] at hguard
      simp only [Option.bind_eq_bind, Option.bind_eq_some_iff, Prod.exists, Option.pure_def, Option.some.injEq,
        Prod.mk.injEq] at h
      obtain ⟨s₁, sig, hperform, rest, s₂, w₂, hserve, rfl, rfl, rfl⟩ := h
      obtain ⟨later, hlater⟩ := ih (session.snoc rfl hguard.2 (inline_pace hguard.1) hperform) hserve
      exact ⟨_, by simpa using hlater⟩
    · cases h

/-- Of three bytes the writer takes one, after an interruption, and then the others, from two buffers. Then it is
closed, so that the byte of a second add is lost. -/
theorem inline_delivers_closed : ∃ moves heard s sink, Session (fresh { bufferSize := 2 }) {} moves heard s sink ∧
    s.Idle ∧ s.conn.permit.held = false ∧ sink.bytes = [97, 98, 99] ∧ s.conn.error.isSome = true ∧
    sink.bytes = (given moves).take (acceptedIn moves) ∧
    ∀ later said s' sink', Session s sink later said s' sink' → sink'.bytes = [97, 98, 99] := by
  let w : Writer := { script := [.refuse (.simple .interrupted), .accept 1, .acceptAll], fallback := .accept 0 }
  let steps : List (Option Chunk) := some { bytes := ⟨#[97, 98, 99]⟩ } :: List.replicate 10 none
    ++ some { bytes := ⟨#[100]⟩ } :: List.replicate 9 none
  obtain ⟨⟨heard, s, last⟩, hserve, hlast⟩ := (Option.any_eq_true
    (fun r : List Reception × System × Writer => r.2.1.threads.entries.isEmpty &&
      decide (r.2.2.sink.bytes = [97, 98, 99]) && r.2.1.conn.error.isSome)
    (serve 0 w (fresh { bufferSize := 2 }) steps)).1 (by decide +kernel)
  simp only [Bool.and_eq_true, decide_eq_true_eq] at hlast
  obtain ⟨⟨hempty, hbytes⟩, herr⟩ := hlast
  obtain ⟨moves, session⟩ := Session.of_serve (w := w) .nil hserve
  have hidle := idle_of_isEmpty hempty
  obtain ⟨-, -, hends⟩ := inline_delivers session
  obtain ⟨hfree, ⟨-, -, -, -, -, hnone⟩ | ⟨failure, -, -, htake, hlater⟩⟩ := hends hidle
  · simp [hnone] at herr
  · refine ⟨_, _, s, last.sink, session, hidle, hfree, hbytes, herr, htake, fun later said s' sink' later' => ?_⟩
    rw [(hlater later said s' sink' later').2.1, hbytes]

end System

end Outflow
