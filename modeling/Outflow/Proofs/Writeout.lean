import Outflow.Proofs.Conservation
import Outflow.Proofs.Locality
import Outflow.Proofs.Sweep

/-! What a blocking flush writes out, round trip by round trip, and how it ends. -/
namespace Outflow

/-- The round trip that a thread waits for, also while the transport still runs on the thread. -/
def Thread.awaited? (th : Thread) : Option WriteId :=
  match th.stack with
  | .awaitingReply w _ :: _ | .inTransport _ :: .awaitingReply w _ :: _ => some w
  | _ => none

/-- How a round trip ends for the call that waits for it. -/
inductive TripEnd
  | returned (outcome : Outcome)
  | dropped
  | expired

namespace TripEnd

/-- What the call makes of it. -/
def written : TripEnd → Except Error Nat
  | returned outcome => outcome.written
  | dropped => .error (.ofCause "transport dropped a blocking write without completing it")
  | expired => .error .timeout

def succeeds (e : TripEnd) : Bool := e.written.isOk

/-- Whether the call has its buffer back. -/
def givesBack : TripEnd → Bool
  | returned _ => true
  | dropped | expired => false

theorem succeeds_of_written {e : TripEnd} {count : Nat} (h : e.written = .ok count) : e.succeeds = true := by
  simp [succeeds, h, Except.isOk, Except.toBool]

end TripEnd

/-- What a blocking flush has to write, in this order: the queued chunks, and the primary buffer if it is loaded. -/
def Store.parts (s : Store) : List (List UInt8) :=
  s.overflow.map Chunk.unsent ++ if s.front = [] then [] else [s.front]

namespace Sweep

def parts (sweep : Sweep) : List (List UInt8) :=
  sweep.chunks.map Chunk.unsent ++ sweep.primary.toList.map Primary.unsent

theorem parts_sweep (s : Store) (goal : Goal) : (s.sweep goal).parts = s.parts := by
  have hf : s.takeOverflow.1.front = s.front := rfl
  obtain ⟨p, hp, hr, heq⟩ | ⟨hnil, heq⟩ := s.takeOverflow.1.takePrimaryIfPending_cases
  · have hfront : s.front = p.unsent := by
      rw [← hf]
      simp [Store.front, hp]
    simp [parts, Store.parts, Store.sweep, heq, hfront, Primary.hasRemaining_iff.1 hr]
  · simp [parts, Store.parts, Store.sweep, heq, ← hf, hnil]

theorem flatten_parts (sweep : Sweep) : sweep.parts.flatten = sweep.unsent := by
  cases hp : sweep.primary <;> simp [parts, unsent, hp, List.flatMap_def]

end Sweep

section Amid

variable {parts later : List (List UInt8)} {part confirmed left : List UInt8}

/-- All parts before `later` are confirmed. -/
def Between (parts : List (List UInt8)) (confirmed : List UInt8) (later : List (List UInt8)) : Prop :=
  ∃ done, parts = done ++ later ∧ confirmed = done.flatten

/-- All parts before one of them are confirmed, and of that one all but `left`. The parts after it are `later`. -/
def Amid (parts : List (List UInt8)) (confirmed left : List UInt8) (later : List (List UInt8)) : Prop :=
  ∃ done part, parts = done ++ (part ++ left) :: later ∧ confirmed = done.flatten ++ part

theorem Between.amid (h : Between parts confirmed (part :: later)) : Amid parts confirmed part later := by
  obtain ⟨done, hparts, hconfirmed⟩ := h
  exact ⟨done, [], hparts, hconfirmed.trans (List.append_nil _).symm⟩

theorem Between.flatten_eq (h : Between parts confirmed []) : confirmed = parts.flatten := by
  obtain ⟨done, rfl, rfl⟩ := h
  rw [List.append_nil]

theorem Amid.advance (h : Amid parts confirmed left later) (count : Nat) :
    Amid parts (confirmed ++ left.take count) (left.drop count) later := by
  obtain ⟨done, part, hparts, rfl⟩ := h
  exact ⟨done, part ++ left.take count, by simp [hparts], by simp⟩

theorem Amid.between (h : Amid parts confirmed [] later) : Between parts confirmed later := by
  obtain ⟨done, part, hparts, rfl⟩ := h
  exact ⟨done ++ [part], by simp [hparts], by simp⟩

end Amid

namespace System

variable {config : Config} {s s' : System} {moves : List Move} {a : Action} {sig : Option Signal} {t : ThreadId}
  {rest : List Frame} {parts : List (List UInt8)} {log : List TripEnd} {acked : List UInt8}

/-! ### What happens to the round trips of one thread -/

/-- The move ends the round trip that thread `t` waits for. -/
def Move.tripEnd? (t : ThreadId) (m : Move) : Option TripEnd :=
  match m.action with
  | .complete _ w outcome => if (m.before.thread t).awaited? = some w then some (.returned outcome) else none
  | .abandon w => if (m.before.thread t).awaited? = some w then some .dropped else none
  | .expire u => if u = t ∧ (m.before.thread t).awaited?.isSome then some .expired else none
  | _ => none

def tripEnds (t : ThreadId) (moves : List Move) : List TripEnd := moves.filterMap (Move.tripEnd? t)

/-- What the transport confirms of that round trip. -/
def Move.confirmedTo (t : ThreadId) (m : Move) : List UInt8 := if (m.tripEnd? t).isSome then m.confirmed else []

def confirmedTo (t : ThreadId) (moves : List Move) : List UInt8 := moves.flatMap (Move.confirmedTo t)

/-- No call is made, and none goes on but the one on thread `t`. -/
def Move.LeavesTo (t : ThreadId) (m : Move) : Prop :=
  match m.action with
  | .call _ _ => False
  | .run u | .expire u => u = t ∨ ∀ f ∈ (m.before.thread u).stack.head?, f.isCall = false
  | _ => True

instance (t : ThreadId) : DecidablePred (Move.LeavesTo t)
  | ⟨_, .call _ _, _, _⟩ => inferInstanceAs (Decidable False)
  | ⟨_, .run _, _, _⟩ | ⟨_, .expire _, _, _⟩ => inferInstanceAs (Decidable (_ ∨ ∀ f ∈ _, _ = _))
  | ⟨_, .resume _, _, _⟩ | ⟨_, .complete _ _ _, _, _⟩ | ⟨_, .abandon _, _, _⟩ | ⟨_, .transportPending _, _, _⟩ =>
    inferInstanceAs (Decidable True)

/-- What is done while only the call on thread `t` goes on and the permit is free. -/
structure Aside (s : System) (t : ThreadId) (a : Action) (s' : System) (sig : Option Signal) : Prop where
  conn : s'.conn = s.conn
  thread : s'.thread t = s.thread t
  outstanding : ∀ w < s.nextWrite, a.ends w = false → s'.outstanding.find? w = s.outstanding.find? w
  answers : ∀ w, a.ends w = false → s'.answers.find? w = s.answers.find? w
  silent : a.thread = some t → sig = none

/-- A call that is inside the connection on another thread does not go on. -/
theorem Move.LeavesTo.not_isCall {u : ThreadId} {frame : Frame} {below : List Frame}
    (hleaves : Move.LeavesTo t ⟨s, a, s', sig⟩) (ha : a = .run u ∨ a = .expire u) (hu : u ≠ t)
    (hst : (s.thread u).stack = frame :: below) : frame.isCall = false := by
  obtain rfl | rfl := ha
  all_goals
    obtain heq | hidle := hleaves
    · exact absurd heq hu
    · exact hidle frame (by simp [hst])

/-- Without the permit no chain has a say. -/
theorem not_settled {flight : Flight} {isInline : Bool} {outcome : Outcome} {write : Write} {conn : Connection}
    {verdict : Verdict} (hfree : s.conn.permit.held = false)
    (h : s.conn.Settled flight isInline outcome write conn verdict) : verdict = .stale := by
  by_contra hne
  have hcurrent := h.isCurrent hne
  simp [Permit.isCurrent, hfree] at hcurrent

theorem find?_endWrite_of_ne {v w : WriteId} (h : v ≠ w) :
    (s.endWrite w).outstanding.find? v = s.outstanding.find? v := by
  simp [Table.find?_erase, h]

theorem aside_step (hfree : s.conn.permit.held = false) (h : Step s a s' sig)
    (hleaves : Move.LeavesTo t ⟨s, a, s', sig⟩) (hrun : a ≠ .run t) (hexpire : a ≠ .expire t)
    (hresume : a ≠ .resume t) : s.Aside t a s' sig := by
  have hstep := h
  cases h with
  | addNothing _ _ | addRefused _ _ _ | addBlocking _ _ _ | addGranted _ _ _ _ | addQueued _ _ _ _ _
  | addFull _ _ _ _ _ | flushRefused _ _ | flushAwaits _ _ _ | flushCollects _ _ _ | flushHeld _ _ _
  | flushNothing _ _ _ _ | flushBegun _ _ _ _ | registered _ _ | registeredFree _ _ | reset _ | recycle _ =>
    exact hleaves.elim
  | @answered u _ _ hst | @startedNothing u _ _ _ hst _ | @started u _ _ _ _ _ hst _ | @issued u _ _ _ hst
  | @addDone u _ _ hst _ | @absorbed u _ _ _ _ hst _ _ | @filledBehind u _ _ _ _ hst _ _ _
  | @filled u _ _ _ _ hst _ _ _ | @roomMade u _ _ _ _ hst _ | @admittedLate u _ _ _ _ hst _
  | @admitted u _ _ _ hst _ | @refused u _ _ _ hst | @chainAwaited u _ _ hst _ | @yielded u _ _ _ hst
  | @collectedLate u _ _ _ hst _ | @collected u _ _ hst _ | @sweptChunk u _ _ _ _ hst _
  | @sweptPrimary u _ _ _ hst _ _ | @sweptFlush u _ _ hst _ _ _ | @sweptAdd u _ _ _ hst _ _ _
  | @tripBegun u _ _ _ hst _ | @tripsDone u _ _ _ hst _ | @tripDropped u _ _ _ hst _
  | @tripFailed u _ _ _ _ _ _ hst _ _ | @tripDone u _ _ _ _ _ _ hst _ _ =>
    cases hleaves.not_isCall (.inl rfl) (fun heq => hrun (heq ▸ rfl)) hst
  | @roomExpired u _ _ _ _ hst _ | @chainExpired u _ _ hst _ | @tripExpired u _ _ _ hst _ =>
    cases hleaves.not_isCall (.inr rfl) (fun heq => hexpire (heq ▸ rfl)) hst
  | @driven u _ _ _ hst hd | @carried u _ _ hst hd =>
    have hu : u ≠ t := fun heq => hrun (heq ▸ rfl)
    refine ⟨rfl, thread_step hstep (by simpa [Action.thread] using hu), fun w hw _ => ?_, fun _ _ => rfl,
      fun heq => absurd (Option.some.inj heq) hu⟩
    rw [(frame_launch _ _ _ _ _).2.2.1, Table.find?_set, if_neg hw.ne]
  | @driveDone u _ hst hd | @deferred u _ _ _ hst hd =>
    have hu : u ≠ t := fun heq => hrun (heq ▸ rfl)
    exact ⟨rfl, thread_step hstep (by simpa [Action.thread] using hu), fun _ _ _ => rfl, fun _ _ => rfl, fun _ => rfl⟩
  | @told u _ hst | @toldFailure u _ _ hst =>
    have hu : u ≠ t := fun heq => hrun (heq ▸ rfl)
    exact ⟨rfl, thread_step hstep (by simpa [Action.thread] using hu), fun _ _ _ => rfl, fun _ _ => rfl,
      fun heq => absurd (Option.some.inj heq) hu⟩
  | @transportReturned u _ _ hst | @attached u _ _ hst | @notified u _ _ hst =>
    have hu : u ≠ t := fun heq => hresume (heq ▸ rfl)
    exact ⟨rfl, thread_step hstep (by simpa [Action.thread] using hu), fun _ _ _ => rfl, fun _ _ => rfl,
      fun heq => absurd (Option.some.inj heq) hu⟩
  | chainQuiet _ _ hset | chainTold _ _ hset | chainGoesOn _ _ hset | chainFailed _ _ hset =>
    cases not_settled hfree hset
  | strayEnded _ _ | chainStale _ _ _ | strayForgotten _ =>
    exact ⟨rfl, rfl, fun v _ hv => find?_endWrite_of_ne (by simpa [Action.ends, eq_comm] using hv), fun _ _ => rfl,
      fun _ => rfl⟩
  | @tripEnded _ w _ _ _ _ | @tripForgotten w _ _ =>
    refine ⟨rfl, rfl, fun v _ hv => find?_endWrite_of_ne (by simpa [Action.ends, eq_comm] using hv), fun v hv => ?_,
      fun _ => rfl⟩
    have hne : v ≠ w := by simpa [Action.ends, eq_comm] using hv
    simp [Table.find?_set, hne]
  | @chainForgotten w write flight hw =>
    have hkept : s.conn.permit.release flight.guard = s.conn.permit := by simp [Permit.release, Permit.isCurrent, hfree]
    exact ⟨by simp [hkept], rfl, fun v _ hv => find?_endWrite_of_ne (by simpa [Action.ends, eq_comm] using hv),
      fun _ _ => rfl, fun _ => rfl⟩
  | transportPending => exact ⟨rfl, rfl, fun _ _ _ => rfl, fun _ _ => rfl, fun _ => rfl⟩

/-! ### The stages of a flush -/

/-- How far the blocking flush on thread `t` has come, above `rest`. Its round trips have ended as in `log`, and `acked`
is what they have brought to the other side. -/
inductive Stage (parts : List (List UInt8)) (t : ThreadId) (rest : List Frame) (s : System) (log : List TripEnd)
    (acked : List UInt8) : Prop
  | collecting (hst : (s.thread t).stack = .collecting .flush :: rest) (hparts : s.conn.store.parts = parts)
      (hlog : log = []) (hacked : acked = [])
  | sweeping (sweep : Sweep) (hst : (s.thread t).stack = .sweeping sweep :: rest) (hgoal : sweep.goal = .flush)
      (hempty : s.conn.store.contents = []) (hat : Between parts acked sweep.parts)
      (hlog : ∀ e ∈ log, e.succeeds = true)
  | writing (buf : Buffer) (sweep : Sweep) (hst : (s.thread t).stack = .writing buf sweep :: rest)
      (hgoal : sweep.goal = .flush) (hempty : s.conn.store.contents = [])
      (hat : Amid parts acked buf.unsent sweep.parts) (hlog : ∀ e ∈ log, e.succeeds = true)
  | waiting (w : WriteId) (buf : Buffer) (sweep : Sweep) (inside : Bool)
      (hst : (s.thread t).stack = (if inside then [.inTransport w] else []) ++ .awaitingReply w sweep :: rest)
      (hgoal : sweep.goal = .flush) (hempty : s.conn.store.contents = [])
      (hat : Amid parts acked buf.unsent sweep.parts) (hleft : buf.unsent ≠ []) (hlog : ∀ e ∈ log, e.succeeds = true)
      (hw : s.outstanding.find? w = some (.trip buf)) (hanswer : s.answers.find? w = none)
  | answered (w : WriteId) (buf : Buffer) (sweep : Sweep) (inside : Bool) (outcome : Outcome) (earlier : List TripEnd)
      (hst : (s.thread t).stack = (if inside then [.inTransport w] else []) ++ .awaitingReply w sweep :: rest)
      (hgoal : sweep.goal = .flush) (hempty : s.conn.store.contents = [])
      (hat : Amid parts acked (buf.unsent.drop outcome.count) sweep.parts) (hleft : buf.unsent ≠ [])
      (hlog : log = earlier ++ [.returned outcome]) (hearlier : ∀ e ∈ earlier, e.succeeds = true)
      (hw : s.outstanding.find? w = none) (hanswer : s.answers.find? w = some (.returned outcome buf))
  | forgotten (w : WriteId) (left : List UInt8) (sweep : Sweep) (inside : Bool) (earlier : List TripEnd)
      (hst : (s.thread t).stack = (if inside then [.inTransport w] else []) ++ .awaitingReply w sweep :: rest)
      (hgoal : sweep.goal = .flush) (hempty : s.conn.store.contents = [])
      (hat : Amid parts acked left sweep.parts) (hleft : left ≠ [])
      (hlog : log = earlier ++ [.dropped]) (hearlier : ∀ e ∈ earlier, e.succeeds = true)
      (hw : s.outstanding.find? w = none) (hanswer : s.answers.find? w = some .dropped)

/-- What the next step of the flush itself comes to, and what it tells. -/
inductive Progress (parts : List (List UInt8)) (t : ThreadId) (rest : List Frame) (s : System) (log : List TripEnd)
    (acked : List UInt8) : Option Signal → Prop
  | goesOn (h : s.Stage parts t rest log acked) : Progress parts t rest s log acked none
  | hands (w : WriteId) (buf : Buffer) (later : List (List UInt8)) (h : s.Stage parts t rest log acked)
      (hw : s.outstanding.find? w = some (.trip buf)) (hleft : buf.unsent ≠ [])
      (hat : Amid parts acked buf.unsent later) (hlog : ∀ e ∈ log, e.succeeds = true) :
      Progress parts t rest s log acked (some (.handed w))
  | finishes (hacked : acked = parts.flatten) (hempty : s.conn.store.contents = [])
      (hprimary : ∃ p, s.conn.store.primary = some p) (hlog : ∀ e ∈ log, e.succeeds = true) :
      Progress parts t rest s log acked (some (.replied (.pending false)))
  | fails (err : Error) (e : TripEnd) (earlier : List TripEnd) (left : List UInt8) (later : List (List UInt8))
      (hlog : log = earlier ++ [e]) (hearlier : ∀ e ∈ earlier, e.succeeds = true) (herr : e.written = .error err)
      (hat : Amid parts acked left later) (hleft : left ≠ [])
      (hqueued : s.conn.store.queued = (if e.givesBack then left else []) ++ later.flatten)
      (hprimary : ∃ p, s.conn.store.primary = some p ∧ p.unsent = []) :
      Progress parts t rest s log acked (some (.replied (.refused err)))

/-- Only the store of the connection differs. -/
def KeepsRest (s s' : System) : Prop := s'.conn = { s.conn with store := s'.conn.store }

/-- The flush takes what there is to write. -/
theorem collecting_step (herr : s.conn.error = none) (hst : (s.thread t).stack = .collecting .flush :: rest)
    (hparts : s.conn.store.parts = parts) (h : s.perform (.run t) = some (s', sig)) :
    s'.Progress parts t rest [] [] sig ∧ s.KeepsRest s' := by
  simp only [perform, run, hst, runCollecting, herr, Option.some.injEq, Prod.mk.injEq] at h
  obtain ⟨rfl, rfl⟩ := h
  refine ⟨.goesOn (.sweeping (s.conn.store.sweep .flush) ?_ rfl (Store.contents_swept _) ⟨[], ?_, rfl⟩ (by simp)), rfl⟩
  · simp
    rfl
  · rw [Sweep.parts_sweep, hparts, List.nil_append]

/-- It goes on to the next part, or is done after the last one. -/
theorem sweeping_step {sweep : Sweep} (hst : (s.thread t).stack = .sweeping sweep :: rest)
    (hgoal : sweep.goal = .flush) (hempty : s.conn.store.contents = []) (hat : Between parts acked sweep.parts)
    (hlog : ∀ e ∈ log, e.succeeds = true) (h : s.perform (.run t) = some (s', sig)) :
    s'.Progress parts t rest log acked sig ∧ s.KeepsRest s' := by
  obtain ⟨chunks, primary, goal⟩ := sweep
  obtain rfl : goal = .flush := hgoal
  simp only [perform, run, hst, runSweeping] at h
  cases chunks with
  | cons c chunks =>
    simp only [Option.some.injEq, Prod.mk.injEq] at h
    obtain ⟨rfl, rfl⟩ := h
    exact ⟨.goesOn (.writing (.chunk c) ⟨chunks, primary, .flush⟩ (by simp) rfl hempty (Between.amid hat) hlog), rfl⟩
  | nil =>
    cases primary with
    | some p =>
      simp only [Option.some.injEq, Prod.mk.injEq] at h
      obtain ⟨rfl, rfl⟩ := h
      exact ⟨.goesOn (.writing (.primary p) ⟨[], none, .flush⟩ (by simp) rfl hempty (Between.amid hat) hlog), rfl⟩
    | none =>
      simp only [answer, Option.some.injEq, Prod.mk.injEq] at h
      obtain ⟨rfl, rfl⟩ := h
      exact ⟨.finishes (Between.flatten_eq hat) (by simpa using hempty) (by simpa using Store.primary_ensurePrimary _)
        hlog, rfl⟩

/-- It hands over what is left of a part, and goes on when nothing is left. -/
theorem writing_step {buf : Buffer} {sweep : Sweep} (hnum : s.Numbered)
    (hst : (s.thread t).stack = .writing buf sweep :: rest) (hgoal : sweep.goal = .flush)
    (hempty : s.conn.store.contents = []) (hat : Amid parts acked buf.unsent sweep.parts)
    (hlog : ∀ e ∈ log, e.succeeds = true) (h : s.perform (.run t) = some (s', sig)) :
    s'.Progress parts t rest log acked sig ∧ s.KeepsRest s' := by
  simp only [perform, run, hst, runWriting, Option.some.injEq] at h
  cases hbuf : buf.hasRemaining with
  | true =>
    simp only [hbuf, if_true] at h
    obtain ⟨rfl, rfl⟩ := Prod.ext_iff.1 h
    have hleft := Buffer.hasRemaining_iff.1 hbuf
    have hw : ((s.setStack t (.awaitingReply s.nextWrite sweep :: rest)).handOver t (.trip buf)).1.outstanding.find?
        s.nextWrite = some (.trip buf) := by simp [Table.find?_set]
    refine ⟨.hands s.nextWrite buf sweep.parts
      (.waiting s.nextWrite buf sweep true ?_ hgoal hempty hat hleft hlog hw ?_) hw hleft hat hlog, rfl⟩
    · rw [thread_handOver_self]
      simp
    · exact hnum.answers _ (Nat.le_refl _)
  | false =>
    simp only [hbuf, Bool.false_eq_true, if_false, Prod.mk.injEq] at h
    obtain ⟨rfl, rfl⟩ := h
    rw [Buffer.hasRemaining_eq_false_iff.1 hbuf] at hat
    exact ⟨.goesOn (.sweeping sweep (by simp) hgoal ((Store.contents_reclaim hbuf).trans hempty) hat.between hlog), rfl⟩

/-- What a flush that fails leaves in the store. -/
theorem fails_of_putBack (returned : Option Buffer) {sweep : Sweep} {err : Error} {e : TripEnd}
    {earlier : List TripEnd} {left : List UInt8} (hstore : s'.conn.store = sweep.putBack returned s.conn.store)
    (hempty : s.conn.store.contents = []) (hat : Amid parts acked left sweep.parts) (hleft : left ≠ [])
    (hlog : log = earlier ++ [e]) (hearlier : ∀ e ∈ earlier, e.succeeds = true) (herr : e.written = .error err)
    (hreturned : returned.toList.flatMap Buffer.unsent = if e.givesBack then left else []) :
    s'.Progress parts t rest log acked (some (.replied (.refused err))) := by
  obtain ⟨hfront, hqueued⟩ := List.append_eq_nil_iff.1 hempty
  refine .fails err e earlier left sweep.parts hlog hearlier herr hat hleft ?_ ?_
  · have hnone : s.conn.store.queued = [] := hqueued
    rw [hstore, Sweep.queued_putBack, hreturned, hnone, List.append_nil, Sweep.flatten_parts]
  · have hempty : s'.conn.store.front = [] := by
      rw [hstore, Sweep.front_putBack]
      exact hfront
    obtain ⟨p, hp⟩ : ∃ p, s'.conn.store.primary = some p := hstore ▸ Store.primary_ensurePrimary _
    exact ⟨p, hp, by simpa [Store.front, hp] using hempty⟩

/-- It takes note of how the transport ended the round trip. -/
theorem tripBack_step {w : WriteId} {buf : Buffer} {sweep : Sweep} {outcome : Outcome} {earlier : List TripEnd}
    (hst : (s.thread t).stack = .awaitingReply w sweep :: rest)
    (hgoal : sweep.goal = .flush) (hempty : s.conn.store.contents = [])
    (hat : Amid parts acked (buf.unsent.drop outcome.count) sweep.parts) (hleft : buf.unsent ≠ [])
    (hlog : log = earlier ++ [.returned outcome]) (hearlier : ∀ e ∈ earlier, e.succeeds = true)
    (hanswer : s.answers.find? w = some (.returned outcome buf)) (h : s.perform (.run t) = some (s', sig)) :
    s'.Progress parts t rest log acked sig ∧ s.KeepsRest s' := by
  simp only [perform, run, hst, runAwaitingReply, hanswer] at h
  cases hwritten : outcome.written with
  | error err =>
    simp only [hwritten, failSweep, answer, Option.some.injEq, Prod.mk.injEq] at h
    obtain ⟨rfl, rfl⟩ := h
    rw [Outcome.count_eq_zero hwritten, List.drop_zero] at hat
    exact ⟨fails_of_putBack (some buf) rfl hempty hat hleft hlog hearlier hwritten (by simp [TripEnd.givesBack]), rfl⟩
  | ok count =>
    simp only [hwritten, Buffer.advance_of_le (Nat.min_le_right count buf.remaining), Option.some.injEq,
      Prod.mk.injEq] at h
    obtain ⟨rfl, rfl⟩ := h
    rw [Outcome.written_eq_ok hwritten] at hat
    refine ⟨.goesOn (.writing (buf.drop (min count buf.remaining)) sweep (by simp) hgoal hempty ?_ ?_), rfl⟩
    · rwa [Buffer.unsent_drop, drop_min_remaining]
    · rw [hlog, List.forall_mem_append, List.forall_mem_singleton]
      exact ⟨hearlier, TripEnd.succeeds_of_written (e := .returned outcome) hwritten⟩

/-- It fails when it finds that the transport forgot the write. -/
theorem tripLost_step {w : WriteId} {left : List UInt8} {sweep : Sweep} {earlier : List TripEnd}
    (hst : (s.thread t).stack = .awaitingReply w sweep :: rest) (hempty : s.conn.store.contents = [])
    (hat : Amid parts acked left sweep.parts) (hleft : left ≠ []) (hlog : log = earlier ++ [.dropped])
    (hearlier : ∀ e ∈ earlier, e.succeeds = true) (hanswer : s.answers.find? w = some .dropped)
    (h : s.perform (.run t) = some (s', sig)) : s'.Progress parts t rest log acked sig ∧ s.KeepsRest s' := by
  simp only [perform, run, hst, runAwaitingReply, hanswer, failSweep, answer, Option.some.injEq, Prod.mk.injEq] at h
  obtain ⟨rfl, rfl⟩ := h
  exact ⟨fails_of_putBack none rfl hempty hat hleft hlog hearlier rfl (by simp [TripEnd.givesBack]), rfl⟩

/-- It fails when it has waited for too long. -/
theorem tripLate_step {w : WriteId} {buf : Buffer} {sweep : Sweep}
    (hst : (s.thread t).stack = .awaitingReply w sweep :: rest) (hempty : s.conn.store.contents = [])
    (hat : Amid parts acked buf.unsent sweep.parts) (hleft : buf.unsent ≠ []) (hlog : ∀ e ∈ log, e.succeeds = true)
    (hanswer : s.answers.find? w = none) (h : s.perform (.expire t) = some (s', sig)) :
    s'.Progress parts t rest (log ++ [.expired]) acked sig ∧ s.KeepsRest s' := by
  simp only [perform, expire, hst, hanswer, Option.isNone_none, if_true, failSweep, answer, Option.some.injEq,
    Prod.mk.injEq] at h
  obtain ⟨rfl, rfl⟩ := h
  exact ⟨fails_of_putBack none rfl hempty hat hleft rfl hlog rfl (by simp [TripEnd.givesBack]), rfl⟩

theorem Numbered.lt_nextWrite_of_answer (hnum : s.Numbered) {w : WriteId} {answer : Answer}
    (hw : s.answers.find? w = some answer) : w < s.nextWrite := by
  by_contra hge
  simp [hnum.answers w (Nat.le_of_not_lt hge)] at hw

theorem perform_run_foreign {w : WriteId} {below : List Frame} (hst : (s.thread t).stack = .inTransport w :: below) :
    s.perform (.run t) = none := by
  simp [perform, run, hst]

/-- The transport returns, and the flush goes on where it was. -/
theorem returned_step {w : WriteId} {below : List Frame} (hst : (s.thread t).stack = .inTransport w :: below)
    (h : s.perform (.resume t) = some (s', sig)) :
    s' = s.setStack t below ∧ sig = none := by
  simp only [perform, resume, hst, Option.some.injEq, Prod.mk.injEq] at h
  exact ⟨h.1.symm, h.2.symm⟩

/-- What the flush does next. -/
theorem run_step (hnum : s.Numbered) (herr : s.conn.error = none) (hstage : s.Stage parts t rest log acked)
    (h : s.perform (.run t) = some (s', sig)) : s'.Progress parts t rest log acked sig ∧ s.KeepsRest s' := by
  cases hstage with
  | collecting hst hparts hlog hacked =>
    subst hlog hacked
    exact collecting_step herr hst hparts h
  | sweeping sweep hst hgoal hempty hat hlog => exact sweeping_step hst hgoal hempty hat hlog h
  | writing buf sweep hst hgoal hempty hat hlog => exact writing_step hnum hst hgoal hempty hat hlog h
  | waiting w buf sweep inside hst hgoal hempty hat hleft hlog hw hanswer =>
    cases inside with
    | true => simp [perform_run_foreign hst] at h
    | false => simp [perform, run, hst, runAwaitingReply, hanswer] at h
  | answered w buf sweep inside outcome earlier hst hgoal hempty hat hleft hlog hearlier hw hanswer =>
    cases inside with
    | true => simp [perform_run_foreign hst] at h
    | false => exact tripBack_step hst hgoal hempty hat hleft hlog hearlier hanswer h
  | forgotten w left sweep inside earlier hst hgoal hempty hat hleft hlog hearlier hw hanswer =>
    cases inside with
    | true => simp [perform_run_foreign hst] at h
    | false => exact tripLost_step hst hempty hat hleft hlog hearlier hanswer h

/-- Time runs out only for a flush that waits for the transport. -/
theorem expire_step (hstage : s.Stage parts t rest log acked) (h : s.perform (.expire t) = some (s', sig)) :
    s'.Progress parts t rest (log ++ [.expired]) acked sig ∧ s.KeepsRest s' ∧ (s.thread t).awaited?.isSome = true := by
  cases hstage with
  | collecting hst _ _ _ => simp [perform, expire, hst] at h
  | sweeping sweep hst _ _ _ _ => simp [perform, expire, hst] at h
  | writing buf sweep hst _ _ _ _ => simp [perform, expire, hst] at h
  | waiting w buf sweep inside hst hgoal hempty hat hleft hlog hw hanswer =>
    cases inside with
    | true => simp [perform, expire, hst] at h
    | false =>
      obtain ⟨hprogress, hkeeps⟩ := tripLate_step hst hempty hat hleft hlog hanswer h
      exact ⟨hprogress, hkeeps, by simp [Thread.awaited?, hst]⟩
  | answered w buf sweep inside outcome earlier hst _ _ _ _ _ _ _ hanswer =>
    cases inside <;> simp [perform, expire, hst, hanswer] at h
  | forgotten w left sweep inside earlier hst _ _ _ _ _ _ _ hanswer =>
    cases inside <;> simp [perform, expire, hst, hanswer] at h

/-- The transport returns to the flush. -/
theorem resume_step (hstage : s.Stage parts t rest log acked) (h : s.perform (.resume t) = some (s', sig)) :
    s'.Progress parts t rest log acked sig ∧ s.KeepsRest s' := by
  cases hstage with
  | collecting hst _ _ _ => simp [perform, resume, hst] at h
  | sweeping sweep hst _ _ _ _ => simp [perform, resume, hst] at h
  | writing buf sweep hst _ _ _ _ => simp [perform, resume, hst] at h
  | waiting w buf sweep inside hst hgoal hempty hat hleft hlog hw hanswer =>
    cases inside with
    | true =>
      obtain ⟨rfl, rfl⟩ := returned_step hst h
      exact ⟨.goesOn (.waiting w buf sweep false (by simp) hgoal hempty hat hleft hlog hw hanswer), rfl⟩
    | false => simp [perform, resume, hst] at h
  | answered w buf sweep inside outcome earlier hst hgoal hempty hat hleft hlog hearlier hw hanswer =>
    cases inside with
    | true =>
      obtain ⟨rfl, rfl⟩ := returned_step hst h
      exact ⟨.goesOn (.answered w buf sweep false outcome earlier (by simp) hgoal hempty hat hleft hlog hearlier hw
        hanswer), rfl⟩
    | false => simp [perform, resume, hst] at h
  | forgotten w left sweep inside earlier hst hgoal hempty hat hleft hlog hearlier hw hanswer =>
    cases inside with
    | true =>
      obtain ⟨rfl, rfl⟩ := returned_step hst h
      exact ⟨.goesOn (.forgotten w left sweep false earlier (by simp) hgoal hempty hat hleft hlog hearlier hw hanswer),
        rfl⟩
    | false => simp [perform, resume, hst] at h

/-- What is done besides does not end a round trip, except the one that the flush waits for. -/
theorem tripEnd?_eq_none (hexpire : a ≠ .expire t) (h : ∀ w, (s.thread t).awaited? = some w → a.ends w = false) :
    Move.tripEnd? t ⟨s, a, s', sig⟩ = none := by
  cases a with
  | complete u w outcome => exact if_neg fun hw => by simpa [Action.ends] using h w hw
  | abandon w => exact if_neg fun hw => by simpa [Action.ends] using h w hw
  | expire u => exact if_neg fun (hu : u = t ∧ _) => hexpire (hu.1 ▸ rfl)
  | call u c | run u | resume u | transportPending pending => rfl

theorem Stage.quiet (hstage : s'.Stage parts t rest log acked) (hexpire : a ≠ .expire t)
    (h : ∀ w, (s.thread t).awaited? = some w → a.ends w = false) :
    s'.Stage parts t rest (log ++ (Move.tripEnd? t ⟨s, a, s', sig⟩).toList)
      (acked ++ Move.confirmedTo t ⟨s, a, s', sig⟩) := by
  simpa [Move.confirmedTo, tripEnd?_eq_none hexpire h] using hstage

theorem awaited?_of_stack {w : WriteId} {sweep : Sweep} {inside : Bool}
    (hst : (s.thread t).stack = (if inside then [.inTransport w] else []) ++ .awaitingReply w sweep :: rest) :
    (s.thread t).awaited? = some w := by
  cases inside <;> simp_all [Thread.awaited?]

theorem not_ends_of_gone {w : WriteId} (hw : s.outstanding.find? w = none) (h : Step s a s' sig) :
    a.ends w = false := by
  have hne {v : WriteId} {handed : Handed} (hv : s.outstanding.find? v = some handed) : v ≠ w := by
    rintro rfl
    simp [hw] at hv
  cases h with
  | strayEnded _ hv | tripEnded _ hv | chainStale _ hv _ | chainQuiet _ hv _ | chainTold _ hv _ | chainGoesOn _ hv _
  | chainFailed _ hv _ | strayForgotten hv | tripForgotten hv | chainForgotten hv => simp [Action.ends, hne hv]
  | _ => rfl

/-- The transport is done with a round trip, or forgets it. -/
theorem trip_ended {w : WriteId} {buf : Buffer} (hw : s.outstanding.find? w = some (.trip buf))
    (hends : a.ends w = true) (h : Step s a s' sig) :
    (∃ u outcome, a = .complete u w outcome ∧ s'.outstanding.find? w = none ∧
      s'.answers.find? w = some (.returned outcome buf)) ∨
    (a = .abandon w ∧ s'.outstanding.find? w = none ∧ s'.answers.find? w = some .dropped) := by
  cases h with
  | strayEnded _ hv | chainStale _ hv _ | chainQuiet _ hv _ | chainTold _ hv _ | chainGoesOn _ hv _ | chainFailed _ hv _
  | strayForgotten hv | chainForgotten hv =>
    obtain rfl := of_decide_eq_true hends
    cases hw.symm.trans hv
  | @tripEnded u v outcome buf' _ hv =>
    obtain rfl := of_decide_eq_true hends
    cases hw.symm.trans hv
    exact .inl ⟨u, outcome, rfl, by simp [Table.find?_erase], by simp [Table.find?_set]⟩
  | tripForgotten hv =>
    obtain rfl := of_decide_eq_true hends
    cases hw.symm.trans hv
    exact .inr ⟨rfl, by simp [Table.find?_erase], by simp [Table.find?_set]⟩
  | _ => cases hends

/-- The stage stays while other things are done, until the round trip ends. -/
theorem stage_aside (hnum : s.Numbered) (hstage : s.Stage parts t rest log acked) (haside : s.Aside t a s' sig)
    (h : Step s a s' sig) (hexpire : a ≠ .expire t) :
    s'.Stage parts t rest (log ++ (Move.tripEnd? t ⟨s, a, s', sig⟩).toList)
      (acked ++ Move.confirmedTo t ⟨s, a, s', sig⟩) := by
  have hthread := haside.thread
  cases hstage with
  | collecting hst hparts hlog hacked =>
    exact Stage.quiet (.collecting (hthread ▸ hst) (haside.conn ▸ hparts) hlog hacked) hexpire
      (by simp [Thread.awaited?, hst])
  | sweeping sweep hst hgoal hempty hat hlog =>
    exact Stage.quiet (.sweeping sweep (hthread ▸ hst) hgoal (haside.conn ▸ hempty) hat hlog) hexpire
      (by simp [Thread.awaited?, hst])
  | writing buf sweep hst hgoal hempty hat hlog =>
    exact Stage.quiet (.writing buf sweep (hthread ▸ hst) hgoal (haside.conn ▸ hempty) hat hlog) hexpire
      (by simp [Thread.awaited?, hst])
  | waiting w buf sweep inside hst hgoal hempty hat hleft hlog hw hanswer =>
    have hawaited := awaited?_of_stack hst
    cases hends : a.ends w with
    | false =>
      have hkept := (haside.outstanding w (hnum.lt_nextWrite hw) hends).trans hw
      have hstill := (haside.answers w hends).trans hanswer
      exact Stage.quiet (.waiting w buf sweep inside (hthread ▸ hst) hgoal (haside.conn ▸ hempty) hat hleft hlog hkept
        hstill) hexpire fun v hv => by simp_all
    | true =>
      obtain ⟨u, outcome, rfl, hgone, hback⟩ | ⟨rfl, hgone, hlost⟩ := trip_ended hw hends h
      · have hend : Move.tripEnd? t ⟨s, .complete u w outcome, s', sig⟩ = some (.returned outcome) := if_pos hawaited
        have hack : Move.confirmedTo t ⟨s, .complete u w outcome, s', sig⟩ = buf.unsent.take outcome.count := by
          simp [Move.confirmedTo, hend, Move.confirmed, confirmedBy, hw, Handed.write, Write.unsent, Write.buffers]
        rw [hend, hack]
        exact .answered w buf sweep inside outcome log (hthread ▸ hst) hgoal (haside.conn ▸ hempty) (hat.advance _)
          hleft rfl hlog hgone hback
      · have hend : Move.tripEnd? t ⟨s, .abandon w, s', sig⟩ = some .dropped := if_pos hawaited
        have hack : Move.confirmedTo t ⟨s, .abandon w, s', sig⟩ = [] := by
          simp [Move.confirmedTo, Move.confirmed, confirmedBy]
        rw [hend, hack, List.append_nil]
        exact .forgotten w buf.unsent sweep inside log (hthread ▸ hst) hgoal (haside.conn ▸ hempty) hat hleft rfl hlog
          hgone hlost
  | answered w buf sweep inside outcome earlier hst hgoal hempty hat hleft hlog hearlier hw hanswer =>
    have hends := not_ends_of_gone hw h
    have hgone := (haside.outstanding w (hnum.lt_nextWrite_of_answer hanswer) hends).trans hw
    have hstill := (haside.answers w hends).trans hanswer
    exact Stage.quiet (.answered w buf sweep inside outcome earlier (hthread ▸ hst) hgoal (haside.conn ▸ hempty) hat
      hleft hlog hearlier hgone hstill) hexpire fun v hv => by simp_all [awaited?_of_stack hst]
  | forgotten w left sweep inside earlier hst hgoal hempty hat hleft hlog hearlier hw hanswer =>
    have hends := not_ends_of_gone hw h
    have hgone := (haside.outstanding w (hnum.lt_nextWrite_of_answer hanswer) hends).trans hw
    have hstill := (haside.answers w hends).trans hanswer
    exact Stage.quiet (.forgotten w left sweep inside earlier (hthread ▸ hst) hgoal (haside.conn ▸ hempty) hat hleft
      hlog hearlier hgone hstill) hexpire fun v hv => by simp_all [awaited?_of_stack hst]

/-! ### The whole flush -/

/-- A call on thread `t` returns. -/
def Move.answersOn (t : ThreadId) (m : Move) : Bool :=
  match m.signal with
  | some (.replied _) => decide (m.action.thread = some t)
  | _ => false

theorem Move.answersOn_iff {m : Move} :
    m.answersOn t = true ↔ m.action.thread = some t ∧ ∃ reply, m.signal = some (.replied reply) := by
  unfold answersOn
  split
  · next reply hreply => simp [hreply]
  · next hnone => simpa using fun _ reply => hnone reply

theorem Progress.stage (h : s.Progress parts t rest log acked sig) (ha : a.thread = some t)
    (hopen : Move.answersOn t ⟨s', a, s, sig⟩ = false) : s.Stage parts t rest log acked := by
  cases h with
  | goesOn h | hands _ _ _ h _ _ _ _ => exact h
  | finishes _ _ _ _ | fails _ _ _ _ _ _ _ _ _ _ _ _ => simp [Move.answersOn, ha] at hopen

/-- Each move is one of the flush, or leaves it where it is. -/
theorem flush_step (hnum : s.Numbered) (herr : s.conn.error = none) (hfree : s.conn.permit.held = false)
    (hstage : s.Stage parts t rest log acked) (h : s.perform a = some (s', sig))
    (hleaves : Move.LeavesTo t ⟨s, a, s', sig⟩) : s.KeepsRest s' ∧
      ((a.thread = some t ∧ s'.Progress parts t rest (log ++ (Move.tripEnd? t ⟨s, a, s', sig⟩).toList)
          (acked ++ Move.confirmedTo t ⟨s, a, s', sig⟩) sig) ∨
        (s'.Stage parts t rest (log ++ (Move.tripEnd? t ⟨s, a, s', sig⟩).toList)
          (acked ++ Move.confirmedTo t ⟨s, a, s', sig⟩) ∧ (a.thread = some t → sig = none))) := by
  by_cases hrun : a = .run t
  · subst hrun
    obtain ⟨hprogress, hkeeps⟩ := run_step hnum herr hstage h
    exact ⟨hkeeps, .inl ⟨rfl, by simpa [Move.confirmedTo, Move.tripEnd?] using hprogress⟩⟩
  by_cases hexpire : a = .expire t
  · subst hexpire
    obtain ⟨hprogress, hkeeps, hawaited⟩ := expire_step hstage h
    have hend : Move.tripEnd? t ⟨s, .expire t, s', sig⟩ = some .expired := if_pos ⟨rfl, hawaited⟩
    have hack : Move.confirmedTo t ⟨s, .expire t, s', sig⟩ = [] := by
      simp [Move.confirmedTo, Move.confirmed, confirmedBy]
    rw [hend, hack, List.append_nil]
    exact ⟨hkeeps, .inl ⟨rfl, hprogress⟩⟩
  by_cases hresume : a = .resume t
  · subst hresume
    obtain ⟨hprogress, hkeeps⟩ := resume_step hstage h
    exact ⟨hkeeps, .inl ⟨rfl, by simpa [Move.confirmedTo, Move.tripEnd?] using hprogress⟩⟩
  · have hstep := step_perform h
    have haside := aside_step hfree hstep hleaves hrun hexpire hresume
    exact ⟨by rw [KeepsRest, haside.conn], .inr ⟨stage_aside hnum hstage haside hstep hexpire, haside.silent⟩⟩

theorem KeepsRest.trans {mid : System} (h : s.KeepsRest mid) (h' : mid.KeepsRest s') : s.KeepsRest s' := by
  rw [KeepsRest] at h h' ⊢
  rw [h', h]

theorem tripEnds_snoc (t : ThreadId) (moves : List Move) (m : Move) :
    tripEnds t (moves ++ [m]) = tripEnds t moves ++ (m.tripEnd? t).toList := by
  cases hm : m.tripEnd? t <;> simp [tripEnds, hm]

theorem confirmedTo_snoc (t : ThreadId) (moves : List Move) (m : Move) :
    confirmedTo t (moves ++ [m]) = confirmedTo t moves ++ m.confirmedTo t := by
  simp [confirmedTo]

theorem stage_run {earlier : List Move} (run : Run (fresh config) earlier s)
    (hst : (s.thread t).stack = .collecting .flush :: rest) (herr : s.conn.error = none)
    (hfree : s.conn.permit.held = false) (later : Run s moves s') (hleaves : ∀ m ∈ moves, m.LeavesTo t)
    (hopen : ∀ m ∈ moves, m.answersOn t = false) :
    s.KeepsRest s' ∧ s'.Stage s.conn.store.parts t rest (tripEnds t moves) (confirmedTo t moves) := by
  induction later with
  | nil => exact ⟨rfl, .collecting hst rfl rfl rfl⟩
  | @snoc moves s₁ a s₂ sig later h ih =>
    simp only [List.forall_mem_append, List.forall_mem_singleton] at hleaves hopen
    obtain ⟨hkeeps, hstage⟩ := ih hleaves.1 hopen.1
    have herr₁ : s₁.conn.error = none := by rw [hkeeps]; exact herr
    have hfree₁ : s₁.conn.permit.held = false := by rw [hkeeps]; exact hfree
    obtain ⟨hkeeps', hnext⟩ := flush_step (numbered_run (run.append later)) herr₁ hfree₁ hstage h hleaves.2
    refine ⟨hkeeps.trans hkeeps', ?_⟩
    rw [tripEnds_snoc, confirmedTo_snoc]
    obtain ⟨ha, hprogress⟩ | ⟨hstage', -⟩ := hnext
    · exact hprogress.stage ha hopen.2
    · exact hstage'

/-- A blocking flush on thread `t` finds the permit free: at once, or after the chain that it waited for. -/
structure Move.Enters (m : Move) (t : ThreadId) : Prop where
  flush : m.action = .call t (.flush .blocking) ∨
    m.action = .run t ∧ ∃ g rest, (m.before.thread t).stack = .yielding .flush g :: rest
  free : m.after.conn.permit.held = false

theorem stack_of_enters (hfirst : Move.Enters ⟨s, a, s', sig⟩ t) (herr : s'.conn.error = none)
    (h : s.perform a = some (s', sig)) : ∃ rest, (s'.thread t).stack = .collecting .flush :: rest := by
  obtain ⟨rfl | ⟨rfl, g, rest, hst⟩, hfree⟩ := hfirst
  · cases step_perform h with
    | flushRefused _ hsome => cases hsome.symm.trans herr
    | flushAwaits _ _ hheld => cases hheld.symm.trans hfree
    | flushCollects _ _ _ => exact ⟨(s.thread t).stack, by simp⟩
  · simp only [perform, run, hst, runYielding, Option.some.injEq, Prod.mk.injEq] at h
    obtain ⟨rfl, -⟩ := h
    exact ⟨rest, by simp⟩

/-- A blocking flush that finds the permit free and no failure hands over one buffer at a time, each time what is not
yet confirmed of the next part. It returns when all parts are confirmed, or with the first failure of a round trip. Then
everything that is not confirmed is back in the queue, except what is left of a buffer that the transport kept. Apart
from the store it changes nothing. -/
theorem blocking_flush_exact {earlier : List Move} {first last : Move}
    (run : Run (fresh config) (earlier ++ [first]) s) (hfirst : first.Enters t) (herr : s.conn.error = none)
    (later : Run s (moves ++ [last]) s') (hleaves : ∀ m ∈ moves ++ [last], m.LeavesTo t)
    (hopen : ∀ m ∈ moves, m.answersOn t = false) :
    s'.conn = { s.conn with store := s'.conn.store } ∧
    (∀ w, last.action.thread = some t → last.signal = some (.handed w) →
      (∀ e ∈ tripEnds t (moves ++ [last]), e.succeeds = true) ∧
      ∃ buf rest, s'.outstanding.find? w = some (.trip buf) ∧ buf.unsent ≠ [] ∧
        Amid s.conn.store.parts (confirmedTo t (moves ++ [last])) buf.unsent rest) ∧
    ∀ reply, last.action.thread = some t → last.signal = some (.replied reply) →
      (reply = .pending false ∧ (∀ e ∈ tripEnds t (moves ++ [last]), e.succeeds = true) ∧
        confirmedTo t (moves ++ [last]) = s.conn.store.parts.flatten ∧ s'.conn.store.bufferedBytes = 0 ∧
        ∃ p, s'.conn.store.primary = some p) ∨
      ∃ err e ends left rest, reply = .refused err ∧ e.written = .error err ∧
        tripEnds t (moves ++ [last]) = ends ++ [e] ∧ (∀ e ∈ ends, e.succeeds = true) ∧
        Amid s.conn.store.parts (confirmedTo t (moves ++ [last])) left rest ∧ left ≠ [] ∧
        s'.conn.store.queued = (if e.givesBack then left else []) ++ rest.flatten ∧
        ∃ p, s'.conn.store.primary = some p ∧ p.unsent = [] := by
  obtain ⟨s₀, a₀, s₁, sig₀⟩ := first
  obtain ⟨s₂, a, s₃, sig⟩ := last
  obtain ⟨-, hperform₀, rfl⟩ := run.unsnoc
  obtain ⟨before, hperform, rfl⟩ := later.unsnoc
  rw [List.forall_mem_append, List.forall_mem_singleton] at hleaves
  obtain ⟨rest, hst⟩ := stack_of_enters hfirst herr hperform₀
  obtain ⟨hkeeps, hstage⟩ := stage_run run hst herr hfirst.free before hleaves.1 hopen
  have herr₂ : s₂.conn.error = none := by rw [hkeeps]; exact herr
  have hfree₂ : s₂.conn.permit.held = false := by rw [hkeeps]; exact hfirst.free
  obtain ⟨hkeeps', hnext⟩ := flush_step (numbered_run (run.append before)) herr₂ hfree₂ hstage hperform hleaves.2
  rw [← tripEnds_snoc, ← confirmedTo_snoc] at hnext
  refine ⟨hkeeps.trans hkeeps', ?_, ?_⟩
  · rintro w ha rfl
    obtain ⟨-, hprogress⟩ | ⟨-, hsilent⟩ := hnext
    · cases hprogress with
      | hands _ buf rest _ hw hleft hat hlog => exact ⟨hlog, buf, rest, hw, hleft, hat⟩
    · cases hsilent ha
  · rintro reply ha rfl
    obtain ⟨-, hprogress⟩ | ⟨-, hsilent⟩ := hnext
    · cases hprogress with
      | finishes hacked hempty hprimary hlog =>
        have hwf := (sound_run (run.append later)).store.wellFormed
        exact .inl ⟨rfl, hlog, hacked, (Store.contents_eq_nil_iff hwf).1 hempty, hprimary⟩
      | fails err e ends left rest hlog hends herr hat hleft hqueued hprimary =>
        exact .inr ⟨err, e, ends, left, rest, rfl, herr, hlog, hends, hat, hleft, hqueued, hprimary⟩
    · cases hsilent ha

/-- Of two bytes the transport confirms the first one, and then its peer is gone. The other one is back in the queue. -/
theorem blocking_flush_exact_peer_gone : ∃ earlier first moves last s s', Run (fresh {}) (earlier ++ [first]) s ∧
    first.Enters 0 ∧ Run s (moves ++ [last]) s' ∧ confirmedTo 0 (moves ++ [last]) = [97] ∧
    s'.conn.store.queued = [98] ∧ ∃ err ends e left rest, last.signal = some (.replied (.refused err)) ∧
      e.written = .error err ∧ tripEnds 0 (moves ++ [last]) = ends ++ [e] ∧
      Amid s.conn.store.parts [97] left rest ∧ [98] = (if e.givesBack then left else []) ++ rest.flatten := by
  obtain ⟨earlier, s₀, run, hcall⟩ := Run.exists_of_follow (fresh {})
    [.call 0 (.add { bytes := ⟨#[97, 98]⟩ } .blocking), .run 0, .run 0]
    (P := fun _ s₀ => ((s₀.perform (.call 0 (.flush .blocking))).any fun first =>
      first.1.conn.error.isNone && !first.1.conn.permit.held && (first.1.follow [.run 0, .run 0, .run 0,
        .complete 1 0 (.ok 1), .resume 0, .run 0, .run 0, .complete 1 1 (.ok (-1)), .resume 0]).any fun later =>
          decide (∀ m ∈ later.1, m.LeavesTo 0) && decide (∀ m ∈ later.1, m.answersOn 0 = false) &&
          (later.2.perform (.run 0)).any fun last =>
            Move.answersOn 0 ⟨later.2, .run 0, last.1, last.2⟩ && decide (last.1.conn.store.queued = [98]) &&
            decide (confirmedTo 0 (later.1 ++ [⟨later.2, .run 0, last.1, last.2⟩]) = [97])) = true)
    (by decide +kernel)
  obtain ⟨⟨s, sig₀⟩, hperform₀, hrest⟩ := (Option.any_eq_true _ _).1 hcall
  simp only [Bool.and_eq_true, Option.isNone_iff_eq_none, Bool.not_eq_true'] at hrest
  obtain ⟨⟨herr, hfree⟩, hfollow⟩ := hrest
  obtain ⟨⟨moves, s₁⟩, hmoves, hlast⟩ := (Option.any_eq_true _ _).1 hfollow
  simp only [Bool.and_eq_true, decide_eq_true_eq] at hlast
  obtain ⟨⟨hleaves, hopen⟩, hlast⟩ := hlast
  obtain ⟨⟨s', sig⟩, hperform, hends⟩ := (Option.any_eq_true _ _).1 hlast
  simp only [Bool.and_eq_true, decide_eq_true_eq] at hends
  obtain ⟨⟨hanswers, hqueued⟩, hconfirmed⟩ := hends
  obtain ⟨-, reply, rfl⟩ := Move.answersOn_iff.1 hanswers
  have run := run.snoc hperform₀
  have later := (Run.of_follow hmoves).snoc hperform
  have henters : Move.Enters ⟨s₀, .call 0 (.flush .blocking), s, sig₀⟩ 0 := ⟨.inl rfl, hfree⟩
  obtain ⟨-, -, hreply⟩ := blocking_flush_exact run henters herr later
    (List.forall_mem_append.2 ⟨hleaves, List.forall_mem_singleton.2 (.inl rfl)⟩) hopen
  obtain ⟨-, -, -, hempty, -⟩ | ⟨err, e, ends, left, rest, rfl, hwritten, hends, -, hat, -, hback, -⟩ :=
    hreply reply rfl rfl
  · have hnone := (Store.contents_eq_nil_iff (sound_run (run.append later)).store.wellFormed).2 hempty
    cases hqueued.symm.trans (List.append_eq_nil_iff.1 hnone).2
  · exact ⟨earlier, _, moves, _, s, s', run, henters, later, hconfirmed, hqueued, err, ends, e, left, rest, rfl,
      hwritten, hends, hconfirmed ▸ hat, hqueued ▸ hback⟩

end System

end Outflow
