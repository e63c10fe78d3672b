import Outflow.Proofs.Stream

/-! What threads may have under way while calls are made and writes end only between the steps of a connection, not
amid them: one guard at a time is in the hands of a frame, and a blocking call that writes has the permit free. -/
namespace Outflow

namespace Frame

/-- Frames that others may stand on: foreign code, and what goes on once that returns. -/
def isBase : Frame → Bool
  | inTransport _ | attaching _ | notifying _ | answering _ | driving | issuing _ _ | awaitingReply _ _ => true
  | _ => false

/-- Foreign code runs or is about to be told of an event, or the frame waits. -/
def isResting : Frame → Bool
  | inTransport _ | attaching _ | notifying _ | telling _ | awaitingRoom _ _ _ | awaitingChain _
  | awaitingReply _ _ => true
  | _ => false

theorem isBase_of_isForeign {f : Frame} (h : f.isForeign = true) : f.isBase = true := by
  cases f <;> first | rfl | simp [isForeign] at h

theorem holders_of_isBase {f : Frame} (h : f.isBase = true) : f.holders = [] := by
  cases f <;> first | rfl | simp [isBase] at h

theorem holders_of_isResting {f : Frame} (h : f.isResting = true) : f.holders = [] := by
  cases f <;> first | rfl | simp [isResting] at h

end Frame

namespace System

variable {config : Config} {s s' : System} {moves : List Move} {a : Action} {sig : Option Signal} {t : ThreadId}
  {frame frame' : Frame} {rest : List Frame}

/-- The innermost frame of each thread. -/
def tops (s : System) : List Frame := s.threads.collect fun th => th.stack.head?.toList

/-- No thread is amid a step. -/
def Quiet (s : System) : Prop := ∀ f ∈ s.tops, f.isResting = true

instance (s : System) : Decidable s.Quiet := inferInstanceAs (Decidable (∀ f ∈ _, _ = _))

/-- Calls are made, and writes end, only while each thread is in foreign code or waits. -/
def Move.IsTimely (m : Move) : Prop :=
  match m.action with
  | .call _ _ | .complete _ _ _ | .abandon _ => m.before.Quiet
  | _ => True

instance : DecidablePred Move.IsTimely
  | ⟨_, .call _ _, _, _⟩ | ⟨_, .complete _ _ _, _, _⟩ | ⟨_, .abandon _, _, _⟩ => inferInstanceAs (Decidable (Quiet _))
  | ⟨_, .run _, _, _⟩ | ⟨_, .expire _, _, _⟩ | ⟨_, .resume _, _, _⟩ | ⟨_, .transportPending _, _, _⟩ =>
    inferInstanceAs (Decidable True)

theorem Quiet.top (h : s.Quiet) (hst : (s.thread t).stack = frame :: rest) : frame.isResting = true := by
  refine h frame ((Table.mem_collect _ _).2 ⟨t, s.thread t, ?_, by simp [hst]⟩)
  cases hf : s.threads.find? t with
  | none => simp [thread, hf] at hst
  | some th => simp [thread, hf]

/-! ### Stacks -/

/-- Only such frames have others on top of them. -/
def Stacked (s : System) : Prop := ∀ t, ∀ f ∈ (s.thread t).stack.tail, f.isBase = true

theorem stacked_fresh (config : Config) : (fresh config).Stacked := by
  simp [Stacked, thread, fresh]

theorem stacked_setThread (hs : s.Stacked) {th : Thread} (hth : ∀ f ∈ th.stack.tail, f.isBase = true) :
    (s.setThread t th).Stacked := by
  intro u
  rw [thread_setThread]
  split
  · exact hth
  · exact hs u

theorem Stacked.below (hs : s.Stacked) (hst : (s.thread t).stack = frame :: rest) : ∀ f ∈ rest, f.isBase = true := by
  simpa [hst] using hs t

theorem Stacked.outside (hs : s.Stacked) (hout : (s.thread t).isOutside = true) :
    ∀ f ∈ (s.thread t).stack, f.isBase = true := by
  cases hst : (s.thread t).stack with
  | nil => simp
  | cons frame rest =>
    have hforeign : frame.isForeign = true := by simpa [Thread.isOutside, hst] using hout
    exact List.forall_mem_cons.2 ⟨Frame.isBase_of_isForeign hforeign, hs.below hst⟩

theorem stacked_push (hs : s.Stacked) (hbase : ∀ f ∈ (s.thread t).stack, f.isBase = true) :
    (s.push t frame).Stacked :=
  stacked_setThread hs hbase

theorem stacked_pop (hs : s.Stacked) (hst : (s.thread t).stack = frame :: rest) : (s.setStack t rest).Stacked :=
  stacked_setThread hs fun f hf => hs.below hst f (List.mem_of_mem_tail hf)

theorem stacked_replace (hs : s.Stacked) (hst : (s.thread t).stack = frame :: rest) :
    (s.setStack t (frame' :: rest)).Stacked :=
  stacked_setThread hs (hs.below hst)

theorem stacked_handOver (hs : s.Stacked) (hbase : ∀ f ∈ (s.thread t).stack, f.isBase = true) (h : Handed) :
    (s.handOver t h).1.Stacked :=
  stacked_push hs hbase

theorem stacked_launch (hs : s.Stacked) (hbase : ∀ f ∈ rest, f.isBase = true) (queue : List Job) (job : Job) :
    (s.launch t rest queue job).Stacked := by
  have hset : (s.setThread t { stack := .driving :: rest, deferral := .running queue }).Stacked :=
    stacked_setThread hs hbase
  refine stacked_handOver hset ?_ _
  rw [thread_setThread, if_pos rfl]
  exact List.forall_mem_cons.2 ⟨rfl, hbase⟩

theorem stacked_begin (hs : s.Stacked) (hbase : ∀ f ∈ (s.thread t).stack, f.isBase = true) (starter : Starter)
    (g : Guard) (store : Store) (write : Write) : (s.begin t starter g store write).Stacked := by
  refine stacked_push (stacked_push (t := t) hs hbase) ?_
  rw [thread_push_self]
  exact List.forall_mem_cons.2 ⟨rfl, hbase⟩

theorem stacked_step (hs : s.Stacked) (h : Step s a s' sig) : s'.Stacked := by
  cases h with
  | addNothing _ _ | addRefused _ _ _ | addQueued _ _ _ _ _ | flushRefused _ _ | flushHeld _ _ _
  | flushNothing _ _ _ _ | registered _ _ | reset _ | recycle _ | transportPending | strayEnded _ _ | tripEnded _ _
  | chainStale _ _ _ | chainQuiet _ _ _ | strayForgotten _ | tripForgotten _ | chainForgotten _ => exact hs
  | addBlocking hout _ _ | addGranted hout _ _ _ | addFull hout _ _ _ _ | flushAwaits hout _ _
  | flushCollects hout _ _ | chainTold hout _ _ | chainGoesOn hout _ _ | chainFailed hout _ _ =>
    exact stacked_push hs (hs.outside hout)
  | @registeredFree t hout hfree =>
    refine stacked_push (stacked_push hs (hs.outside hout)) ?_
    rw [thread_push_self]
    exact List.forall_mem_cons.2 ⟨rfl, hs.outside hout⟩
  | @flushBegun t store write hout _ _ _ =>
    exact stacked_begin (s := s.setPermit s.conn.permit.grant) hs (hs.outside hout) _ _ store write
  | @started t rest starter g store write hst htake =>
    refine stacked_begin (stacked_pop hs hst) ?_ starter g store write
    rw [thread_setStack_self]
    exact hs.below hst
  | driven hst hd | carried hst hd => exact stacked_launch hs (hs.below hst) _ _
  | driveDone hst hd | deferred hst hd =>
    exact stacked_setThread hs fun f hf => hs.below hst f (List.mem_of_mem_tail hf)
  | @tripBegun t rest buf sweep hst hbuf =>
    refine stacked_handOver (stacked_replace hs hst) ?_ _
    rw [thread_setStack_self]
    exact List.forall_mem_cons.2 ⟨rfl, hs.below hst⟩
  | answered hst | issued hst | startedNothing hst _ | addDone hst _ | refused hst | collectedLate hst _
  | roomExpired hst _ | sweptFlush hst _ _ _ | tripDropped hst _ | tripFailed hst _ _ | tripExpired hst _
  | transportReturned hst | notified hst => exact stacked_pop hs hst
  | absorbed hst _ _ | filledBehind hst _ _ _ | filled hst _ _ _ | roomMade hst _ | admittedLate hst _ | admitted hst _
  | chainAwaited hst _ | yielded hst | collected hst _ | sweptChunk hst _ | sweptPrimary hst _ _ | sweptAdd hst _ _ _
  | tripsDone hst _ | tripDone hst _ _ | chainExpired hst _ | attached hst | told hst | toldFailure hst =>
    exact stacked_replace hs hst

/-! ### Holders -/

theorem Quiet.kinds (h : s.Quiet) (hs : s.Stacked) (hf : frame ∈ (s.thread t).stack) :
    frame.isBase = true ∨ frame.isResting = true := by
  cases hst : (s.thread t).stack with
  | nil => simp [hst] at hf
  | cons top rest =>
    rw [hst, List.mem_cons] at hf
    rcases hf with rfl | hf
    · exact .inr (h.top hst)
    · exact .inl (hs.below hst frame hf)

theorem Quiet.waiters_eq_zero (h : s.Quiet) (hs : s.Stacked) : s.tally .waiters = 0 := by
  refine Multiset.eq_zero_of_forall_notMem fun g hg => ?_
  obtain ⟨t, f, hf, hgf⟩ := (s.mem_tally_iff (fun _ => rfl) fun _ => rfl).1 hg
  have hnone : f.holders = [] := (h.kinds hs hf).elim Frame.holders_of_isBase Frame.holders_of_isResting
  simp [hnone] at hgf

/-- At most one frame holds the permit, and none does in vain. -/
def Attended (s : System) : Prop :=
  s.tally .waiters = 0 ∨ ∃ g, s.tally .waiters = {g} ∧ s.conn.permit.isCurrent g = true

theorem Attended.waiters_of_free (h : s.Attended) (hfree : s.conn.permit.held = false) : s.tally .waiters = 0 := by
  rcases h with h | ⟨g, -, hg⟩
  · exact h
  · simp [Permit.isCurrent, hfree] at hg

/-- The frame that is about to go on is the one that holds the permit. -/
theorem Attended.top (h : s.Attended) (hst : (s.thread t).stack = frame :: rest) {g : Guard}
    (hg : frame.holders = [g]) : s.conn.permit.isCurrent g = true ∧ (s.setStack t rest).tally .waiters = 0 := by
  have hsplit := tally_pop .waiters hst
  rw [Tally.waiters_ofFrame, hg] at hsplit
  rcases h with h | ⟨g', h, hcurrent⟩
  · rw [h] at hsplit
    exact absurd hsplit.symm (by simp)
  · rw [h, Multiset.coe_singleton, Multiset.singleton_add] at hsplit
    obtain ⟨rfl, hnone⟩ := (Multiset.singleton_eq_cons_iff _).1 hsplit
    exact ⟨hcurrent, hnone⟩

theorem attended_same (h : s.Attended) (hw : s'.tally .waiters = s.tally .waiters)
    (hp : s'.conn.permit = s.conn.permit) : s'.Attended := by
  rwa [Attended, hw, hp]

theorem attended_granted {C : Multiset Guard} (hnone : C = 0)
    (hw : s'.tally .waiters = s.conn.permit.nextGuard ::ₘ C) (hp : s'.conn.permit = s.conn.permit.grant) :
    s'.Attended := by
  refine .inr ⟨_, by rw [hw, hnone]; rfl, ?_⟩
  rw [hp]
  simp [Permit.isCurrent, Permit.grant, Permit.nextGuard]

/-- A frame that has the permit keeps it, unless the connection is recycled or the chain in flight ends meanwhile. -/
theorem attended_kept (hnum : s.Numbered) (hat : s.Attended) (h : Step s a s' sig)
    (hreset : ∀ t, a = .call t .recycle → s.tally .waiters = 0)
    (hended : ∀ w write flight, s.outstanding.find? w = some (.chain write flight) → a.ends w = true →
      s.conn.permit.isCurrent flight.guard = true → s.tally .waiters = 0) : s'.Attended := by
  have hfresh := hnum.outstanding _ (Nat.le_refl _)
  have hends {t w outcome write flight} (ha : a = .complete t w outcome)
      (hw : s.outstanding.find? w = some (.chain write flight))
      (hcurrent : s.conn.permit.isCurrent flight.guard = true) {C : Multiset Guard} (hC : C = s.tally .waiters) :
      C = 0 := hC.trans (hended w write flight hw (by simp [ha, Action.ends]) hcurrent)
  cases h with
  | addGranted hout hsrc herr hfree =>
    exact attended_granted (hat.waiters_of_free hfree) (by simp [tally_push, Frame.holders]) rfl
  | roomMade hst hfree | chainAwaited hst hfree =>
    have hpop := tally_pop .waiters hst
    rw [hat.waiters_of_free hfree] at hpop
    refine attended_granted (by simpa [Frame.holders] using hpop.symm) ?_ rfl
    simp [tally_replace, Frame.holders]
  | admittedLate hst _ | admitted hst _ =>
    exact attended_same hat (by simp [tally_pop _ hst, tally_replace, Frame.holders]) rfl
  | startedNothing hst htake | refused hst => exact .inl (hat.top hst rfl).2
  | started hst htake => exact .inl (by simpa [tally_begin, Frame.holders] using (hat.top hst rfl).2)
  | yielded hst => exact .inl (by simpa [tally_replace, Frame.holders] using (hat.top hst rfl).2)
  | flushNothing _ _ hfree _ => exact .inl (hat.waiters_of_free hfree)
  | flushBegun _ _ hfree _ =>
    exact .inl (by simpa [tally_begin, Frame.holders] using hat.waiters_of_free hfree)
  | recycle _ => exact .inl (hreset _ rfl)
  | chainStale hout hw hset => exact attended_same hat (by simp [tally_endWrite _ hw]) rfl
  | chainQuiet hout hw hset | chainTold hout hw hset | chainGoesOn hout hw hset | chainFailed hout hw hset =>
    exact .inl (hends rfl hw (hset.isCurrent (by simp)) (by simp [tally_endWrite _ hw, tally_push, Frame.holders]))
  | @chainForgotten w write flight hw =>
    cases hcurrent : s.conn.permit.isCurrent flight.guard with
    | true =>
      have hnone := hended w write flight hw (by simp [Action.ends]) hcurrent
      exact .inl (by simpa [tally_endWrite _ hw] using hnone)
    | false =>
      rw [Connection.release_of_not_current hcurrent]
      exact attended_same hat (by simp [tally_endWrite _ hw]) rfl
  | addQueued hout hsrc herr hheld hroom =>
    exact attended_same hat rfl (by rw [Connection.queue?_eq_ok hroom]; rfl)
  | driven hst hd => exact attended_same hat (by simp [tally_driven _ hfresh hst hd, Frame.holders]) rfl
  | carried hst hd =>
    exact attended_same hat (by simp [tally_carried _ hfresh hd, tally_pop _ hst, Frame.holders]) rfl
  | deferred hst hd => exact attended_same hat (by simp [tally_deferred _ hd, tally_pop _ hst, Frame.holders]) rfl
  | driveDone hst hd => exact attended_same hat (by simp [tally_driveDone _ hd, tally_pop _ hst, Frame.holders]) rfl
  | tripBegun hst hbuf =>
    exact attended_same hat (by simp [tally_trip _ hfresh, tally_pop _ hst, Frame.holders]) rfl
  | strayEnded hout hw | tripEnded hout hw | strayForgotten hw | tripForgotten hw =>
    exact attended_same hat (by simp [tally_endWrite _ hw]) rfl
  | addBlocking _ _ _ | addFull _ _ _ _ _ | flushAwaits _ _ _ | flushCollects _ _ _ | registeredFree _ _ =>
    exact attended_same hat (by simp [tally_push, Frame.holders]) rfl
  | answered hst | issued hst | addDone hst _ | collectedLate hst _ | sweptFlush hst _ _ _ | tripDropped hst _
  | tripFailed hst _ _ | roomExpired hst _ | tripExpired hst _ | transportReturned hst | notified hst =>
    exact attended_same hat (by simp [tally_pop _ hst, Frame.holders]) rfl
  | absorbed hst _ _ | filledBehind hst _ _ _ | filled hst _ _ _ | collected hst _ | sweptChunk hst _
  | sweptPrimary hst _ _ | sweptAdd hst _ _ _ | tripsDone hst _ | tripDone hst _ _ | chainExpired hst _

  | attached hst | told hst | toldFailure hst =>
    exact attended_same hat (by simp [tally_pop _ hst, tally_replace, Frame.holders]) rfl
  | addNothing _ _ | addRefused _ _ _ | flushRefused _ _ | flushHeld _ _ _ | registered _ _ | reset _
  | transportPending => exact hat

/-- Where calls are made and writes end, no frame holds the permit. -/
theorem attended_step (hnum : s.Numbered) (hs : s.Stacked) (hat : s.Attended) (h : Step s a s' sig)
    (htimely : Move.IsTimely ⟨s, a, s', sig⟩) : s'.Attended := by
  refine attended_kept hnum hat h ?_ fun w write flight hw hends hcurrent => ?_
  · rintro t rfl
    exact Quiet.waiters_eq_zero htimely hs
  · cases a with
    | complete t v outcome | abandon v => exact Quiet.waiters_eq_zero htimely hs
    | _ => simp [Action.ends] at hends

/-! ### Runs -/

theorem stacked_run (run : Run (fresh config) moves s) : s.Stacked :=
  run.invariant (fun _ => True) (stacked_fresh config) (fun _ _ _ _ h _ hs => stacked_step hs h) (by simp)

theorem attended_run (run : Run (fresh config) moves s) (htimely : ∀ m ∈ moves, m.IsTimely) : s.Attended := by
  induction run with
  | nil => exact .inl rfl
  | snoc run h ih =>
    simp only [List.forall_mem_append, List.forall_mem_singleton] at htimely
    exact attended_step (numbered_run run) (stacked_run run) (ih htimely.1) (step_perform h) htimely.2

theorem calm_run (run : Run (fresh config) moves s) (htimely : ∀ m ∈ moves, m.IsTimely)
    (hpatient : ∀ m ∈ moves, m.IsPatient) (hund : ∀ m ∈ moves, m.IsUndisturbed) : s.Calm := by
  induction run with
  | nil => exact calm_fresh config
  | snoc run h ih =>
    simp only [List.forall_mem_append, List.forall_mem_singleton] at htimely hpatient hund
    refine calm_step (numbered_run run) (ih htimely.1 hpatient.1 hund.1) (step_perform h) hpatient.2 hund.2
      fun t rest goal g hst => ?_
    simp [Permit.release, ((attended_run run htimely.1).top hst rfl).1]

end System

end Outflow
