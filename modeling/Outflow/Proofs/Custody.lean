import Outflow.Proofs.Tenure
import Outflow.Proofs.Wakeup

/-! Who sees to what is stored, as long as nobody makes a blocking call: the primary buffer is in the store or comes
back with the chain in flight, unless the transport forgets it, and bytes are queued only behind a chain that takes
them. -/
namespace Outflow

namespace Connection

variable {c c' : Connection} {f : Flight} {isInline : Bool} {outcome : Outcome} {write : Write}

/-- What is stored goes with the next write of the chain. -/
theorem Settled.takes_stored {count : Nat} {v : Verdict} (h : Settled c f isInline outcome write c' v)
    (hs : c.store.WellFormed) (hg : c.permit.isCurrent f.guard = true) (hw : outcome.written = .ok count)
    (hne : c.store.contents ≠ []) :
    ∃ next, v = .reissue next ∧ next.unsent = write.unsent.drop count ++ c.store.contents := by
  cases v with
  | reissue next =>
    obtain ⟨count', hw', -, hnext, -⟩ := h.unsent_reissue hs
    rw [hw, Except.ok.injEq] at hw'
    exact ⟨next, rfl, hw' ▸ hnext⟩
  | stale =>
    rw [h.not_isCurrent] at hg
    cases hg
  | finished notify =>
    obtain ⟨-, -, -, -, hnone, -⟩ := h.unsent_finished hs
    exact absurd hnone hne
  | failed err => cases hw.symm.trans h.written_failed

end Connection

def Frame.isAdmitted : Frame → Bool
  | admitted _ _ => true
  | _ => false

/-- What an add that waited for room will be refused with. -/
def Frame.refusals : Frame → List Error
  | refusing err _ => [err]
  | _ => []

@[simps]
def Tally.refusals : Tally Error where
  ofFrame := Frame.refusals
  ofJob _ := []
  ofTrip _ := []

/-- The write is part of the chain in flight and carries the primary buffer. -/
def Handed.hasPrimary (p : Permit) : Handed → Bool
  | chain write flight => p.isCurrent flight.guard && !write.primaries.isEmpty
  | trip _ | stray _ => false

namespace System

variable {config : Config} {s s' : System} {moves : List Move} {a : Action} {sig : Option Signal} {t : ThreadId}
  {frame : Frame} {rest : List Frame} {w : WriteId} {write : Write} {flight : Flight}

/-- Calls do not block. -/
def Move.IsPrompt (m : Move) : Prop :=
  match m.action with
  | .call _ c => c.isBlocking = false
  | _ => True

instance : DecidablePred Move.IsPrompt
  | ⟨_, .call _ _, _, _⟩ => inferInstanceAs (Decidable (_ = _))
  | ⟨_, .run _, _, _⟩ | ⟨_, .expire _, _, _⟩ | ⟨_, .resume _, _, _⟩ | ⟨_, .complete _ _ _, _, _⟩
  | ⟨_, .abandon _, _, _⟩ | ⟨_, .transportPending _, _, _⟩ => inferInstanceAs (Decidable True)

theorem Move.IsPrompt.of_call {m : Move} (h : m.IsPrompt) {c : Call} (ha : m.action = .call t c) :
    c.isBlocking = false := by
  simpa [Move.IsPrompt, ha] using h

/-- The transport forgets the primary buffer with the write in flight. -/
def losesPrimary (s : System) : Action → Bool
  | .abandon w => (s.outstanding.find? w).any (Handed.hasPrimary s.conn.permit)
  | _ => false

/-- A primary buffer that is missing is replaced: where the connection is recycled, and where an add begins. -/
def renewsPrimary (s : System) : Action → Bool
  | .call _ .recycle => true
  | .call _ (.add src .nonBlocking) => src.hasRemaining && s.conn.error.isNone && !s.conn.permit.held
  | .run t => (s.thread t).stack.head?.any Frame.isAdmitted && s.conn.error.isNone
  | _ => false

/-- The transport forgot the primary buffer, and nothing has replaced it since then. -/
def Lost (moves : List Move) : Prop :=
  ∃ before m after, moves = before ++ m :: after ∧ m.before.losesPrimary m.action = true ∧
    ∀ x ∈ after, x.before.renewsPrimary x.action = false

/-! ### The primary buffer -/

/-- The primary buffers that are in the store or come back to it with the chain in flight. -/
def retained (s : System) : Nat :=
  s.conn.store.primaries + (s.chains.bind fun job => (↑job.write.primaries : Multiset Buffer)).card

theorem retained_of_none (h : s.chains = 0) : s.retained = s.conn.store.primaries := by
  simp [retained, h]

theorem retained_of_one {job : Job} (h : s.chains = {job}) :
    s.retained = s.conn.store.primaries + job.write.primaries.length := by
  simp [retained, h]

theorem retained_congr (hstore : s'.conn.store.primaries = s.conn.store.primaries)
    (hpermit : s'.conn.permit = s.conn.permit) (hjobs : s'.tally .jobs = s.tally .jobs) :
    s'.retained = s.retained := by
  rw [retained, retained, hstore, chains_congr hpermit hjobs]

/-- What is retained after an action. -/
def retainedAfter (s : System) (a : Action) : Nat :=
  if s.renewsPrimary a then 1 else if s.losesPrimary a then 0 else s.retained

theorem retained_kept (h : s'.retained = s.retained) (hr : s.renewsPrimary a = false) (hl : s.losesPrimary a = false) :
    s'.retained = s.retainedAfter a := by
  simp [retainedAfter, hr, hl, h]

theorem retained_inside (h : s'.retained = s.retained) (hst : (s.thread t).stack = frame :: rest)
    (hf : frame.isAdmitted = false) : s'.retained = s.retainedAfter (.run t) :=
  retained_kept h (by simp [renewsPrimary, hst, hf]) rfl

theorem retained_renewed (h : s'.retained = 1) (hr : s.renewsPrimary a = true) : s'.retained = s.retainedAfter a := by
  simp [retainedAfter, hr, h]

/-- A chain begins with what is stored, and its guard has a say. -/
theorem retained_begin {starter : Starter} {g : Guard} {store : Store} {u : System}
    (hman : (u.begin t starter g store write).Manned) (hg : u.conn.permit.isCurrent g = true)
    (htake : u.conn.takeWrite = (store, some write)) :
    (u.begin t starter g store write).retained = u.conn.store.primaries := by
  have hmem : ⟨write, { guard := g, marker := u.markers.next }⟩ ∈ (u.begin t starter g store write).chains := by
    refine Multiset.mem_filter.2 ⟨?_, hg⟩
    rw [tally_begin]
    exact Multiset.mem_add.2 (.inl (List.mem_singleton_self _))
  rw [retained_of_one (hman.chains_of_mem hmem).1, ← Connection.primaries_takeWrite htake]
  rfl

/-- Where the permit is free afterwards, what was lent is back in the store. -/
theorem retained_free (hman' : s'.Manned) (hfree : s'.conn.permit.held = false)
    (hstore : s'.conn.store.primaries = s.retained) : s'.retained = s.retained := by
  rw [retained_of_none (hman'.chains_of_free hfree), hstore]

/-- A frame that has the permit gives it back. -/
theorem retained_returned (hat : s.Attended) (hman : s.Manned) (hman' : s'.Manned)
    (hst : (s.thread t).stack = frame :: rest) {g : Guard} (hg : frame.holders = [g])
    (hpermit : s'.conn.permit = s.conn.permit.release g)
    (hstore : s'.conn.store.primaries = s.conn.store.primaries) : s'.retained = s.retained := by
  refine retained_free hman' ?_ ?_
  · simp [hpermit, Permit.release, (hat.top hst hg).1]
  · rw [hstore, retained_of_none (hman.chains_of_top hst (hg ▸ List.mem_singleton_self g))]

/-- The chain in flight ends. -/
theorem retained_ended (hman : s.Manned) (hman' : s'.Manned)
    (hw : s.outstanding.find? w = some (.chain write flight))
    (hcurrent : s.conn.permit.isCurrent flight.guard = true)
    (hpermit : s'.conn.permit = s.conn.permit.release flight.guard)
    (hstore : s'.conn.store.primaries = s.conn.store.primaries + write.primaries.length) :
    s'.retained = s.retained := by
  refine retained_free hman' ?_ ?_
  · simp [hpermit, Permit.release, hcurrent]
  · rw [hstore, retained_of_one (hman.chains_of_mem (mem_chains_of_outstanding hw hcurrent)).1]

/-- The transport forgets the chain in flight, or one that is stale. -/
theorem retained_forgotten (hman : s.Manned)
    (hman' : ((s.endWrite w).setPermit (s.conn.permit.release flight.guard)).Manned) (hle : s.retained ≤ 1)
    (hw : s.outstanding.find? w = some (.chain write flight)) :
    ((s.endWrite w).setPermit (s.conn.permit.release flight.guard)).retained = s.retainedAfter (.abandon w) := by
  have hloses : s.losesPrimary (.abandon w) = (s.conn.permit.isCurrent flight.guard && !write.primaries.isEmpty) := by
    simp [losesPrimary, hw, Handed.hasPrimary]
  cases hcurrent : s.conn.permit.isCurrent flight.guard with
  | false =>
    refine retained_kept ?_ rfl (by simp [hloses, hcurrent])
    rw [Connection.release_of_not_current hcurrent, retained, retained, ← chains_endWrite hw hcurrent]
    rfl
  | true =>
    have hchains := (hman.chains_of_mem (mem_chains_of_outstanding hw hcurrent)).1
    have hleft := retained_of_none (hman'.chains_of_free (by simp [Permit.release, hcurrent]))
    rw [retained_of_one hchains] at hle
    cases hcarried : write.primaries with
    | nil =>
      refine retained_kept ?_ rfl (by simp [hloses, hcarried])
      rw [hleft, retained_of_one hchains, hcarried]
      rfl
    | cons b bufs =>
      have hnone : s.conn.store.primaries = 0 := by
        rw [hcarried, List.length_cons] at hle
        omega
      have hgone : s.retainedAfter (.abandon w) = 0 := by
        simp [retainedAfter, renewsPrimary, hloses, hcurrent, hcarried]
      rw [hgone, hleft]
      exact hnone

theorem retained_step (hnum : s.Numbered) (hat : s.Attended) (hman : s.Manned) (hman' : s'.Manned)
    (hle : s.retained ≤ 1) (hnb : ∀ f ∈ s.tally .calls, f.isBlocking = false) (h : Step s a s' sig)
    (hprompt : Move.IsPrompt ⟨s, a, s', sig⟩) : s'.retained = s.retainedAfter a := by
  have hfresh := hnum.outstanding _ (Nat.le_refl _)
  have hgranted : s.conn.permit.grant.isCurrent s.conn.permit.nextGuard = true := by
    simp [Permit.isCurrent, Permit.grant, Permit.nextGuard]
  have hone {w : WriteId} {write : Write} {flight : Flight}
      (hw : s.outstanding.find? w = some (.chain write flight))
      (hcurrent : s.conn.permit.isCurrent flight.guard = true) :
      s.conn.store.primaries + write.primaries.length ≤ 1 := by
    rwa [retained_of_one (hman.chains_of_mem (mem_chains_of_outstanding hw hcurrent)).1] at hle
  cases h with
  | @addNothing t src mode hout hsrc => exact retained_kept rfl (by cases mode <;> simp [renewsPrimary, hsrc]) rfl
  | @addRefused t src mode err hout hsrc herr =>
    exact retained_kept rfl (by cases mode <;> simp [renewsPrimary, herr]) rfl
  | addBlocking _ _ _ | flushAwaits _ _ _ | flushCollects _ _ _ => simp [Move.IsPrompt, Call.isBlocking] at hprompt
  | @addGranted t src hout hsrc herr hfree =>
    refine retained_renewed ?_ (by simp [renewsPrimary, hsrc, herr, hfree])
    rw [retained_of_none (hman'.chains_of_waiter (g := s.conn.permit.nextGuard) (by simp [tally_push, Frame.holders]))]
    simp
  | addQueued hout hsrc herr hheld hroom =>
    refine retained_kept ?_ (by simp [renewsPrimary, hheld]) rfl
    rw [Connection.queue?_eq_ok hroom]
    exact retained_congr (by simp) rfl rfl
  | addFull hout hsrc herr hheld hroom =>
    exact retained_kept (retained_congr rfl rfl (by simp [tally_push, Frame.jobs])) (by simp [renewsPrimary, hheld]) rfl
  | registeredFree hout hfree =>
    exact retained_kept (retained_congr rfl rfl (by simp [tally_push, Frame.jobs])) rfl rfl
  | flushRefused _ _ | flushHeld _ _ _ | registered _ _ | reset _ | transportPending => exact retained_kept rfl rfl rfl
  | flushNothing hout herr hfree htake =>
    refine retained_kept (retained_free hman' ?_ ?_) rfl rfl
    · simp [Permit.release, Permit.isCurrent, Permit.grant, Permit.nextGuard]
    · rw [retained_of_none (hman.chains_of_free hfree)]
      rfl
  | @flushBegun t store write hout herr hfree htake =>
    refine retained_kept ?_ rfl rfl
    rw [retained_of_none (hman.chains_of_free hfree)]
    exact retained_begin (u := s.setPermit s.conn.permit.grant) hman' hgranted htake
  | recycle hout =>
    refine retained_renewed ?_ rfl
    rw [retained_of_none (hman'.chains_of_free rfl)]
    exact Store.primaries_ensurePrimary _
  | answered hst | issued hst =>
    exact retained_inside (retained_congr rfl rfl (by simp [tally_pop _ hst, Frame.jobs])) hst rfl
  | driven hst hd =>
    exact retained_inside (retained_congr rfl rfl (by simp [tally_driven _ hfresh hst hd, Frame.jobs])) hst rfl
  | driveDone hst hd =>
    exact retained_inside (retained_congr rfl rfl (by simp [tally_driveDone _ hd, tally_pop _ hst, Frame.jobs])) hst rfl
  | carried hst hd =>
    refine retained_inside (retained_congr rfl rfl ?_) hst rfl
    simp [tally_carried _ hfresh hd, tally_pop _ hst, Frame.jobs]
  | deferred hst hd =>
    exact retained_inside (retained_congr rfl rfl (by simp [tally_deferred _ hd, tally_pop _ hst, Frame.jobs])) hst rfl
  | startedNothing hst htake | refused hst =>
    exact retained_inside (retained_returned hat hman hman' hst rfl rfl rfl) hst rfl
  | @started t rest starter g store write hst htake =>
    refine retained_inside ?_ hst rfl
    have hheld := hat.top hst rfl
    rw [retained_of_none (hman.chains_of_top hst (List.mem_singleton_self g))]
    exact retained_begin (u := s.setStack t rest) hman' hheld.1 htake
  | roomMade hst hfree =>
    refine retained_inside ?_ hst rfl
    have hmem := hman'.chains_of_waiter (g := s.conn.permit.nextGuard) (by simp [tally_replace, Frame.holders])
    rw [retained_of_none hmem, retained_of_none (hman.chains_of_free hfree)]
    rfl
  | admittedLate hst herr =>
    refine retained_kept ?_ (by simp [renewsPrimary, herr]) rfl
    exact retained_congr rfl rfl (by simp [tally_pop _ hst, tally_replace, Frame.jobs])
  | @admitted t rest src g hst herr =>
    refine retained_renewed ?_ (by simp [renewsPrimary, hst, herr, Frame.isAdmitted])
    rw [retained_of_none (hman'.chains_of_waiter (g := g) (by simp [tally_replace, Frame.holders]))]
    simp
  | roomExpired hst hheld | transportReturned hst | notified hst =>
    exact retained_kept (retained_congr rfl rfl (by simp [tally_pop _ hst, Frame.jobs])) rfl rfl
  | attached hst =>
    exact retained_kept (retained_congr rfl rfl (by simp [tally_pop _ hst, tally_replace, Frame.jobs])) rfl rfl
  | told hst | toldFailure hst =>
    refine retained_inside (retained_congr rfl rfl ?_) hst rfl
    simp [tally_pop _ hst, tally_replace, Frame.jobs]
  | strayEnded hout hw | tripEnded hout hw =>
    exact retained_kept (retained_congr rfl rfl (by simp [tally_endWrite _ hw])) rfl rfl
  | chainStale hout hw hset =>
    refine retained_kept ?_ rfl rfl
    rw [retained, retained, chains_endWrite hw hset.not_isCurrent]
    rfl
  | chainQuiet hout hw hset | chainTold hout hw hset | chainFailed hout hw hset =>
    have hcurrent := hset.isCurrent (by simp)
    have hstore := hset.primaries_kept (by simp) (hone hw hcurrent)
    exact retained_kept (retained_ended hman hman' hw hcurrent hset.permit hstore) rfl rfl
  | @chainGoesOn t w outcome write flight conn next hout hw hset =>
    have hcurrent := hset.isCurrent (by simp)
    have hmem :
        ⟨next, flight⟩ ∈ (((s.endWrite w).setConn conn).push t (.carrying { write := next, flight })).chains := by
      refine Multiset.mem_filter.2 ⟨by simp [tally_push, Frame.jobs], ?_⟩
      exact (congrArg (fun p => p.isCurrent flight.guard) hset.permit).trans hcurrent
    refine retained_kept ?_ rfl rfl
    rw [retained_of_one (hman'.chains_of_mem hmem).1,
      retained_of_one (hman.chains_of_mem (mem_chains_of_outstanding hw hcurrent)).1]
    exact hset.primaries_kept (by simp) (hone hw hcurrent)
  | strayForgotten hw | tripForgotten hw =>
    exact retained_kept (retained_congr rfl rfl (by simp [tally_endWrite _ hw])) rfl
      (by simp [losesPrimary, hw, Handed.hasPrimary])
  | chainForgotten hw => exact retained_forgotten hman hman' hle hw
  | addDone hst _ | absorbed hst _ _ | filledBehind hst _ _ _ | filled hst _ _ _ | chainAwaited hst _ | yielded hst
  | collectedLate hst _ | collected hst _
  | sweptChunk hst _ | sweptPrimary hst _ _ | sweptFlush hst _ _ _ | sweptAdd hst _ _ _ | tripBegun hst _
  | tripsDone hst _ | tripDropped hst _ | tripFailed hst _ _ | tripDone hst _ _ | chainExpired hst _
  | tripExpired hst _ => exact (not_blocking_top hnb hst rfl rfl).elim

theorem losesPrimary_of_renews (h : s.renewsPrimary a = true) : s.losesPrimary a = false := by
  cases a with
  | abandon w => cases h
  | _ => rfl

/-- The primary buffer is there or comes back, unless the transport forgot it and it was not replaced. -/
theorem custody_run (run : Run (fresh config) moves s) (hk : KeepsCount moves)
    (hmoves : ∀ m ∈ moves, m.IsPrompt ∧ m.RecyclesFree) : s.retained ≤ 1 ∧ (s.retained = 0 ↔ Lost moves) := by
  induction run with
  | nil =>
    have hstart : (fresh config).retained = 1 := retained_of_none (by simp [chains])
    simp [hstart, Lost]
  | @snoc moves s a s' sig run h ih =>
    have hman' := manned_run (run.snoc h) hk fun m hm => (hmoves m hm).2
    simp only [List.forall_mem_append, List.forall_mem_singleton] at hmoves
    obtain ⟨hle, hlost⟩ := ih hk.left hmoves.1
    have hat := attended_tenure_run run hk.left fun m hm => (hmoves.1 m hm).2
    have hman := manned_run run hk.left fun m hm => (hmoves.1 m hm).2
    have hnb := not_blocking_of_calls run fun m hm t c ha => (hmoves.1 m hm).1.of_call ha
    have hstep := retained_step (numbered_run run) hat hman hman' hle hnb (step_perform h) hmoves.2.1
    have hsince : Lost (moves ++ [⟨s, a, s', sig⟩]) ↔
        (Lost moves ∧ s.renewsPrimary a = false) ∨ s.losesPrimary a = true := exists_since_append_singleton
    rw [hstep, hsince, ← hlost, retainedAfter]
    cases hr : s.renewsPrimary a with
    | true => simp [losesPrimary_of_renews hr]
    | false => cases s.losesPrimary a <;> simp [hle]

/-! ### What is queued -/

/-- Nothing is stored beside a failure, adds are refused only after one, and nothing is stored while the permit is
free. -/
structure Tended (s : System) : Prop where
  failed : s.conn.error ≠ none → s.conn.store.contents = []
  refusals : s.conn.error = none → s.tally .refusals = 0
  idle : s.conn.permit.held = false → s.conn.store.contents = []

theorem tended_fresh (config : Config) : (fresh config).Tended where
  failed h := absurd rfl h
  refusals _ := rfl
  idle _ := rfl

theorem tended_same (ht : s.Tended) (herr : s'.conn.error = s.conn.error)
    (hstore : s'.conn.store.contents = s.conn.store.contents) (hheld : s'.conn.permit.held = s.conn.permit.held)
    (hrefusals : s'.tally .refusals = s.tally .refusals) : s'.Tended :=
  ⟨by rw [herr, hstore]; exact ht.failed, by rw [herr, hrefusals]; exact ht.refusals,
    by rw [hheld, hstore]; exact ht.idle⟩

/-- The permit is held, and there is no failure. -/
theorem tended_held (ht : s.Tended) (hnone : s.conn.error = none) (herr : s'.conn.error = none)
    (hheld : s'.conn.permit.held = true) (hrefusals : s'.tally .refusals = s.tally .refusals) : s'.Tended :=
  ⟨fun h => absurd herr h, fun _ => hrefusals.trans (ht.refusals hnone), fun h => by simp [hheld] at h⟩

/-- Nothing is stored any more. -/
theorem tended_emptied (ht : s.Tended) (hempty : s'.conn.store.contents = []) (herr : s'.conn.error = s.conn.error)
    (hrefusals : s'.tally .refusals ≤ s.tally .refusals) : s'.Tended := by
  refine ⟨fun _ => hempty, fun h => ?_, fun _ => hempty⟩
  rw [ht.refusals (herr ▸ h)] at hrefusals
  exact Multiset.le_zero.1 hrefusals

theorem refusals_of_handsFree (h : s.HandsFree) : s.tally .refusals = 0 := by
  refine Multiset.eq_zero_of_forall_notMem fun err herr => ?_
  obtain ⟨t, f, hf, hmem⟩ := (s.mem_tally_iff (fun _ => rfl) fun _ => rfl).1 herr
  cases f with
  | refusing err' g =>
    have hg : g ∈ s.tally .waiters :=
      (s.mem_tally_iff (fun _ => rfl) fun _ => rfl).2 ⟨t, _, hf, List.mem_singleton_self g⟩
    simp [h.waiters] at hg
  | _ => cases hmem

theorem tended_step (hnum : s.Numbered) (hwf : s.conn.store.WellFormed) (hat : s.Attended)
    (hnb : ∀ f ∈ s.tally .calls, f.isBlocking = false) (ht : s.Tended) (h : Step s a s' sig)
    (hprompt : Move.IsPrompt ⟨s, a, s', sig⟩) (hrecycles : Move.RecyclesFree ⟨s, a, s', sig⟩)
    (hanswered : ∀ w, a ≠ .abandon w) : s'.Tended := by
  have hfresh := hnum.outstanding _ (Nat.le_refl _)
  cases h with
  | addNothing _ _ | addRefused _ _ _ | flushRefused _ _ | flushHeld _ _ _ | registered _ _ | reset _
  | transportPending => exact tended_same ht rfl rfl rfl rfl
  | addBlocking _ _ _ | flushAwaits _ _ _ | flushCollects _ _ _ => simp [Move.IsPrompt, Call.isBlocking] at hprompt
  | addGranted hout hsrc herr hfree => exact tended_held ht herr herr rfl (by simp [tally_push, Frame.refusals])
  | addQueued hout hsrc herr hheld hroom =>
    rw [Connection.queue?_eq_ok hroom]
    exact tended_held ht herr herr hheld rfl
  | addFull hout hsrc herr hheld hroom => exact tended_held ht herr herr hheld (by simp [tally_push, Frame.refusals])
  | flushNothing hout herr hfree htake =>
    refine tended_same ht rfl rfl ?_ rfl
    simp [Permit.release, Permit.isCurrent, Permit.grant, Permit.nextGuard, hfree]
  | flushBegun hout herr hfree htake => exact tended_held ht herr herr rfl (by simp [tally_begin, Frame.refusals])
  | registeredFree hout hfree => exact tended_same ht rfl rfl rfl (by simp [tally_push, Frame.refusals])
  | recycle hout =>
    exact ⟨fun h => absurd rfl h, fun _ => refusals_of_handsFree hrecycles,
      fun _ => (Store.contents_ensurePrimary _).trans (Store.contents_discard _)⟩
  | answered hst | issued hst | roomExpired hst _ | transportReturned hst | notified hst =>
    exact tended_same ht rfl rfl rfl (by simp [tally_pop _ hst, Frame.refusals])
  | driven hst hd => exact tended_same ht rfl rfl rfl (by simp [tally_driven _ hfresh hst hd, Frame.refusals])
  | driveDone hst hd =>
    exact tended_same ht rfl rfl rfl (by simp [tally_driveDone _ hd, tally_pop _ hst, Frame.refusals])
  | carried hst hd =>
    exact tended_same ht rfl rfl rfl (by simp [tally_carried _ hfresh hd, tally_pop _ hst, Frame.refusals])
  | deferred hst hd =>
    exact tended_same ht rfl rfl rfl (by simp [tally_deferred _ hd, tally_pop _ hst, Frame.refusals])
  | startedNothing hst htake =>
    have hempty := contents_of_takeWrite_none hwf htake
    exact tended_emptied ht hempty rfl (by simp [tally_pop _ hst, Frame.refusals])
  | started hst htake =>
    have hempty := (unsent_takeWrite hwf htake).2
    exact tended_emptied ht hempty rfl (by simp [tally_begin, tally_pop _ hst, Frame.refusals])
  | roomMade hst hfree =>
    have hempty := ht.idle hfree
    exact tended_emptied ht hempty rfl (by simp [tally_pop _ hst, tally_replace, Frame.refusals])
  | admittedLate hst herr =>
    have hsome : s.conn.error ≠ none := by simp [herr]
    exact ⟨ht.failed, fun h => absurd h hsome, ht.idle⟩
  | admitted hst herr =>
    have hheld := (Permit.isCurrent_iff.1 (hat.top hst rfl).1).1
    exact tended_held ht herr herr hheld (by simp [tally_pop _ hst, tally_replace, Frame.refusals])
  | @refused t rest err g hst =>
    have hsome : s.conn.error ≠ none := fun hnone => by simpa [tally_pop _ hst, Frame.refusals] using ht.refusals hnone
    exact tended_emptied ht (ht.failed hsome) rfl (by rw [tally_pop _ hst]; exact Multiset.le_add_left _ _)

  | attached hst | told hst | toldFailure hst =>
    exact tended_same ht rfl rfl rfl (by simp [tally_pop _ hst, tally_replace, Frame.refusals])
  | strayEnded hout hw | tripEnded hout hw | chainStale hout hw hset =>
    exact tended_same ht rfl rfl rfl (by simp [tally_endWrite _ hw])
  | chainQuiet hout hw hset | chainTold hout hw hset =>
    obtain ⟨-, -, -, -, -, hempty⟩ := hset.unsent_finished hwf
    exact tended_emptied ht hempty (hset.error (by simp)) (by simp [tally_endWrite _ hw, tally_push, Frame.refusals])
  | chainGoesOn hout hw hset =>
    obtain ⟨-, -, -, -, hempty⟩ := hset.unsent_reissue hwf
    exact tended_emptied ht hempty (hset.error (by simp)) (by simp [tally_endWrite _ hw, tally_push, Frame.refusals])
  | @chainFailed t w outcome write flight conn err hout hw hset =>
    have hempty := hset.contents_failed
    have hsome : conn.error = some err := by cases hset; rfl
    exact ⟨fun _ => hempty, fun hnone => absurd (hsome.symm.trans hnone) (by simp), fun _ => hempty⟩
  | strayForgotten hw | tripForgotten hw | chainForgotten hw => exact absurd rfl (hanswered _)
  | addDone hst _ | absorbed hst _ _ | filledBehind hst _ _ _ | filled hst _ _ _ | chainAwaited hst _ | yielded hst
  | collectedLate hst _ | collected hst _
  | sweptChunk hst _ | sweptPrimary hst _ _ | sweptFlush hst _ _ _ | sweptAdd hst _ _ _ | tripBegun hst _
  | tripsDone hst _ | tripDropped hst _ | tripFailed hst _ _ | tripDone hst _ _ | chainExpired hst _
  | tripExpired hst _ => exact (not_blocking_top hnb hst rfl rfl).elim

/-- The transport answers each write. -/
def Move.IsAnswered (m : Move) : Prop :=
  match m.action with
  | .abandon _ => False
  | _ => True

instance : DecidablePred Move.IsAnswered
  | ⟨_, .abandon _, _, _⟩ => inferInstanceAs (Decidable False)
  | ⟨_, .call _ _, _, _⟩ | ⟨_, .run _, _, _⟩ | ⟨_, .expire _, _, _⟩ | ⟨_, .resume _, _, _⟩
  | ⟨_, .complete _ _ _, _, _⟩ | ⟨_, .transportPending _, _, _⟩ => inferInstanceAs (Decidable True)

theorem Move.IsAnswered.kept {m : Move} (h : m.IsAnswered) (w : WriteId) : m.action ≠ .abandon w := by
  intro ha
  simp [Move.IsAnswered, ha] at h

theorem Move.IsAnswered.keeps (h : Move.IsAnswered ⟨s, a, s', sig⟩) : s.losesPrimary a = false := by
  cases a with
  | abandon w => exact h.elim
  | _ => rfl

theorem tended_run (run : Run (fresh config) moves s) (hk : KeepsCount moves)
    (hmoves : ∀ m ∈ moves, m.IsPrompt ∧ m.RecyclesFree) (hanswered : ∀ m ∈ moves, m.IsAnswered) : s.Tended := by
  induction run with
  | nil => exact tended_fresh config
  | @snoc moves s a s' sig run h ih =>
    simp only [List.forall_mem_append, List.forall_mem_singleton] at hmoves hanswered
    have hat := attended_tenure_run run hk.left fun m hm => (hmoves.1 m hm).2
    have hnb := not_blocking_of_calls run fun m hm t c ha => (hmoves.1 m hm).1.of_call ha
    exact tended_step (numbered_run run) (sound_run run).store.wellFormed hat hnb (ih hk.left hmoves.1 hanswered.1)
      (step_perform h) hmoves.2.1 hmoves.2.2 hanswered.2.kept

/-- The write of the chain in flight, where a frame does not have the permit. -/
theorem exists_chain (hman : s.Manned) (hhands : s.HandsFree) (hheld : s.conn.permit.held = true) :
    ∃ job ∈ s.collect .jobs, s.conn.permit.isCurrent job.flight.guard = true := by
  have hcard : s.chains.card = 1 := by simpa [Manned, hhands.waiters, hheld] using hman
  obtain ⟨job, hone⟩ := Multiset.card_eq_one.1 hcard
  have hmem : job ∈ s.chains := hone ▸ Multiset.mem_singleton_self job
  exact ⟨job, (Multiset.mem_filter.1 hmem).1, (Multiset.mem_filter.1 hmem).2⟩

/-- While the permit is free the primary buffer is there, and nothing is stored. -/
theorem store_of_free (run : Run (fresh config) moves s) (hk : KeepsCount moves)
    (hmoves : ∀ m ∈ moves, m.IsPrompt ∧ m.RecyclesFree) (hanswered : ∀ m ∈ moves, m.IsAnswered)
    (hfree : s.conn.permit.held = false) :
    (∃ p, s.conn.store.primary = some p ∧ p.hasRemaining = false) ∧ s.conn.store.overflow = [] := by
  have hwf := (sound_run run).store.wellFormed
  have hman := manned_run run hk fun m hm => (hmoves m hm).2
  obtain ⟨hle, hlost⟩ := custody_run run hk hmoves
  have hthere : s.conn.store.primaries = 1 := by
    have hkept : ¬ Lost moves := by
      rintro ⟨before, m, after, rfl, hloses, -⟩
      simp [(hanswered m (by simp)).keeps] at hloses
    rw [← hlost, retained_of_none (hman.chains_of_free hfree)] at hkept
    have hone := s.conn.store.primaries_le_one
    omega
  have hquiet := (Store.quiet_iff hwf).2 ⟨hthere, (tended_run run hk hmoves hanswered).idle hfree⟩
  rw [Bool.or_eq_false_iff, Store.hasPending_eq_false_iff] at hquiet
  obtain ⟨hpending, hqueue⟩ := hquiet
  refine ⟨?_, hqueue⟩
  cases hp : s.conn.store.primary with
  | none => simp [Store.primaryPending, hp] at hpending
  | some p => exact ⟨p, rfl, by simpa [Store.primaryPending, hp] using hpending⟩

/-- In a run without blocking calls, as long as the transport answers each write, nothing is stored while the permit is
free, and the primary buffer is there. Whenever something is stored and no call has the permit in hand, a chain is in
flight, and what is stored goes with its next write unless the transport reports a failure. -/
theorem nothing_stranded (run : Run (fresh config) moves s) (hk : KeepsCount moves)
    (hmoves : ∀ m ∈ moves, m.IsPrompt ∧ m.RecyclesFree) (hanswered : ∀ m ∈ moves, m.IsAnswered) :
    (s.conn.permit.held = false →
      (∃ p, s.conn.store.primary = some p ∧ p.hasRemaining = false) ∧ s.conn.store.overflow = []) ∧
    (s.HandsFree → s.conn.store.contents ≠ [] →
      ∃ job ∈ s.collect .jobs, s.conn.permit.isCurrent job.flight.guard = true ∧
        ∀ isInline outcome count conn v, outcome.written = .ok count →
          s.conn.settle job.flight isInline outcome job.write = .ok (conn, v) →
          ∃ next, v = .reissue next ∧ next.unsent = job.write.unsent.drop count ++ s.conn.store.contents) := by
  refine ⟨store_of_free run hk hmoves hanswered, fun hhands hstored => ?_⟩
  have hwf := (sound_run run).store.wellFormed
  have hman := manned_run run hk fun m hm => (hmoves m hm).2
  have hheld : s.conn.permit.held = true := by
    by_contra hfree
    exact hstored ((tended_run run hk hmoves hanswered).idle (by simpa using hfree))
  obtain ⟨job, hjob, hcurrent⟩ := exists_chain hman hhands hheld
  refine ⟨job, hjob, hcurrent, fun isInline outcome count conn v hwritten hsettle => ?_⟩
  obtain ⟨conn', v', heq, hset⟩ := Connection.settle_cases s.conn job.flight isInline outcome job.write
  cases hsettle.symm.trans heq
  exact hset.takes_stored hwf hcurrent hwritten hstored

/-- A byte is at the transport and another one is queued. -/
theorem nothing_stranded_queued : ∃ moves s, Run (fresh {}) moves s ∧ s.conn.store.contents = [98] ∧
    ∃ job ∈ s.collect .jobs, s.conn.permit.isCurrent job.flight.guard = true := by
  obtain ⟨moves, s, run, hfew, hmoves, hanswered, hhands, hstored⟩ := Run.exists_of_follow (fresh {})
    [.call 0 (.add { bytes := ⟨#[97]⟩ } .nonBlocking), .run 0, .run 0, .resume 0, .run 0, .run 0,
      .call 0 (.add { bytes := ⟨#[98]⟩ } .nonBlocking)]
    (P := fun moves s => renewals moves < 2 ^ 64 ∧ (∀ m ∈ moves, m.IsPrompt ∧ m.RecyclesFree) ∧
      (∀ m ∈ moves, m.IsAnswered) ∧ s.HandsFree ∧ s.conn.store.contents = [98]) (by decide +kernel)
  obtain ⟨-, hchain⟩ := nothing_stranded run (.inl hfew) hmoves hanswered
  obtain ⟨job, hjob, hcurrent, -⟩ := hchain hhands (by simp [hstored])
  exact ⟨moves, s, run, hstored, job, hjob, hcurrent⟩

/-! ### What an idle connection says -/

/-- A flush that finds the permit free and nothing to send tells what the connection says anyway. -/
theorem flush_idle (hwf : s.conn.store.WellFormed) (hout : (s.thread t).isOutside = true)
    (hfree : s.conn.permit.held = false) (herr : s.conn.error = none) (hempty : s.conn.store.contents = []) :
    ∃ s', s.perform (.call t (.flush .nonBlocking)) = some (s', some (.replied (.pending s.hasData))) ∧
      s'.hasData = s.hasData ∧ s'.conn.permit.held = false := by
  obtain ⟨-, htake⟩ | ⟨_, w, -, -, -, -, -, hunsent, hw⟩ := Connection.takeWrite_cases hwf
  · have hkept (p : Permit) : (s.setPermit p).conn.takeWrite = (s.conn.store, none) := htake
    refine ⟨s.setPermit (s.conn.permit.grant.release s.conn.permit.nextGuard), ?_, rfl, ?_⟩
    · simp only [perform, hout, if_true, call, herr, flush, Permit.tryAcquire, hfree, Bool.false_eq_true, if_false,
        startChain, hkept]
      rfl
    · simp [Permit.release, Permit.isCurrent, Permit.grant, Permit.nextGuard]
  · exact absurd (hunsent.trans hempty) hw.unsent_ne_nil

/-- In a run without blocking calls a connection that is idle and has no failure says that nothing is left, and so does
a flush, unless the transport forgot the primary buffer. It then says otherwise until the buffer is replaced. -/
theorem idle_report_exact (run : Run (fresh config) moves s) (hk : KeepsCount moves)
    (hmoves : ∀ m ∈ moves, m.IsPrompt ∧ m.RecyclesFree) (hfree : s.conn.permit.held = false)
    (herr : s.conn.error = none) (hpending : s.transportPending = false)
    (hempty : s.conn.store.bufferedBytes = 0) : (s.hasData = false ↔ ¬ Lost moves) ∧
    ∀ t, (s.thread t).isOutside = true →
      ∃ s', s.perform (.call t (.flush .nonBlocking)) = some (s', some (.replied (.pending s.hasData))) ∧
        s'.hasData = s.hasData ∧ s'.conn.permit.held = false := by
  have hwf := (sound_run run).store.wellFormed
  have hnone := (Store.contents_eq_nil_iff hwf).2 hempty
  obtain ⟨hle, hlost⟩ := custody_run run hk hmoves
  have hstore := retained_of_none ((manned_run run hk fun m hm => (hmoves m hm).2).chains_of_free hfree)
  have hreport : s.hasData = (s.conn.store.primaryPending || s.conn.store.hasPending) := by
    simp [hasData, Connection.hasData, hpending, herr]
  refine ⟨?_, fun t hout => flush_idle hwf hout hfree herr hnone⟩
  rw [hreport, Store.quiet_iff hwf, ← hlost, and_iff_left hnone, ← hstore]
  omega

/-- The transport forgets the only write. Each flush finds the permit free and says that something is left. -/
theorem idle_report_exact_forgotten : ∃ moves s, Run (fresh {}) moves s ∧ s.conn.permit.held = false ∧
    s.conn.store.bufferedBytes = 0 ∧ Lost moves ∧ s.hasData = true ∧
    ∃ s', s.perform (.call 0 (.flush .nonBlocking)) = some (s', some (.replied (.pending true))) ∧
      s'.hasData = true := by
  obtain ⟨moves, s, run, hfew, hmoves, ⟨hfree, herr, hpending⟩, hempty, hdata, hout⟩ := Run.exists_of_follow (fresh {})
    [.call 0 (.add { bytes := ⟨#[97]⟩ } .nonBlocking), .run 0, .run 0, .resume 0, .run 0, .run 0, .abandon 0,
      .call 0 (.flush .nonBlocking)]
    (P := fun moves s => renewals moves < 2 ^ 64 ∧ (∀ m ∈ moves, m.IsPrompt ∧ m.RecyclesFree) ∧
      (s.conn.permit.held = false ∧ s.conn.error = none ∧ s.transportPending = false) ∧
      s.conn.store.bufferedBytes = 0 ∧ s.hasData = true ∧ (s.thread 0).isOutside = true) (by decide +kernel)
  obtain ⟨hexact, hflush⟩ := idle_report_exact run (.inl hfew) hmoves hfree herr hpending hempty
  obtain ⟨s', hperform, hdata', -⟩ := hflush 0 hout
  rw [hdata] at hperform hdata'
  have hlost : Lost moves := by
    by_contra hkept
    simp [hexact.2 hkept] at hdata
  exact ⟨moves, s, run, hfree, hempty, hlost, hdata, s', hperform, hdata'⟩

/-- A connection with nothing left goes on saying that something is. -/
theorem idle_report_wrong : ¬ ∀ (config : Config) (moves : List Move) (s : System), Run (fresh config) moves s →
    (∀ m ∈ moves, m.IsPrompt) → s.conn.permit.held = false → s.conn.error = none → s.transportPending = false →
    s.conn.store.bufferedBytes = 0 → s.hasData = false := by
  intro h
  obtain ⟨moves, s, run, hprompt, hfree, herr, hpending, hempty, hdata⟩ := Run.exists_of_follow (fresh {})
    [.call 0 (.add { bytes := ⟨#[97]⟩ } .nonBlocking), .run 0, .run 0, .resume 0, .run 0, .run 0, .abandon 0]
    (P := fun moves s => (∀ m ∈ moves, m.IsPrompt) ∧ s.conn.permit.held = false ∧ s.conn.error = none ∧
      s.transportPending = false ∧ s.conn.store.bufferedBytes = 0 ∧ s.hasData = true) (by decide +kernel)
  simp [h {} moves s run hprompt hfree herr hpending hempty] at hdata

end System

end Outflow
