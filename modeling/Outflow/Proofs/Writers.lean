import Outflow.Proofs.Order

/-! A blocking call that writes has the permit free, as long as no other call is made or goes on meanwhile. So orderly
calls keep their line. -/
namespace Outflow

namespace Frame

/-- The frame waits for the end of the chain in flight. -/
def awaitsPermit : Frame → Bool
  | awaitingRoom _ _ _ | awaitingChain _ => true
  | _ => false

theorem isCall_of_awaitsPermit {f : Frame} (h : f.awaitsPermit = true) : f.isCall = true := by
  cases f <;> first | rfl | simp [awaitsPermit] at h

theorem not_isWriting_of_awaitsPermit {f : Frame} (h : f.awaitsPermit = true) : f.isWriting = false := by
  cases f <;> first | rfl | simp [awaitsPermit] at h

end Frame

namespace System

variable {s s' : System} {a : Action} {sig : Option Signal} {t : ThreadId} {frame frame' : Frame} {rest : List Frame}

/-- No blocking call goes on past a chain in flight because its wait ran out. -/
def Move.IsPatient (m : Move) : Prop :=
  match m.action with
  | .expire t => ∀ f ∈ (m.before.thread t).stack.head?, f.awaitsChain = false
  | _ => True

instance : DecidablePred Move.IsPatient
  | ⟨_, .expire _, _, _⟩ => inferInstanceAs (Decidable (∀ f ∈ _, _ = _))
  | ⟨_, .call _ _, _, _⟩ | ⟨_, .run _, _, _⟩ | ⟨_, .resume _, _, _⟩ | ⟨_, .complete _ _ _, _, _⟩
  | ⟨_, .abandon _, _, _⟩ | ⟨_, .transportPending _, _, _⟩ => inferInstanceAs (Decidable True)

/-- A call is made, or is done waiting for the permit. -/
def Move.proceeds (m : Move) : Bool :=
  match m.action with
  | .call _ _ => true
  | .run t => (m.before.thread t).stack.head?.any Frame.awaitsPermit
  | _ => false

/-- No call is made or goes on inside a transport write of a blocking call. -/
def Move.IsUndisturbed (m : Move) : Prop :=
  (∃ f ∈ m.before.collect .calls, f.isWriting = true) → m.proceeds = false

instance : DecidablePred Move.IsUndisturbed := fun _ => inferInstanceAs (Decidable (_ → _))

/-- A blocking call that writes has the permit free. -/
def Calm (s : System) : Prop := ∀ f ∈ s.tally .calls, f.isWriting = true → s.conn.permit.held = false

theorem calm_fresh (config : Config) : (fresh config).Calm := by
  simp [Calm]

theorem calm_of_not_isWriting (h : ∀ f ∈ s.tally .calls, f.isWriting = false) : s.Calm := by
  intro f hf hw
  simp [h f hf] at hw

theorem calm_same (hc : s.Calm) (hcalls : s'.tally .calls = s.tally .calls)
    (hheld : s'.conn.permit.held = true → s.conn.permit.held = true) : s'.Calm := by
  intro f hf hw
  have := hc f (hcalls ▸ hf) hw
  grind

theorem calm_open (hc : s.Calm) (hf : frame.isCall = true) (hw : frame.isWriting = false) :
    (s.push t frame).Calm := by
  intro f hm hwf
  rw [calls_push _ _ _ hf, Multiset.mem_cons] at hm
  rcases hm with rfl | hm
  · simp [hw] at hwf
  · exact hc f hm hwf

theorem calm_pop (hc : s.Calm) (hst : (s.thread t).stack = frame :: rest)
    (hcalls : s'.tally .calls = (s.setStack t rest).tally .calls)
    (hheld : s'.conn.permit.held = true → s.conn.permit.held = true) : s'.Calm := by
  intro f hf hw
  rw [hcalls] at hf
  have := hc f (tally_pop _ hst ▸ Multiset.mem_add.2 (.inr hf)) hw
  grind

/-- A call writes on, or does something else. -/
theorem calm_next (hc : s.Calm) (hst : (s.thread t).stack = frame :: rest) (hcall : frame.isCall = true)
    (hcalls : s'.tally .calls = frame' ::ₘ (s.setStack t rest).tally .calls)
    (hw : frame'.isWriting = true → frame.isWriting = true)
    (hheld : s'.conn.permit.held = true → s.conn.permit.held = true) : s'.Calm := by
  intro f hf hwf
  have hfree : s.conn.permit.held = false := by
    rw [hcalls, Multiset.mem_cons] at hf
    rcases hf with rfl | hf
    · exact hc frame (calls_pop hst hcall ▸ Multiset.mem_cons_self _ _) (hw hwf)
    · exact hc f (calls_pop hst hcall ▸ Multiset.mem_cons_of_mem hf) hwf
  grind

theorem Move.IsUndisturbed.not_isWriting {m : Move} (h : m.IsUndisturbed) (hm : m.proceeds = true) :
    ∀ f ∈ m.before.tally .calls, f.isWriting = false := by
  intro f hf
  by_contra hw
  simp [h ⟨f, Multiset.mem_coe.1 hf, by simpa using hw⟩] at hm

/-- A call that wants to write has awaited the end of the chain in flight, and gives the permit back for good. -/
theorem calm_step (hnum : s.Numbered) (hc : s.Calm) (h : Step s a s' sig) (hpatient : Move.IsPatient ⟨s, a, s', sig⟩)
    (hund : Move.IsUndisturbed ⟨s, a, s', sig⟩)
    (hyield : ∀ t rest goal g, (s.thread t).stack = .yielding goal g :: rest → (s.conn.permit.release g).held = false) :
    s'.Calm := by
  have hfresh := hnum.outstanding _ (Nat.le_refl _)
  have hsettled {f : Flight} {isInline : Bool} {outcome : Outcome} {write : Write} {c' : Connection} {v : Verdict}
      (hset : s.conn.Settled f isInline outcome write c' v) :
      c'.permit.held = true → s.conn.permit.held = true := by
    rw [hset.permit]
    cases v with
    | reissue _ => exact id
    | stale | finished _ | failed _ => exact held_of_release
  cases h with
  | addGranted _ _ _ _ =>
    refine calm_of_not_isWriting ?_
    rw [calls_push _ _ _ rfl, Multiset.forall_mem_cons]
    exact ⟨rfl, hund.not_isWriting rfl⟩
  | flushBegun _ _ _ _ =>
    refine calm_of_not_isWriting ?_
    rw [calls_begin, Multiset.forall_mem_cons]
    exact ⟨rfl, hund.not_isWriting rfl⟩
  | roomMade hst hfree | chainAwaited hst hfree =>
    have hnone := hund.not_isWriting (by simp [Move.proceeds, hst, Frame.awaitsPermit])
    refine calm_of_not_isWriting ?_
    rw [setPermit_eq, tally_setConn, calls_replace _ _ _ _ rfl, Multiset.forall_mem_cons]
    exact ⟨rfl, fun f hf => hnone f (calls_pop hst rfl ▸ Multiset.mem_cons_of_mem hf)⟩
  | @chainExpired t rest goal hst hheld =>
    have hawaits := hpatient (.awaitingChain goal) (by simp [hst])
    simp [Frame.awaitsChain] at hawaits
  | flushCollects hout herr hfree => exact fun _ _ _ => hfree
  | filled hst hsrc habs hfree => exact fun _ _ _ => hfree
  | yielded hst => exact fun _ _ _ => hyield _ _ _ _ hst
  | recycle hout => exact fun _ _ _ => rfl
  | addQueued hout hsrc herr hheld hroom =>
    rw [Connection.queue?_eq_ok hroom]
    exact hc
  | flushNothing hout herr hfree htake =>
    refine calm_same hc rfl fun hheld => ?_
    simp [Permit.release, Permit.isCurrent, Permit.grant, Permit.nextGuard] at hheld
  | addBlocking _ _ _ | addFull _ _ _ _ _ | flushAwaits _ _ _ =>
    exact calm_open hc rfl rfl
  | @registeredFree t hout hfree => exact fun _ _ _ => hfree
  | answered hst | issued hst | addDone hst _ | collectedLate hst _ | sweptFlush hst _ _ _ | tripDropped hst _
  | tripFailed hst _ _ | roomExpired hst _ | tripExpired hst _ | transportReturned hst | notified hst =>
    exact calm_pop hc hst (by simp) id
  | startedNothing hst _ | refused hst => exact calm_pop hc hst rfl held_of_release
  | started hst htake =>
    exact calm_next hc hst rfl (calls_begin _ _ _ _ _ _) (by simp [Frame.isWriting]) id
  | absorbed hst _ _ | filledBehind hst _ _ _ | admittedLate hst _ | admitted hst _ | collected hst _
  | sweptChunk hst _ | sweptPrimary hst _ _ | sweptAdd hst _ _ _ | tripsDone hst _ | tripDone hst _ _ =>
    exact calm_next hc hst rfl (calls_replace _ _ _ _ rfl) (by simp [Frame.isWriting]) id
  | tripBegun hst hbuf => exact calm_next hc hst rfl (calls_trip hnum _ _ _ _) (by simp [Frame.isWriting]) id
  | attached hst | told hst | toldFailure hst => exact calm_pop hc hst (by simp [tally_replace, Frame.isCall]) id
  | driven hst hd => exact calm_same hc (by simp [tally_driven _ hfresh hst hd, Frame.isCall]) id
  | carried hst hd => exact calm_pop hc hst (by simp [tally_carried _ hfresh hd, Frame.isCall]) id
  | deferred hst hd => exact calm_pop hc hst (by simp [tally_deferred _ hd]) id
  | driveDone hst hd => exact calm_pop hc hst (by simp [tally_driveDone _ hd]) id
  | strayEnded _ hw | tripEnded _ hw | strayForgotten hw | tripForgotten hw =>
    exact calm_same hc (by simp [tally_endWrite _ hw]) id
  | chainForgotten hw => exact calm_same hc (by simp [tally_endWrite _ hw]) held_of_release
  | chainStale hout hw hset | chainQuiet hout hw hset | chainTold hout hw hset | chainGoesOn hout hw hset
  | chainFailed hout hw hset =>
    exact calm_same hc (by simp [tally_endWrite _ hw, tally_push, Frame.isCall]) (hsettled hset)
  | addNothing _ _ | addRefused _ _ _ | flushRefused _ _ | flushHeld _ _ _ | registered _ _ | reset _
  | transportPending => exact hc

theorem Move.IsOrderly.isPatient {m : Move} (h : m.IsOrderly) : m.IsPatient := by
  obtain ⟨before, action, after, signal⟩ := m
  cases action with
  | expire t => exact h
  | _ => trivial

/-- Beside a blocking call no call is made, and there is none that could go on. -/
theorem Move.IsOrderly.isUndisturbed (h : Move.IsOrderly ⟨s, a, s', sig⟩) (hex : Exclusive (s.tally .calls)) :
    Move.IsUndisturbed ⟨s, a, s', sig⟩ := by
  rintro ⟨f, hf, hw⟩
  have hb := Frame.isBlocking_of_isWriting hw
  cases a with
  | call t c =>
    have hnot := (h f hf).2
    simp [hb] at hnot
  | run t =>
    cases hst : (s.thread t).stack with
    | nil => simp [proceeds, hst]
    | cons g rest =>
      cases hg : g.awaitsPermit with
      | false => simp [proceeds, hst, hg]
      | true =>
        have hmem : g ∈ s.tally .calls := calls_pop hst (Frame.isCall_of_awaitsPermit hg) ▸ Multiset.mem_cons_self _ _
        obtain rfl : g = f := by simpa [hex f hf hb] using hmem
        simp [Frame.not_isWriting_of_awaitsPermit hg] at hw
  | _ => rfl

theorem lined_step (hnum : s.Numbered) (hwf : s.conn.store.WellFormed)
    (hsole : Permit.Sole s.conn.permit (s.tally .guards))
    (hl : Lined s.conn.permit.held s.conn.store (s.tally .calls)) (h : Step s a s' sig)
    (hord : Move.IsOrderly ⟨s, a, s', sig⟩) : Lined s'.conn.permit.held s'.conn.store (s'.tally .calls) where
  exclusive := exclusive_step hnum hl.exclusive h hord
  calm := calm_step hnum hl.calm h hord.isPatient (hord.isUndisturbed hl.exclusive) fun _ _ _ _ hst =>
    held_release_of_sole hsole hst (List.mem_singleton_self _)
  clear := clear_step hnum hwf hl.exclusive hl.clear h

end System

end Outflow
