import Outflow.Proofs.Handover

/-! A blocking call whose wait ran out overtakes the chain in flight, and its bytes go to the transport behind a write
that is not answered yet. They stay in order as long as that write is accepted whole. -/
namespace Outflow

/-- A blocking call that is about to hand a write over. -/
def Frame.isHanding : Frame → Bool
  | writing buf _ => buf.hasRemaining
  | _ => false

section Ranked

variable {held held' : Bool} {store store' : Store} {C C' : Multiset Frame} {f f' : Frame}

/-- Nothing is stored behind a call that writes out what was. -/
def Swept (store : Store) (C : Multiset Frame) : Prop := ∀ f ∈ C, f.isSweeping = true → store.contents = []

theorem swept_of_contents (h : store.contents = []) : Swept store C := fun _ _ _ => h

theorem swept_single (h : f.isSweeping = true → store.contents = []) : Swept store (f ::ₘ 0) := by
  simpa [Swept] using h

/-- There is one call at a time. Nothing gets before bytes in the primary buffer, and nothing is stored behind a call
that writes out what was. -/
structure Ranked (held : Bool) (store : Store) (C : Multiset Frame) : Prop where
  single : C.card ≤ 1
  clear : Clear held store C
  swept : ∀ f ∈ C, f.isSweeping = true → store.contents = []

theorem Ranked.alone (h : Ranked held store (f ::ₘ C)) : C = 0 := by
  have hcard := h.single
  rw [Multiset.card_cons] at hcard
  exact Multiset.card_eq_zero.1 (by omega)

theorem Ranked.eq_single (h : Ranked held store C) (hf : f ∈ C) : C = f ::ₘ 0 := by
  obtain ⟨C', rfl⟩ := Multiset.exists_cons_of_mem hf
  rw [h.alone]

theorem Ranked.exclusive (h : Ranked held store C) : Exclusive C := fun _ hf _ => h.eq_single hf

theorem Ranked.contents_eq_nil (h : Ranked held store (f ::ₘ C)) (hf : f.isSweeping = true) : store.contents = [] :=
  h.swept f (Multiset.mem_cons_self f C) hf

end Ranked

namespace System

variable {config : Config} {s s' : System} {moves : List Move} {a : Action} {sig : Option Signal} {t : ThreadId}
  {frame : Frame} {rest : List Frame}

/-- One call at a time makes one frame at a time. -/
theorem single_step (hnum : s.Numbered) (hone : (s.tally .calls).card ≤ 1) (h : Step s a s' sig)
    (hseq : Move.IsSequential ⟨s, a, s', sig⟩) : (s'.tally .calls).card ≤ 1 := by
  cases advanced_step hnum h with
  | same hcalls => exact hcalls ▸ hone
  | begun ha hf hcalls => simp [hcalls, (hseq.resting ha).tally_calls]
  | goesOn hf hC hcalls =>
    rw [hC] at hone
    simpa [hcalls] using hone
  | ended hC hcalls =>
    rw [hC, Multiset.card_cons] at hone
    rw [hcalls]
    omega

theorem swept_step (hnum : s.Numbered) (hwf : s.conn.store.WellFormed)
    (hr : Ranked s.conn.permit.held s.conn.store (s.tally .calls)) (h : Step s a s' sig)
    (hseq : Move.IsSequential ⟨s, a, s', sig⟩) : Swept s'.conn.store (s'.tally .calls) := by
  have hfresh := hnum.outstanding _ (Nat.le_refl _)
  have hswept : Swept s.conn.store (s.tally .calls) := hr.swept
  have hbelow {t f rest} (hst : (s.thread t).stack = f :: rest) (hf : f.isCall = true) :
      (s.setStack t rest).tally .calls = 0 := Ranked.alone (calls_pop hst hf ▸ hr)
  have hopen {t c f} (ha : a = .call t c) {store : Store} {C : Multiset Frame} (hC : C = f ::ₘ s.tally .calls)
      (hf : f.isSweeping = false) : Swept store C := by
    rw [hC, (hseq.resting ha).tally_calls]
    exact swept_single fun hs => by simp [hf] at hs
  have hnext {t f f' rest} (hst : (s.thread t).stack = f :: rest) (hf : f.isCall = true) {store : Store}
      {C : Multiset Frame} (hC : C = f' ::ₘ (s.setStack t rest).tally .calls)
      (hs : f'.isSweeping = true → store.contents = []) : Swept store C := by
    rw [hC, hbelow hst hf]
    exact swept_single hs
  have hnil {t f rest} (hst : (s.thread t).stack = f :: rest) (hf : f.isCall = true) (hs : f.isSweeping = true) :
      s.conn.store.contents = [] := (calls_pop hst hf ▸ hr).contents_eq_nil hs
  cases h with
  | addNothing _ _ | addRefused _ _ _ | flushRefused _ _ | flushHeld _ _ _ | flushNothing _ _ _ _ | registered _ _
  | reset _ | transportPending => exact hswept
  | addQueued _ _ _ _ _ =>
    have hnone : s.tally .calls = 0 := (hseq.resting rfl).tally_calls
    simp [Swept, hnone]
  | addBlocking _ _ _ | addGranted _ _ _ _ | addFull _ _ _ _ _ | flushAwaits _ _ _ | flushCollects _ _ _ =>
    exact hopen rfl (calls_push _ _ _ rfl) rfl
  | flushBegun _ _ _ _ => exact hopen rfl (calls_begin _ _ _ _ _ _) rfl
  | registeredFree _ _ => exact hopen (f := .answering .done) rfl (by simp [tally_push, Frame.isCall]) rfl
  | recycle _ => exact swept_of_contents (by simp [Connection.recycle])
  | answered hst | issued hst | addDone hst _ | collectedLate hst _ | roomExpired hst _ | sweptFlush hst _ _ _
  | startedNothing hst _ | refused hst | tripDropped hst _ | tripFailed hst _ _ | tripExpired hst _ =>
    simp [Swept, hbelow hst rfl]
  | started hst _ => exact hnext hst rfl (calls_begin _ _ _ _ _ _) (by simp [Frame.isSweeping])
  | absorbed hst _ _ | filledBehind hst _ _ _ | filled hst _ _ _ | roomMade hst _ | admittedLate hst _
  | admitted hst _ | chainAwaited hst _ | yielded hst | chainExpired hst _ | sweptAdd hst _ _ _ =>
    exact hnext hst rfl (calls_replace _ _ _ _ rfl) (by simp [Frame.isSweeping])
  | collected hst _ => exact swept_of_contents (Store.contents_swept _)
  | sweptChunk hst _ | sweptPrimary hst _ _ | tripDone hst _ _ | tripBegun hst _ =>
    exact swept_of_contents (hnil hst rfl rfl)
  | tripsDone hst hbuf => exact swept_of_contents ((Store.contents_reclaim hbuf).trans (hnil hst rfl rfl))
  | driven hst hd => simpa [tally_driven _ hfresh hst hd, Frame.isCall] using hswept
  | driveDone hst hd => simpa [tally_driveDone _ hd, tally_pop _ hst, Frame.isCall] using hswept
  | carried hst hd => simpa [tally_carried _ hfresh hd, tally_pop _ hst, Frame.isCall] using hswept
  | deferred hst hd => simpa [tally_deferred _ hd, tally_pop _ hst, Frame.isCall] using hswept
  | transportReturned hst | notified hst => simpa [tally_pop _ hst, Frame.isCall] using hswept
  | attached hst | told hst | toldFailure hst => simpa [tally_pop _ hst, tally_replace, Frame.isCall] using hswept
  | strayEnded _ hw | tripEnded _ hw | chainStale _ hw _ | strayForgotten hw | tripForgotten hw | chainForgotten hw =>
    simpa [tally_endWrite _ hw] using hswept
  | chainQuiet _ _ hset | chainTold _ _ hset =>
    obtain ⟨-, -, -, -, -, hempty⟩ := hset.unsent_finished hwf
    exact swept_of_contents hempty
  | chainGoesOn _ _ hset =>
    obtain ⟨-, -, -, -, hempty⟩ := hset.unsent_reissue hwf
    exact swept_of_contents hempty
  | chainFailed _ _ hset => exact swept_of_contents hset.contents_failed

theorem ranked_step (hnum : s.Numbered) (hwf : s.conn.store.WellFormed)
    (hr : Ranked s.conn.permit.held s.conn.store (s.tally .calls)) (h : Step s a s' sig)
    (hseq : Move.IsSequential ⟨s, a, s', sig⟩) : Ranked s'.conn.permit.held s'.conn.store (s'.tally .calls) where
  single := single_step hnum hr.single h hseq
  clear := clear_step hnum hwf hr.exclusive hr.clear h
  swept := swept_step hnum hwf hr h hseq

/-! ### The write that a blocking call waits for -/

/-- A blocking call does not hand a write over while one of a chain waits to be handed over. -/
def Move.IsInTurn (m : Move) : Prop :=
  match m.action with
  | .run t => ∀ f ∈ (m.before.thread t).stack.head?, f.isHanding = true →
      m.before.threads.collect Tally.jobs.ofThread = []
  | _ => True

/-- A write after which another one was handed over is accepted whole. -/
def Move.IsWhole (m : Move) : Prop :=
  match m.action with
  | .complete _ w outcome => w + 1 < m.before.nextWrite →
      ∀ h ∈ m.before.outstanding.find? w, h.write.unsent.length ≤ outcome.count
  | _ => True

/-- Writes end with a count, those of blocking calls too. -/
def Move.Succeeds (m : Move) : Prop :=
  match m.action with
  | .complete _ _ outcome => outcome.succeeds = true
  | _ => True

instance : DecidablePred Move.IsInTurn
  | ⟨_, .run _, _, _⟩ => inferInstanceAs (Decidable (∀ f ∈ _, _ = _ → _ = []))
  | ⟨_, .call _ _, _, _⟩ | ⟨_, .expire _, _, _⟩ | ⟨_, .resume _, _, _⟩ | ⟨_, .complete _ _ _, _, _⟩
  | ⟨_, .abandon _, _, _⟩ | ⟨_, .transportPending _, _, _⟩ => inferInstanceAs (Decidable True)

instance : DecidablePred Move.IsWhole
  | ⟨_, .complete _ _ _, _, _⟩ => inferInstanceAs (Decidable (_ < _ → ∀ h ∈ _, _ ≤ _))
  | ⟨_, .call _ _, _, _⟩ | ⟨_, .run _, _, _⟩ | ⟨_, .expire _, _, _⟩ | ⟨_, .resume _, _, _⟩
  | ⟨_, .abandon _, _, _⟩ | ⟨_, .transportPending _, _, _⟩ => inferInstanceAs (Decidable True)

instance : DecidablePred Move.Succeeds
  | ⟨_, .complete _ _ _, _, _⟩ => inferInstanceAs (Decidable (_ = _))
  | ⟨_, .call _ _, _, _⟩ | ⟨_, .run _, _, _⟩ | ⟨_, .expire _, _, _⟩ | ⟨_, .resume _, _, _⟩
  | ⟨_, .abandon _, _, _⟩ | ⟨_, .transportPending _, _, _⟩ => inferInstanceAs (Decidable True)

theorem Move.IsInTurn.aboard_jobs (h : Move.IsInTurn ⟨s, .run t, s', sig⟩)
    (hst : (s.thread t).stack = frame :: rest) (hf : frame.isHanding = true) : s.aboard .jobs = 0 :=
  (Multiset.coe_eq_zero _).2 (h frame (by simp [hst]) hf)

theorem Move.IsWhole.drop_eq_nil {w : WriteId} {outcome : Outcome} {h : Handed}
    (hwhole : Move.IsWhole ⟨s, .complete t w outcome, s', sig⟩) (hw : s.outstanding.find? w = some h)
    (hlater : w + 1 < s.nextWrite) : h.write.unsent.drop outcome.count = [] :=
  List.drop_eq_nil_of_le (hwhole hlater h hw)

/-- Write `w` is a round trip and was handed over last, and nothing of a chain waits to be handed over. -/
structure Rearmost (s : System) (w : WriteId) : Prop where
  last : w + 1 = s.nextWrite
  trip : ∀ write flight, s.outstanding.find? w ≠ some (.chain write flight)
  bare : s.aboard .jobs = 0

/-- A blocking call that waits for an answer waits for the rearmost write. -/
def Latest (s : System) : Prop := ∀ w sweep, .awaitingReply w sweep ∈ s.tally .calls → s.Rearmost w

theorem latest_none (hcalls : s.tally .calls = 0) : s.Latest := by
  intro w sweep hm
  simp [hcalls] at hm

theorem latest_single (hcalls : s.tally .calls = frame ::ₘ 0) (hf : frame.awaitsReply = false) : s.Latest := by
  intro w sweep hm
  obtain rfl : .awaitingReply w sweep = frame := by simpa [hcalls] using hm
  simp [Frame.awaitsReply] at hf

theorem latest_next {held : Bool} {store : Store} {C : Multiset Frame} {f f' : Frame}
    (hr : Ranked held store (f ::ₘ C)) (hcalls : s.tally .calls = f' ::ₘ C) (hf : f'.awaitsReply = false) :
    s.Latest :=
  latest_single (hr.alone ▸ hcalls) hf

/-- Nothing is handed over, and no write of a chain comes on board. -/
theorem latest_same (hl : s.Latest) (hcalls : s'.tally .calls = s.tally .calls) (hnext : s'.nextWrite = s.nextWrite)
    (hchain : ∀ w write flight, s'.outstanding.find? w = some (.chain write flight) →
      s.outstanding.find? w = some (.chain write flight))
    (hjobs : s'.aboard .jobs = s.aboard .jobs) : s'.Latest := by
  intro w sweep hm
  obtain ⟨hlast, htrip, hbare⟩ := hl w sweep (hcalls ▸ hm)
  exact ⟨hlast.trans hnext.symm, fun write flight hw => htrip write flight (hchain w write flight hw),
    hjobs.trans hbare⟩

/-- A chain that a blocking call has gone past has nothing left when its write is accepted whole. -/
theorem not_goesOn {capacity : Nat} (hsound : s.Sound capacity)
    (hr : Ranked s.conn.permit.held s.conn.store (s.tally .calls)) {w v : WriteId} {write next : Write}
    {flight : Flight} {isInline : Bool} {outcome : Outcome} {conn : Connection} {sweep : Sweep}
    (hw : s.outstanding.find? w = some (.chain write flight))
    (hset : s.conn.Settled flight isInline outcome write conn (.reissue next))
    (hwaits : .awaitingReply v sweep ∈ s.tally .calls) (hlater : w + 1 < s.nextWrite)
    (hwhole : Move.IsWhole ⟨s, .complete t w outcome, s', sig⟩) : False := by
  have hwf := hsound.store.wellFormed
  have hdrop : write.unsent.drop outcome.count = [] := hwhole.drop_eq_nil hw hlater
  obtain ⟨count, hok, -, hnext, -⟩ := hset.unsent_reissue hwf
  rw [Outcome.written_eq_ok hok] at hdrop
  have hwrite : write.WellFormed s.conn.store.capacity := hsound.store.size ▸ hsound.outstanding w _ hw
  refine (hset.next hwf hwrite).unsent_ne_nil ?_
  rw [hnext, hdrop, hr.swept _ hwaits rfl]
  rfl

theorem latest_step {capacity : Nat} (hnum : s.Numbered) (hsound : s.Sound capacity)
    (hr : Ranked s.conn.permit.held s.conn.store (s.tally .calls)) (hl : s.Latest) (h : Step s a s' sig)
    (hfaith : Move.IsFaithful ⟨s, a, s', sig⟩) (hseq : Move.IsSequential ⟨s, a, s', sig⟩)
    (hturn : Move.IsInTurn ⟨s, a, s', sig⟩) (hwhole : Move.IsWhole ⟨s, a, s', sig⟩) : s'.Latest := by
  have hfresh := hnum.outstanding _ (Nat.le_refl _)
  have hopen {t c f} (ha : a = .call t c) (hC : s'.tally .calls = f ::ₘ s.tally .calls)
      (hf : f.awaitsReply = false) : s'.Latest :=
    latest_single ((hseq.resting ha).tally_calls ▸ hC) hf
  cases h with
  | addNothing _ _ | addRefused _ _ _ | addQueued _ _ _ _ _ | flushRefused _ _ | flushHeld _ _ _
  | flushNothing _ _ _ _ | registered _ _ | reset _ | recycle _ | transportPending =>
    exact latest_same hl rfl rfl (fun _ _ _ hw => hw) rfl
  | addBlocking _ _ _ | addGranted _ _ _ _ | addFull _ _ _ _ _ | flushAwaits _ _ _ | flushCollects _ _ _ =>
    exact hopen rfl (calls_push _ _ _ rfl) rfl
  | flushBegun _ _ _ _ => exact hopen rfl (calls_begin _ _ _ _ _ _) rfl
  | registeredFree hout hfree =>
    refine hopen (f := .answering .done) rfl ?_ rfl
    simp [tally_push, Frame.isCall]
  | answered hst | issued hst | addDone hst _ | collectedLate hst _ | roomExpired hst _ | sweptFlush hst _ _ _
  | startedNothing hst _ | refused hst | tripDropped hst _ | tripFailed hst _ _ =>
    rw [calls_pop hst rfl] at hr
    exact latest_none hr.alone
  | tripExpired hst hans => exact absurd hst (hfaith.not_awaitingReply _ _ _)
  | started hst htake =>
    rw [calls_pop hst rfl] at hr
    exact latest_next hr (calls_begin _ _ _ _ _ _) rfl
  | absorbed hst _ _ | filledBehind hst _ _ _ | filled hst _ _ _ | roomMade hst _ | admittedLate hst _
  | admitted hst _ | chainAwaited hst _ | yielded hst | collected hst _ | sweptChunk hst _ | sweptPrimary hst _ _
  | sweptAdd hst _ _ _ | tripsDone hst _ | chainExpired hst _ | tripDone hst _ _ =>
    rw [calls_pop hst rfl] at hr
    exact latest_next hr (calls_replace _ _ _ _ rfl) rfl
  | @tripBegun t rest buf sweep hst hbuf =>
    have hcalls : ((s.setStack t (.awaitingReply s.nextWrite sweep :: rest)).handOver t (.trip buf)).1.tally .calls
        = .awaitingReply s.nextWrite sweep ::ₘ (s.setStack t rest).tally .calls := by
      simp [tally_trip _ hfresh, Frame.isCall]
    have hnone := hturn.aboard_jobs hst hbuf
    rw [calls_pop hst rfl] at hr
    rw [hr.alone] at hcalls
    intro w sweep' hm
    obtain ⟨rfl, rfl⟩ : w = s.nextWrite ∧ sweep' = sweep := by simpa [hcalls] using hm
    refine ⟨rfl, by simp [Table.find?_set], ?_⟩
    rw [aboard_pop _ hst] at hnone
    simpa [aboard_handOver, aboard_replace, Frame.jobs] using hnone
  | @driven t rest job queue hst hd =>
    intro w sweep hm
    have hbare := (hl w sweep (by simpa [tally_driven _ hfresh hst hd, Frame.isCall] using hm)).bare
    have hcard := congrArg Multiset.card (aboard_driven .jobs hst hd)
    simp [hbare, Frame.jobs] at hcard
  | @carried t rest job hst hd =>
    intro w sweep hm
    have hbare := (hl w sweep (by simpa [tally_carried _ hfresh hd, tally_pop _ hst, Frame.isCall] using hm)).bare
    simp [aboard_pop _ hst, Frame.jobs] at hbare
  | driveDone hst hd =>
    refine latest_same hl ?_ rfl (fun _ _ _ hw => hw) ?_
    · simp [tally_driveDone _ hd, tally_pop _ hst, Frame.isCall]
    · simp [aboard_driveDone _ hd, aboard_pop _ hst, Frame.jobs]
  | deferred hst hd =>
    refine latest_same hl ?_ rfl (fun _ _ _ hw => hw) ?_
    · simp [tally_deferred _ hd, tally_pop _ hst, Frame.isCall]
    · simp [aboard_deferred _ hd, aboard_pop _ hst, Frame.jobs]
  | transportReturned hst | notified hst =>
    refine latest_same hl ?_ rfl (fun _ _ _ hw => hw) ?_
    · simp [tally_pop _ hst, Frame.isCall]
    · simp [aboard_pop _ hst, Frame.jobs]
  | attached hst | told hst | toldFailure hst =>
    refine latest_same hl ?_ rfl (fun _ _ _ hw => hw) ?_
    · simp [tally_pop _ hst, tally_replace, Frame.isCall]
    · simp [aboard_pop _ hst, aboard_replace, Frame.jobs]
  | strayEnded hout hw | tripEnded hout hw | chainStale hout hw hset | chainQuiet hout hw hset =>
    refine latest_same hl ?_ rfl (fun _ _ _ hv => Table.find?_of_erase _ _ hv) (by simp)
    simp [tally_endWrite _ hw]
  | chainTold hout hw hset =>
    refine latest_same hl ?_ rfl (fun _ _ _ hv => Table.find?_of_erase _ _ hv) ?_
    · simp [tally_endWrite _ hw, tally_push, Frame.isCall]
    · simp [aboard_push, Frame.jobs]
  | @chainGoesOn t w outcome write flight conn next hout hw hset =>
    -- A call that waits for an answer has gone past this chain, which then has nothing left.
    intro v sweep hm
    have hwaits : .awaitingReply v sweep ∈ s.tally .calls := by
      simpa [tally_endWrite _ hw, tally_push, Frame.isCall] using hm
    obtain ⟨hlast, htrip, -⟩ := hl v sweep hwaits
    have hlt := hnum.lt_nextWrite hw
    have hne : w ≠ v := by
      rintro rfl
      exact htrip write flight hw
    have hlater : w + 1 < s.nextWrite := by
      rw [← hlast] at hlt ⊢
      exact Nat.succ_lt_succ (Nat.lt_of_le_of_ne (Nat.le_of_lt_succ hlt) hne)
    exact (not_goesOn hsound hr hw hset hwaits hlater hwhole).elim
  | chainFailed hout hw hset =>
    have hs := hfaith.succeeds hw
    simp [Outcome.not_succeeds hset.written_failed] at hs
  | strayForgotten hw | tripForgotten hw | chainForgotten hw => exact hfaith.elim

/-! ### Runs -/

theorem ranked_run (run : Run (fresh config) moves s) (hseq : ∀ m ∈ moves, m.IsSequential) :
    Ranked s.conn.permit.held s.conn.store (s.tally .calls) := by
  induction run with
  | nil => exact ⟨by simp, clear_of_front rfl, by simp⟩
  | snoc run h ih =>
    simp only [List.forall_mem_append, List.forall_mem_singleton] at hseq
    exact ranked_step (numbered_run run) (sound_run run).store.wellFormed (ih hseq.1) (step_perform h) hseq.2

theorem latest_run (run : Run (fresh config) moves s) (hfaith : ∀ m ∈ moves, m.IsFaithful)
    (hseq : ∀ m ∈ moves, m.IsSequential) (hturn : ∀ m ∈ moves, m.IsInTurn) (hwhole : ∀ m ∈ moves, m.IsWhole) :
    s.Latest := by
  induction run with
  | nil => exact latest_none rfl
  | snoc run h ih =>
    simp only [List.forall_mem_append, List.forall_mem_singleton] at hfaith hseq hturn hwhole
    exact latest_step (numbered_run run) (sound_run run) (ranked_run run hseq.1)
      (ih hfaith.1 hseq.1 hturn.1 hwhole.1) (step_perform h) hfaith.2 hseq.2 hturn.2 hwhole.2

end System

end Outflow
