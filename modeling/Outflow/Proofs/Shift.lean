import Outflow.Proofs.Writers

/-! What the steps that leave the transport alone do to bytes: they go from a call to the store, from there to a call
that writes them out, or into the first write of a chain. -/
namespace Outflow

/-- The frames that hold the permit without a write. -/
def Frame.holders : Frame → List Guard
  | starting _ g | admitted _ g | refusing _ g | yielding _ g => [g]
  | _ => []

@[simps]
def Tally.waiters : Tally Guard where
  ofFrame := Frame.holders
  ofJob _ := []
  ofTrip _ := []

namespace System

variable {s s' : System} {a : Action} {sig : Option Signal} {t : ThreadId} {f f' : Frame} {rest : List Frame}

/-! ### Chains -/

/-- The guards in circulation are with frames or with the writes of chains. -/
theorem guards_eq_waiters_add_jobs (s : System) :
    s.tally .guards = s.tally .waiters + (s.tally .jobs).map fun job => job.flight.guard := by
  rw [← tally_map]
  refine tally_add s (fun f => ?_) (by simp [Tally.map]) (by simp [Tally.map])
  cases f <;> simp [Tally.map, Frame.guards, Frame.holders, Frame.jobs]

theorem jobs_le_guards (s : System) : (s.tally .jobs).map (fun job => job.flight.guard) ≤ s.tally .guards := by
  rw [guards_eq_waiters_add_jobs]
  exact Multiset.le_add_left _ _

theorem jobs_eq_zero_of_guards (h : s.tally .guards = 0) : s.tally .jobs = 0 := by
  have hle := s.jobs_le_guards
  rw [h, Multiset.le_zero, Multiset.map_eq_zero] at hle
  exact hle

/-- A frame that holds the permit leaves none to the writes of chains. -/
theorem jobs_eq_zero_of_holder (hsole : Permit.Sole s.conn.permit (s.tally .guards)) {frame : Frame}
    {rest : List Frame} {g : Guard} (hst : (s.thread t).stack = frame :: rest) (hg : frame.guards = [g]) :
    (s.setStack t rest).tally .jobs = 0 := by
  refine jobs_eq_zero_of_guards (Multiset.card_eq_zero.1 ?_)
  have hcard := congrArg Multiset.card ((tally_pop _ hst).symm.trans hsole)
  simp only [Tally.guards_ofFrame, hg, Multiset.card_add, Multiset.coe_card, List.length_singleton] at hcard
  have hle : (if s.conn.permit.held then {⟨s.conn.permit.generation⟩} else 0 : Multiset Guard).card ≤ 1 := by
    split <;> simp
  omega

theorem jobs_eq_zero (hsole : Permit.Sole s.conn.permit (s.tally .guards)) (hfree : s.conn.permit.held = false) :
    s.tally .jobs = 0 := by
  refine jobs_eq_zero_of_guards ?_
  simpa [Permit.Sole, hfree] using hsole

theorem held_of_mem_jobs (hsole : Permit.Sole s.conn.permit (s.tally .guards)) {job : Job}
    (hm : job ∈ s.tally .jobs) : s.conn.permit.held = true := by
  by_contra hfree
  rw [jobs_eq_zero hsole (by simpa using hfree)] at hm
  simp at hm

theorem card_jobs_le (hsole : Permit.Sole s.conn.permit (s.tally .guards)) : (s.tally .jobs).card ≤ 1 := by
  have hle := Multiset.card_le_card s.jobs_le_guards
  rw [Multiset.card_map, hsole] at hle
  split at hle
  · simpa using hle
  · exact hle.trans (by simp)

theorem aboard_eq_zero {β : Type} {k : Tally β} (h : s.tally k = 0) : s.aboard k = 0 := by
  rw [tally_eq_aboard] at h
  exact Multiset.le_zero.1 (h ▸ Multiset.le_add_right _ _)

/-! ### Shifts -/

/-- What a blocking call has still to hand over, in its order. -/
def restOf (s : System) : Frame → List UInt8
  | .sweeping sweep => sweep.unsent
  | .writing buf sweep => buf.unsent ++ sweep.unsent
  | .awaitingReply w sweep => (s.answers.find? w).elim [] Answer.left ++ sweep.unsent
  | _ => []

theorem restOf_eq_nil {f : Frame} (hf : f.isSweeping = false) : s.restOf f = [] := by
  cases f <;> first | rfl | simp [Frame.isSweeping] at hf

/-- The call does not wait for a write that is at the transport. -/
def HasLanded (s : System) (f : Frame) : Prop :=
  ∀ w sweep, f = .awaitingReply w sweep → s.outstanding.find? w = none

theorem hasLanded (h : f.awaitsReply = false) : s.HasLanded f := by
  rintro w sweep rfl
  simp [Frame.awaitsReply] at h

/-- What a step that leaves the transport alone does to the bytes that are stored or with calls. -/
inductive Shifted (s : System) (a : Action) (s' : System) : Prop
  | aside (hcalls : s'.tally .calls = s.tally .calls) (hans : s'.answers = s.answers)
      (hjobs : s'.aboard .jobs = s.aboard .jobs)
      (hc : s'.conn.store.contents = s.conn.store.contents ++ s.takenBy a)
  | begun {f : Frame} (hquiet : ∀ f ∈ s.tally .calls, f.isBlocking = false) (hf : f.isSweeping = false)
      (hcalls : s'.tally .calls = f ::ₘ s.tally .calls) (hjobs : s'.aboard .jobs = s.aboard .jobs)
      (hc : s'.conn.store.contents = s.conn.store.contents ++ s.takenBy a)
  | goesOn {f f' : Frame} {C : Multiset Frame} (hf : f.isWriting = true ∨ f'.isSweeping = false) (hland : s.HasLanded f)
      (hland' : s'.HasLanded f') (hC : s.tally .calls = f ::ₘ C) (hcalls : s'.tally .calls = f' ::ₘ C)
      (hjobs : s'.aboard .jobs = s.aboard .jobs)
      (hc : s'.restOf f' ++ s'.conn.store.contents = s.restOf f ++ s.conn.store.contents ++ s.takenBy a)
  | ended {f : Frame} {C : Multiset Frame} (hland : s.HasLanded f) (hC : s.tally .calls = f ::ₘ C)
      (hcalls : s'.tally .calls = C) (hjobs : s'.aboard .jobs = s.aboard .jobs)
      (hc : s'.conn.store.contents = s.restOf f ++ s.conn.store.contents ++ s.takenBy a)
  | launched {job : Job} (hquiet : ∀ f ∈ s.tally .calls, f.isBlocking = false)
      (hquiet' : ∀ f ∈ s'.tally .calls, f.isBlocking = false) (hnone : s.tally .jobs = 0)
      (hjobs : s'.aboard .jobs = {job}) (hw : job.write.unsent = s.conn.store.contents)
      (hc : s'.conn.store.contents = []) (htaken : s.takenBy a = [])

theorem Shifted.of_push (hf : f.isCall = true) (hs : f.isSweeping = false)
    (hquiet : ∀ f ∈ s.tally .calls, f.isBlocking = false)
    (hcalls : s'.tally .calls = (s.push t f).tally .calls) (hjobs : s'.aboard .jobs = (s.push t f).aboard .jobs)
    (hc : s'.conn.store.contents = s.conn.store.contents ++ s.takenBy a) : Shifted s a s' := by
  refine .begun hquiet hs (hcalls.trans (calls_push s t f hf)) (hjobs.trans ?_) hc
  simp [aboard_push, Frame.jobs_of_isCall hf]

theorem Shifted.of_replace (hst : (s.thread t).stack = f :: rest)
    (hcalls : s'.tally .calls = (s.setStack t (f' :: rest)).tally .calls)
    (hjobs : s'.aboard .jobs = (s.setStack t (f' :: rest)).aboard .jobs) (hf : f.isCall = true)
    (hf' : f'.isCall = true) (hon : f.isWriting = true ∨ f'.isSweeping = false) (hland : s.HasLanded f)
    (hland' : s'.HasLanded f')
    (hc : s'.restOf f' ++ s'.conn.store.contents = s.restOf f ++ s.conn.store.contents ++ s.takenBy a) :
    Shifted s a s' := by
  refine .goesOn hon hland hland' (calls_pop hst hf) (hcalls.trans (calls_replace s t f' rest hf')) ?_ hc
  rw [hjobs]
  simp [aboard_pop _ hst, aboard_replace, Frame.jobs_of_isCall hf, Frame.jobs_of_isCall hf']

theorem Shifted.of_pop (hst : (s.thread t).stack = f :: rest) (hf : f.isCall = true) (hland : s.HasLanded f)
    (hcalls : s'.tally .calls = (s.setStack t rest).tally .calls)
    (hjobs : s'.aboard .jobs = (s.setStack t rest).aboard .jobs)
    (hc : s'.conn.store.contents = s.restOf f ++ s.conn.store.contents ++ s.takenBy a) : Shifted s a s' := by
  refine .ended hland (calls_pop hst hf) hcalls ?_ hc
  rw [hjobs]
  simp [aboard_pop _ hst, Frame.jobs_of_isCall hf]

/-- A chain begins with everything stored. -/
theorem Shifted.of_begin {s₀ : System} {starter : Starter} {g : Guard} {store : Store} {write : Write}
    (hwf : s.conn.store.WellFormed) (htake : s.conn.takeWrite = (store, some write))
    (hquiet : ∀ f ∈ s.tally .calls, f.isBlocking = false) (hquiet₀ : ∀ f ∈ s₀.tally .calls, f.isBlocking = false)
    (hnone : s.tally .jobs = 0) (hnone₀ : s₀.aboard .jobs = 0) (htaken : s.takenBy a = []) :
    Shifted s a (s₀.begin t starter g store write) := by
  obtain ⟨hw, hs⟩ : (Job.mk write { guard := g, marker := s₀.markers.next }).write.unsent = s.conn.store.contents
      ∧ store.contents = [] := unsent_takeWrite hwf htake
  refine .launched hquiet ?_ hnone ?_ hw hs htaken
  · rw [calls_begin, Multiset.forall_mem_cons]
    exact ⟨rfl, hquiet₀⟩
  · simp [aboard_begin, Frame.jobs, hnone₀]

theorem Answered.hasLanded (hans : s.Answered) {w : WriteId} {answer : Answer}
    (hw : s.answers.find? w = some answer) (sweep : Sweep) : s.HasLanded (.awaitingReply w sweep) := by
  rintro v sweep' heq
  cases heq
  by_contra hsome
  obtain ⟨h, hh⟩ := Option.ne_none_iff_exists'.1 hsome
  simp [hans.once w h hh] at hw

/-- While all buffers come back, and calls are made beside no blocking one, bytes only go on in their order. -/
theorem shifted_step (hnum : s.Numbered) (hwf : s.conn.store.WellFormed) (hans : s.Answered)
    (hsole : Permit.Sole s.conn.permit (s.tally .guards)) (hex : Exclusive (s.tally .calls))
    (hclear : Clear s.conn.permit.held s.conn.store (s.tally .calls)) (h : Step s a s' sig)
    (hfaith : Move.IsFaithful ⟨s, a, s', sig⟩)
    (hquiet : ∀ t c, a = .call t c → ∀ f ∈ s.tally .calls, f.isBlocking = false)
    (hends : ∀ w, a.ends w = false) (hnext : s'.nextWrite = s.nextWrite) : Shifted s a s' := by
  have hfresh := hnum.outstanding _ (Nat.le_refl _)
  cases h with
  | @addNothing _ _ mode hout hsrc =>
    refine .aside rfl rfl rfl ?_
    cases mode <;> simp [takenBy, Chunk.hasRemaining_eq_false_iff.1 hsrc]
  | @addRefused _ _ mode _ hout hsrc herr =>
    refine .aside rfl rfl rfl ?_
    cases mode <;> simp [takenBy, herr]
  | addQueued hout hsrc herr hheld hroom =>
    refine .aside rfl rfl rfl ?_
    simp [takenBy, herr, hheld, hroom, Except.isOk, Except.toBool, Connection.queue?_eq_ok hroom]
  | flushRefused _ _ | flushHeld _ _ _ | flushNothing _ _ _ _ | registered _ _ | transportPending =>
    exact .aside rfl rfl rfl (by simp [takenBy])
  | reset hout => exact .aside rfl rfl rfl (by simp [takenBy, Connection.reset])
  | @recycle t hout => exact absurd rfl (hfaith.kept t)
  | addBlocking _ _ _ | flushAwaits _ _ _ | flushCollects _ _ _ =>
    exact .of_push rfl rfl (hquiet _ _ rfl) rfl rfl (by simp [takenBy])
  | addGranted hout hsrc herr hfree =>
    refine .of_push rfl rfl (hquiet _ _ rfl) rfl rfl ?_
    simp [takenBy, herr, hfree, contents_takeOver hwf]
  | addFull hout hsrc herr hheld hroom =>
    refine .of_push rfl rfl (hquiet _ _ rfl) rfl rfl ?_
    simp [takenBy, herr, hheld, hroom, Except.isOk, Except.toBool]
  | registeredFree hout hfree =>
    refine .begun (f := .answering .done) (hquiet _ _ rfl) rfl ?_ ?_ (by simp [takenBy])
    · simp [tally_push, Frame.isCall]
    · simp [aboard_push, Frame.jobs]
  | flushBegun hout herr hfree htake =>
    have hnone := jobs_eq_zero hsole hfree
    exact .of_begin hwf htake (hquiet _ _ rfl) (hquiet _ _ rfl) hnone (aboard_eq_zero hnone) rfl
  | @started t rest starter g store write hst htake =>
    have hbelow := jobs_eq_zero_of_holder hsole hst rfl
    have hquiet := Exclusive.not_blocking (calls_pop hst rfl ▸ hex)
    refine .of_begin hwf htake ?_ hquiet ?_ (aboard_eq_zero hbelow) (by simp [takenBy_run hst, takes])
    · rw [calls_pop hst rfl, Multiset.forall_mem_cons]
      exact ⟨rfl, hquiet⟩
    · simpa [tally_pop _ hst, Frame.jobs] using hbelow
  | answered hst | issued hst | startedNothing hst _ | refused hst | collectedLate hst _ =>
    exact .of_pop hst rfl (hasLanded rfl) rfl rfl (by simp [takenBy_run hst, takes, restOf])
  | addDone hst hsrc =>
    refine .of_pop hst rfl (hasLanded rfl) rfl rfl ?_
    simp [takenBy_run hst, takes, restOf, Chunk.hasRemaining_eq_false_iff.1 hsrc]
  | roomExpired hst _ => exact .of_pop hst rfl (hasLanded rfl) rfl rfl (by simp [restOf])
  | sweptFlush hst hc hp hg =>
    exact .of_pop hst rfl (hasLanded rfl) rfl rfl (by simp [takenBy_run hst, takes, restOf, Sweep.unsent, hc, hp])
  | @tripFailed t rest w sweep outcome buf err hst hw hout =>
    have hfront : s.conn.store.front = [] :=
      Exclusive.front_eq_nil (calls_pop hst rfl ▸ hex) (calls_pop hst rfl ▸ hclear) rfl rfl
    refine .of_pop hst rfl (hans.hasLanded hw sweep) rfl rfl ?_
    simp [takenBy_run hst, takes, restOf, hw, Answer.left, Outcome.count_eq_zero hout, Store.contents_eq, hfront,
      Sweep.queued_putBack]
  | roomMade hst _ | chainAwaited hst _ | yielded hst =>
    refine .of_replace hst rfl rfl rfl rfl (.inr rfl) (hasLanded rfl) (hasLanded rfl) ?_
    simp [takenBy_run hst, takes, restOf]
  | chainExpired hst hheld =>
    refine .of_replace hst rfl rfl rfl rfl (.inr rfl) (hasLanded rfl) (hasLanded rfl) ?_
    simp [restOf]
  | admittedLate hst herr =>
    refine .of_replace hst rfl rfl rfl rfl (.inr rfl) (hasLanded rfl) (hasLanded rfl) ?_
    simp [takenBy_run hst, takes, restOf, herr]
  | admitted hst herr =>
    refine .of_replace hst rfl rfl rfl rfl (.inr rfl) (hasLanded rfl) (hasLanded rfl) ?_
    simp [takenBy_run hst, takes, restOf, herr, contents_takeOver hwf]
  | @absorbed _ _ src _ _ hst hsrc habs | @filledBehind _ _ src _ _ hst hsrc habs _
  | @filled _ _ src _ _ hst hsrc habs _ =>
    have hc := Connection.contents_absorb hwf src
    rw [habs] at hc
    refine .of_replace hst rfl rfl rfl rfl (.inr rfl) (hasLanded rfl) (hasLanded rfl) ?_
    simp [takenBy_run hst, takes, restOf, habs, hc]
  | @collected t rest goal hst herr =>
    -- What is taken out first is older: nothing is queued, or the primary buffer is empty.
    have hsweep : s.conn.store.queued ++ s.conn.store.front = s.conn.store.contents := by
      by_cases hq : s.conn.store.queued = []
      · simp [Store.contents_eq, hq]
      · have hfront : s.conn.store.front = [] :=
          Exclusive.front_of_behind (calls_pop hst rfl ▸ hex) (calls_pop hst rfl ▸ hclear) rfl (.inr (.inl hq))
        simp [Store.contents_eq, hfront]
    refine .of_replace hst rfl rfl rfl rfl (.inl rfl) (hasLanded rfl) (hasLanded rfl) ?_
    simp [takenBy_run hst, takes, restOf, Sweep.unsent_sweep, hsweep, Store.contents_swept]
  | sweptChunk hst hc =>
    refine .of_replace hst rfl rfl rfl rfl (.inl rfl) (hasLanded rfl) (hasLanded rfl) ?_
    simp [takenBy_run hst, takes, restOf, hc, Sweep.unsent, Buffer.unsent]
  | sweptPrimary hst hc hp =>
    refine .of_replace hst rfl rfl rfl rfl (.inl rfl) (hasLanded rfl) (hasLanded rfl) ?_
    simp [takenBy_run hst, takes, restOf, hc, hp, Sweep.unsent, Buffer.unsent]
  | sweptAdd hst hc hp hg =>
    refine .of_replace hst rfl rfl rfl rfl (.inl rfl) (hasLanded rfl) (hasLanded rfl) ?_
    simp [takenBy_run hst, takes, restOf, hc, hp, Sweep.unsent]
  | @tripsDone _ _ buf _ hst hbuf =>
    have hc : (s.conn.store.reclaim buf).contents = s.conn.store.contents := Store.contents_reclaim hbuf
    refine .of_replace hst rfl rfl rfl rfl (.inl rfl) (hasLanded rfl) (hasLanded rfl) ?_
    simp [takenBy_run hst, takes, restOf, hc, Buffer.hasRemaining_eq_false_iff.1 hbuf]
  | @tripDone t rest w sweep outcome buf count hst hw hout =>
    refine .of_replace hst rfl rfl rfl rfl (.inl rfl) (hans.hasLanded hw sweep) (hasLanded rfl) ?_
    simp [takenBy_run hst, takes, restOf, hw, Answer.left, drop_min_remaining, Outcome.written_eq_ok hout]
  | tripDropped hst hw => exact absurd hw (hans.back _)
  | tripExpired hst hans => exact absurd hst (hfaith.not_awaitingReply _ _ _)
  | driveDone hst hd =>
    refine .aside ?_ rfl ?_ (by simp [takenBy_run hst, takes])
    · simp [tally_driveDone _ hd, tally_pop _ hst, Frame.isCall]
    · simp [aboard_driveDone _ hd, aboard_pop _ hst, Frame.jobs]
  | deferred hst hd =>
    refine .aside ?_ rfl ?_ (by simp [takenBy_run hst, takes])
    · simp [tally_deferred _ hd, tally_pop _ hst, Frame.isCall]
    · simp [aboard_deferred _ hd, aboard_pop _ hst, Frame.jobs]
  | transportReturned hst | notified hst =>
    refine .aside ?_ rfl ?_ (by simp)
    · simp [tally_pop _ hst, Frame.isCall]
    · simp [aboard_pop _ hst, Frame.jobs]
  | attached hst =>
    refine .aside ?_ rfl ?_ (by simp)
    · simp [tally_pop _ hst, tally_replace, Frame.isCall]
    · simp [aboard_pop _ hst, aboard_replace, Frame.jobs]
  | told hst | toldFailure hst =>
    refine .aside ?_ rfl ?_ (by simp [takenBy_run hst, takes])
    · simp [tally_pop _ hst, tally_replace, Frame.isCall]
    · simp [aboard_pop _ hst, aboard_replace, Frame.jobs]
  -- The other steps hand a write over, or end one.
  | driven _ _ | carried _ _ | tripBegun _ _ => exact absurd hnext (Nat.succ_ne_self _)
  | @strayEnded _ w _ _ _ _ | @tripEnded _ w _ _ _ _ | @chainStale _ w _ _ _ _ _ _ | @chainQuiet _ w _ _ _ _ _ _ _
  | @chainTold _ w _ _ _ _ _ _ _ | @chainGoesOn _ w _ _ _ _ _ _ _ _ | @chainFailed _ w _ _ _ _ _ _ _ _ =>
    simp [Action.ends] at hends
  | @strayForgotten w _ _ | @tripForgotten w _ _ | @chainForgotten w _ _ _ => simp [Action.ends] at hends

end System

end Outflow
