import Outflow.Proofs.Delivery
import Outflow.Proofs.Lending
import Outflow.Proofs.Locality

/-! The primary buffer is kept: none is allocated beside it, and it is not dropped when it comes back. -/
namespace Outflow

namespace Sweep

variable {sweep : Sweep} {returned : Option Buffer} {s : Store}

/-- What is put back, before the store makes sure that it has a primary buffer. -/
def requeued (sweep : Sweep) (returned : Option Buffer) (s : Store) : Store :=
  let (s, left) := s.salvage returned
  let (s, last) := s.salvage (sweep.primary.map .primary)
  s.requeueFront (left.toList ++ sweep.chunks ++ last.toList)

theorem putBack_eq (sweep : Sweep) (returned : Option Buffer) (s : Store) :
    sweep.putBack returned s = (sweep.requeued returned s).ensurePrimary := rfl

/-- The stores that primary buffers come back to when a sweep is put back. -/
def restoring (sweep : Sweep) (returned : Option Buffer) (s : Store) : List Store :=
  s.restoring returned.toList ++ (s.salvage returned).1.restoring (sweep.primary.map .primary).toList

theorem countP_primary (sweep : Sweep) :
    (sweep.primary.map Buffer.primary).toList.countP Buffer.isPrimary = sweep.primaries.length := by
  unfold primaries
  cases sweep.primary <;> rfl

theorem requeued_balance (sweep : Sweep) (returned : Option Buffer) (s : Store) :
    (sweep.requeued returned s).primaries + Store.discarded (sweep.restoring returned s)
      = s.primaries + returned.toList.countP Buffer.isPrimary + sweep.primaries.length := by
  have hfirst := s.salvage_balance returned
  have hsecond := (s.salvage returned).1.salvage_balance (sweep.primary.map .primary)
  have hkept : (sweep.requeued returned s).primaries
      = ((s.salvage returned).1.salvage (sweep.primary.map .primary)).1.primaries := rfl
  rw [countP_primary] at hsecond
  rw [hkept, restoring, Store.discarded_append]
  omega

theorem restoring_lent (h : s.primaries + returned.toList.countP Buffer.isPrimary + sweep.primaries.length ≤ 1) :
    ∀ r ∈ sweep.restoring returned s, r.primaryIsLent = true := by
  have hfirst := s.salvage_balance returned
  intro r hr
  rcases List.mem_append.1 hr with hr | hr
  · exact Store.restoring_lent (by omega) r hr
  · refine Store.restoring_lent ?_ r hr
    rw [countP_primary]
    omega

end Sweep

namespace System

variable {config : Config} {s s' : System} {moves : List Move} {a : Action} {sig : Option Signal} {t : ThreadId}
  {frame : Frame} {rest : List Frame}

/-! ### Where a step asks for a primary buffer, and where it puts one back -/

/-- What is given back with a failure to the call that waits for a round trip. -/
def failedTrip (s : System) (w : WriteId) : Option (Option Buffer) :=
  match s.answers.find? w with
  | some .dropped => some none
  | some (.returned outcome buf) =>
    match outcome.written with
    | .error _ => some (some buf)
    | .ok _ => none
  | none => none

/-- The stores that make sure that they have a primary buffer in the next step of a frame. -/
@[simp]
def ensuringIn (s : System) : Frame → List Store
  | .adding src =>
    if src.hasRemaining && !(s.conn.store.hasPending || s.conn.permit.held) then [s.conn.store] else []
  | .admitted _ _ => if s.conn.error.isNone then [s.conn.store] else []
  | .sweeping sweep => if sweep.chunks.isEmpty && sweep.primary.isNone then [s.conn.store] else []
  | .awaitingReply w sweep => (s.failedTrip w).toList.map fun returned => sweep.requeued returned s.conn.store
  | _ => []

/-- The stores that make sure that they have a primary buffer. -/
def ensuring (s : System) : Action → List Store
  | .call _ (.add src .nonBlocking) =>
    if src.hasRemaining && s.conn.error.isNone && !s.conn.permit.held then [s.conn.store] else []
  | .call _ .recycle => [s.conn.store.discard.1]
  | .run t => (s.thread t).stack.head?.elim [] s.ensuringIn
  | .expire t =>
    match (s.thread t).stack.head? with
    | some (.awaitingReply _ sweep) => [sweep.requeued none s.conn.store]
    | _ => []
  | _ => []

/-- The stores that a primary buffer comes back to in the next step of a frame. -/
@[simp]
def restoringIn (s : System) : Frame → List Store
  | .writing buf _ => if buf.hasRemaining then [] else s.conn.store.restoring [buf]
  | .awaitingReply w sweep => (s.failedTrip w).toList.flatMap fun returned => sweep.restoring returned s.conn.store
  | _ => []

/-- The stores that a primary buffer comes back to. -/
def restoring (s : System) : Action → List Store
  | .run t => (s.thread t).stack.head?.elim [] s.restoringIn
  | .expire t =>
    match (s.thread t).stack.head? with
    | some (.awaitingReply _ sweep) => sweep.restoring none s.conn.store
    | _ => []
  | .complete _ w outcome =>
    match s.outstanding.find? w with
    | some (.chain write flight) => s.conn.restoring flight outcome write
    | _ => []
  | _ => []

theorem ensuring_run (hst : (s.thread t).stack = frame :: rest) : s.ensuring (.run t) = s.ensuringIn frame := by
  simp [ensuring, hst]

theorem restoring_run (hst : (s.thread t).stack = frame :: rest) : s.restoring (.run t) = s.restoringIn frame := by
  simp [restoring, hst]

/-- A call that finds its answer has what it is about to write, and the buffer that comes back to it. -/
theorem lent_answered {w : WriteId} {sweep : Sweep} {outcome : Outcome} {buf : Buffer}
    (hst : (s.thread t).stack = .awaitingReply w sweep :: rest)
    (hw : s.answers.find? w = some (.returned outcome buf)) : s.lent = sweep.primaries.length
      + ([buf].countP Buffer.isPrimary + ((s.setStack t rest).setAnswers (s.answers.erase w)).lent) := by
  rw [lent_pop hst, ← Buffer.length_primaries]
  exact congrArg _ (lent_setAnswers_erase (s := s.setStack t rest) hw)

/-- What a step allocates and what it drops is all that changes the number of primary buffers. -/
theorem primaries_step (hnum : s.Numbered) (hans : s.Answered)
    (hsole : Permit.Sole s.conn.permit (s.tally .guards)) (h : Step s a s' sig)
    (hback : Move.GivesBack ⟨s, a, s', sig⟩) :
    s'.conn.store.primaries + s'.lent + Store.discarded (s.restoring a)
      = s.conn.store.primaries + s.lent + Store.allocated (s.ensuring a) := by
  have hfresh := hnum.outstanding _ (Nat.le_refl _)
  cases h with
  | @addNothing _ _ mode hout hsrc => cases mode <;> simp [ensuring, restoring, hsrc]
  | @addRefused _ _ mode _ hout hsrc herr => cases mode <;> simp [ensuring, restoring, herr]
  | flushRefused hout herr | flushHeld hout herr hheld | registered hout hheld | reset hout
  | flushNothing hout herr hfree htake => simp [ensuring, restoring, Connection.reset]
  | transportPending => rfl
  | addQueued hout hsrc herr hheld hroom =>
    rw [Connection.queue?_eq_ok hroom]
    simp [ensuring, restoring, hheld]
  | addFull hout hsrc herr hheld hroom => simp [ensuring, restoring, hheld, lent_push, Frame.primaries]
  | addBlocking hout hsrc herr | flushAwaits hout herr hheld | flushCollects hout herr hfree
  | registeredFree hout hfree => simp [ensuring, restoring, lent_push, Frame.primaries]
  | addGranted hout hsrc herr hfree =>
    have hone := s.conn.store.primaries_add_allocated
    simp [ensuring, restoring, hsrc, herr, hfree, lent_push, Frame.primaries]
    omega
  | @flushBegun t store write hout herr hfree htake =>
    have htaken : store.primaries + write.primaries.length = s.conn.store.primaries :=
      Connection.primaries_takeWrite htake
    simp [ensuring, restoring, lent_begin]
    omega
  | @recycle t hout => exact absurd rfl (hback.kept t)
  | answered hst | issued hst | startedNothing hst _ | refused hst | collectedLate hst _ =>
    simp [ensuring_run hst, restoring_run hst, lent_pop hst, Frame.primaries]
  | addDone hst hsrc =>
    simp [ensuring_run hst, restoring_run hst, hsrc, lent_pop hst, Frame.primaries]
  | roomExpired hst _ | transportReturned hst | notified hst =>
    simp [ensuring, restoring, hst, lent_pop hst, Frame.primaries]
  | chainExpired hst _ | attached hst | told hst | toldFailure hst =>
    simp [ensuring, restoring, hst, lent_pop hst, lent_replace, Frame.primaries]
  | roomMade hst _ | chainAwaited hst _ | yielded hst =>
    simp [ensuring_run hst, restoring_run hst, lent_pop hst, lent_replace, Frame.primaries]
  | admittedLate hst herr =>
    simp [ensuring_run hst, restoring_run hst, herr, lent_pop hst, lent_replace, Frame.primaries]
  | driven hst hd =>
    simp [ensuring_run hst, restoring_run hst, lent, tally_driven _ hfresh hst hd, Frame.primaries]
  | driveDone hst hd =>
    simp [ensuring_run hst, restoring_run hst, lent, tally_driveDone _ hd, tally_pop _ hst, Frame.primaries]
  | carried hst hd =>
    simp [ensuring_run hst, restoring_run hst, lent, tally_carried _ hfresh hd, tally_pop _ hst, Frame.primaries]
  | deferred hst hd =>
    simp [ensuring_run hst, restoring_run hst, lent, tally_deferred _ hd, tally_pop _ hst, Frame.primaries]
  | @started t rest starter g store write hst htake =>
    have htaken : store.primaries + write.primaries.length = s.conn.store.primaries :=
      Connection.primaries_takeWrite htake
    simp [ensuring_run hst, restoring_run hst, lent_begin, lent_pop hst, Frame.primaries]
    omega
  | admitted hst herr =>
    have hone := s.conn.store.primaries_add_allocated
    simp [ensuring_run hst, restoring_run hst, herr, lent_pop hst, lent_replace, Frame.primaries]
    omega
  | @absorbed _ _ src store _ hst hsrc habs | @filledBehind _ _ src store _ hst hsrc habs _
  | @filled _ _ src store _ hst hsrc habs _ =>
    have hstore := s.conn.primaries_absorb src
    have hone := s.conn.store.primaries_add_allocated
    rw [habs] at hstore
    cases hwait : s.conn.store.hasPending || s.conn.permit.held <;>
      simp [ensuring_run hst, restoring_run hst, hsrc, hwait, lent_pop hst, lent_replace,
        Frame.primaries] at hstore ⊢ <;> omega
  | @collected t rest goal hst herr =>
    have htaken : s.conn.store.swept.primaries + (s.conn.store.sweep goal).primaries.length
        = s.conn.store.primaries := s.conn.store.primaries_swept goal
    simp [ensuring_run hst, restoring_run hst, lent_pop hst, lent_replace, Frame.primaries]
    omega
  | sweptChunk hst hc =>
    simp [ensuring_run hst, restoring_run hst, hc, lent_pop hst, lent_replace, Frame.primaries, Sweep.primaries]
  | sweptPrimary hst hc hp =>
    simp [ensuring_run hst, restoring_run hst, hc, hp, lent_pop hst, lent_replace, Frame.primaries, Sweep.primaries]
  | sweptFlush hst hc hp hg | sweptAdd hst hc hp hg =>
    have hone := s.conn.store.primaries_add_allocated
    simp [ensuring_run hst, restoring_run hst, hc, hp, lent_pop hst, lent_replace, Frame.primaries, Sweep.primaries]
    omega
  | @tripBegun t rest buf sweep hst hbuf =>
    simp [ensuring_run hst, restoring_run hst, hbuf, lent_trip hfresh, lent_pop hst, lent_replace, Frame.primaries]
    omega
  | @tripsDone t rest buf sweep hst hbuf =>
    have hkept := s.conn.store.reclaim_balance [buf]
    simp [ensuring_run hst, restoring_run hst, hbuf, lent_pop hst,
      lent_replace, Frame.primaries, Buffer.length_primaries] at hkept ⊢
    omega
  | tripDropped hst hw => exact absurd hw (hans.back _)
  | @tripFailed t rest w sweep outcome buf err hst hw hout =>
    have hlent := lent_answered hst hw
    have hrequeued := sweep.requeued_balance (some buf) s.conn.store
    have hone := (sweep.requeued (some buf) s.conn.store).primaries_add_allocated
    have hfailed : s.failedTrip w = some (some buf) := by simp [failedTrip, hw, hout]
    simp [ensuring_run hst, restoring_run hst, hfailed, Sweep.putBack_eq] at hlent hrequeued ⊢
    omega
  | @tripDone t rest w sweep outcome buf count hst hw hout =>
    have hlent := lent_answered hst hw
    have hreplace : ((s.setStack t (.writing (buf.drop (min count buf.remaining)) sweep :: rest)).setAnswers
        (s.answers.erase w)).lent = (buf.drop (min count buf.remaining)).primaries.length + sweep.primaries.length
          + ((s.setStack t rest).setAnswers (s.answers.erase w)).lent :=
      List.length_append ▸ lent_replace (s.setAnswers (s.answers.erase w)) t _ rest
    have hdone : s.failedTrip w = none := by simp [failedTrip, hw, hout]
    rw [Buffer.length_primaries_drop, Buffer.length_primaries] at hreplace
    simp [ensuring_run hst, restoring_run hst, hdone]
    omega
  | tripExpired hst hans => exact absurd hst (hback.not_awaitingReply _ _ _)
  | strayEnded hout hw => exact absurd hw (hans.awaited _ _)
  | @tripEnded t w outcome buf hout hw =>
    have hend : s.lent = buf.primaries.length + (s.endWrite w).lent := lent_endWrite hw
    have hanswer : ((s.endWrite w).setAnswers (s.answers.set w (.returned outcome buf))).lent
        = buf.primaries.length + (s.endWrite w).lent := lent_setAnswers_set (s := s.endWrite w) (hans.once w _ hw) _
    simp [ensuring, restoring, hw]
    omega
  | chainStale hout hw hset =>
    have hcurrent := isCurrent_of_sole hsole hw
    simp [hset.not_isCurrent] at hcurrent
  | @chainQuiet t w outcome write flight conn hout hw hset | @chainTold t w outcome write flight conn hout hw hset
  | @chainGoesOn t w outcome write flight conn next hout hw hset
  | @chainFailed t w outcome write flight conn err hout hw hset =>
    have hend : s.lent = write.primaries.length + (s.endWrite w).lent := lent_endWrite hw
    have hsettled := hset.balance (by simp)
    simp [ensuring, restoring, hw, lent_push, Frame.primaries, Verdict.primaries] at hsettled ⊢
    omega
  | strayForgotten hw | tripForgotten hw | chainForgotten hw => exact hback.elim

/-- What comes back finds room, since it is the only one. -/
theorem restoring_lent (hans : s.Answered) (hone : s.OnePrimary) (h : Step s a s' sig) :
    ∀ r ∈ s.restoring a, r.primaryIsLent = true := by
  have htotal : s.conn.store.primaries + s.lent = 1 := hone
  cases h with
  | @tripsDone t rest buf sweep hst hbuf =>
    have hpop := lent_pop hst
    simp only [Frame.primaries, List.length_append, Buffer.length_primaries] at hpop
    rw [restoring_run hst, restoringIn, hbuf]
    exact Store.restoring_lent (by omega)
  | tripDropped hst hw => exact absurd hw (hans.back _)
  | @tripFailed t rest w sweep outcome buf err hst hw hout =>
    have hlent := lent_answered hst hw
    have hfailed : s.failedTrip w = some (some buf) := by simp [failedTrip, hw, hout]
    rw [restoring_run hst, restoringIn, hfailed, Option.toList_some, List.flatMap_singleton]
    exact Sweep.restoring_lent (by rw [Option.toList_some]; omega)
  | @tripDone t rest w sweep outcome buf count hst hw hout =>
    have hdone : s.failedTrip w = none := by simp [failedTrip, hw, hout]
    simp [restoring_run hst, hdone]
  | @tripExpired t rest w sweep hst hnone =>
    have hpop : s.lent = sweep.primaries.length + (s.setStack t rest).lent := lent_pop hst
    have hback : s.restoring (.expire t) = sweep.restoring none s.conn.store := by simp [restoring, hst]
    rw [hback]
    exact Sweep.restoring_lent (by rw [Option.toList_none, List.countP_nil]; omega)
  | @chainStale t w outcome write flight hout hw hset | @chainQuiet t w outcome write flight conn hout hw hset
  | @chainTold t w outcome write flight conn hout hw hset
  | @chainGoesOn t w outcome write flight conn next hout hw hset
  | @chainFailed t w outcome write flight conn err hout hw hset =>
    have hend : s.lent = write.primaries.length + (s.endWrite w).lent := lent_endWrite hw
    have hback : s.restoring (.complete t w outcome) = s.conn.restoring flight outcome write := by simp [restoring, hw]
    rw [hback]
    exact Connection.restoring_lent (by omega)
  | strayEnded hout hw | tripEnded hout hw => simp [restoring, hw]
  | roomExpired hst _ | chainExpired hst _ => simp [restoring, hst]
  | told hst | toldFailure hst | answered hst | issued hst | startedNothing hst _ | refused hst | collectedLate hst _
  | addDone hst _ | roomMade hst _ | chainAwaited hst _ | yielded hst | admittedLate hst _ | driven hst _
  | driveDone hst _ | carried hst _ | deferred hst _ | started hst _ | admitted hst _ | absorbed hst _ _
  | filledBehind hst _ _ _ | filled hst _ _ _ | collected hst _ | sweptChunk hst _ | sweptPrimary hst _ _
  | sweptFlush hst _ _ _ | sweptAdd hst _ _ _ => simp [restoring_run hst]
  | tripBegun hst hbuf => simp [restoring_run hst, hbuf]
  | _ => simp [restoring]

/-- Where no call has buffers and no chain is in flight, the primary buffer is in the store. -/
theorem OnePrimary.not_lent (hone : s.OnePrimary) (hlent : s.lent = 0) : s.conn.store.primaryIsLent = false := by
  have htotal : s.conn.store.primaries + s.lent = 1 := hone
  exact Store.primaryIsLent_eq_false_iff.2 (by omega)

/-- Where a primary buffer is asked for, it is there. -/
theorem ensuring_kept (hnum : s.Numbered) (hans : s.Answered) (hclaim : s.Claimed)
    (hsole : Permit.Sole s.conn.permit (s.tally .guards))
    (hl : Lined s.conn.permit.held s.conn.store (s.tally .calls)) (hone : s.OnePrimary) (h : Step s a s' sig)
    (hback : Move.GivesBack ⟨s, a, s', sig⟩) (hord : Move.IsOrderly ⟨s, a, s', sig⟩) :
    ∀ r ∈ s.ensuring a, r.primaryIsLent = false := by
  have hans' := answered_step hnum hans h hback
  have hclaim' := claimed_step hnum hans hclaim h hback
  have htotal : s.conn.store.primaries + s.lent = 1 := hone
  -- A call that is neither blocked nor about to be sweeps nothing, and no other call does.
  have hcalls {t : ThreadId} {frame : Frame} {rest : List Frame} (hst : (s.thread t).stack = frame :: rest)
      (hf : frame.isCall = true) (hs : frame.isSweeping = false) : ∀ f ∈ s.tally .calls, f.isSweeping = false := by
    rw [calls_pop hst hf, Multiset.forall_mem_cons]
    exact ⟨hs, not_sweeping_of_lined hl hst hf⟩
  cases h with
  | addGranted hout hsrc herr hfree =>
    have hlent := lent_eq_zero hans hclaim (jobs_eq_zero hsole hfree)
      fun f hf => Frame.isSweeping_of_not_blocking (hord f hf).2
    simpa [ensuring, hsrc, herr, hfree] using hone.not_lent hlent
  | admitted hst herr =>
    have hjobs : s.tally .jobs = 0 := by
      simpa [tally_pop _ hst, Frame.jobs] using jobs_eq_zero_of_holder hsole hst rfl
    have hlent := lent_eq_zero hans hclaim hjobs (hcalls hst rfl rfl)
    simpa [ensuring_run hst, herr] using hone.not_lent hlent
  | absorbed hst hsrc _ | filledBehind hst hsrc _ _ | filled hst hsrc _ _ =>
    rw [ensuring_run hst, ensuringIn]
    cases hwait : s.conn.store.hasPending || s.conn.permit.held with
    | true => simp
    | false =>
      have hjobs := jobs_eq_zero hsole (Bool.or_eq_false_iff.1 hwait).2
      simpa [hsrc] using hone.not_lent (lent_eq_zero hans hclaim hjobs (hcalls hst rfl rfl))
  | @sweptFlush t rest sweep hst hc hp hg =>
    have hlent := lent_eq_zero hans' hclaim' (jobs_eq_zero_of_writing hl hsole hst rfl rfl rfl)
      (not_sweeping_of_lined hl hst rfl)
    have hpop : s.lent = (s.setStack t rest).lent := by simpa [Frame.primaries, Sweep.primaries, hp] using lent_pop hst
    simpa [ensuring_run hst, hc, hp] using hone.not_lent (hpop.trans hlent)
  | @sweptAdd t rest sweep src hst hc hp hg =>
    have hjobs : (s.setStack t (.adding src :: rest)).tally .jobs = 0 := by
      simpa [tally_replace, Frame.jobs] using jobs_eq_zero_of_writing hl hsole hst rfl rfl rfl
    have hquiet : ∀ f ∈ (s.setStack t (.adding src :: rest)).tally .calls, f.isSweeping = false := by
      rw [calls_replace _ _ _ _ rfl, Multiset.forall_mem_cons]
      exact ⟨rfl, not_sweeping_of_lined hl hst rfl⟩
    have hlent := lent_eq_zero hans' hclaim' hjobs hquiet
    have hpop : s.lent = (s.setStack t (.adding src :: rest)).lent := by
      simp [lent_pop hst, lent_replace, Frame.primaries, Sweep.primaries, hp]
    simpa [ensuring_run hst, hc, hp] using hone.not_lent (hpop.trans hlent)
  | tripDropped hst hw => exact absurd hw (hans.back _)
  | @tripFailed t rest w sweep outcome buf err hst hw hout =>
    -- One of the places that are searched first has the buffer, and it is put back from there.
    have hlent := lent_answered hst hw
    have hothers := lent_eq_zero hans' hclaim' (jobs_eq_zero_of_writing hl hsole hst rfl rfl rfl)
      (not_sweeping_of_lined hl hst rfl)
    rw [setStore_eq, lent_setConn] at hothers
    have hrequeued := sweep.requeued_balance (some buf) s.conn.store
    have hroom : ∀ r ∈ sweep.restoring (some buf) s.conn.store, r.primaryIsLent = true :=
      Sweep.restoring_lent (by rw [Option.toList_some]; omega)
    rw [Option.toList_some, Store.discarded_eq_zero hroom] at hrequeued
    have hfailed : s.failedTrip w = some (some buf) := by simp [failedTrip, hw, hout]
    simpa [ensuring_run hst, hfailed] using Store.primaryIsLent_eq_false_iff.2 (by omega)
  | @tripDone t rest w sweep outcome buf count hst hw hout =>
    have hdone : s.failedTrip w = none := by simp [failedTrip, hw, hout]
    simp [ensuring_run hst, hdone]
  | @recycle t hout => exact absurd rfl (hback.kept t)
  | tripExpired hst _ => exact absurd hst (hback.not_awaitingReply _ _ _)
  | @addNothing _ _ mode hout hsrc => cases mode <;> simp [ensuring, hsrc]
  | @addRefused _ _ mode _ hout hsrc herr => cases mode <;> simp [ensuring, herr]
  | addQueued hout hsrc herr hheld hroom | addFull hout hsrc herr hheld hroom => simp [ensuring, hheld]
  | roomExpired hst _ | chainExpired hst _ => simp [ensuring, hst]
  | told hst | toldFailure hst | answered hst | issued hst | startedNothing hst _ | refused hst | collectedLate hst _
  | roomMade hst _ | chainAwaited hst _ | yielded hst | driven hst _ | driveDone hst _ | carried hst _ | deferred hst _
  | started hst _ | collected hst _ | tripBegun hst _ | tripsDone hst _ => simp [ensuring_run hst]
  | addDone hst hsrc => simp [ensuring_run hst, hsrc]
  | admittedLate hst herr => simp [ensuring_run hst, herr]
  | sweptChunk hst hc => simp [ensuring_run hst, hc]
  | sweptPrimary hst hc hp => simp [ensuring_run hst, hp]
  | _ => simp [ensuring]

/-- Where a primary buffer is asked for it is there, so that none is allocated. Where one comes back there is room for
it, so that it is not dropped. -/
def Move.KeepsPrimary (m : Move) : Prop :=
  (∀ r ∈ m.before.ensuring m.action, r.primaryIsLent = false) ∧
    ∀ r ∈ m.before.restoring m.action, r.primaryIsLent = true

theorem onePrimary_step (hnum : s.Numbered) (hans : s.Answered)
    (hsole : Permit.Sole s.conn.permit (s.tally .guards)) (hone : s.OnePrimary) (h : Step s a s' sig)
    (hback : Move.GivesBack ⟨s, a, s', sig⟩) (hkeeps : Move.KeepsPrimary ⟨s, a, s', sig⟩) : s'.OnePrimary := by
  have hstep := primaries_step hnum hans hsole h hback
  rwa [Store.discarded_eq_zero hkeeps.2, Store.allocated_eq_zero hkeeps.1, hone] at hstep

theorem keepsPrimary_run (run : Run (fresh config) moves s) (hback : ∀ m ∈ moves, m.GivesBack)
    (hord : ∀ m ∈ moves, m.IsOrderly) : s.OnePrimary ∧ ∀ m ∈ moves, m.KeepsPrimary := by
  induction run with
  | nil => exact ⟨onePrimary_fresh config, by simp⟩
  | @snoc moves s a s' sig run h ih =>
    simp only [List.forall_mem_append, List.forall_mem_singleton] at hback hord ⊢
    obtain ⟨hone, hkept⟩ := ih hback.1 hord.1
    have hnum := numbered_run run
    have hans := answered_run run hback.1
    have hsole := sole_run run fun m hm => (hback.1 m hm).kept
    have hkeeps : Move.KeepsPrimary ⟨s, a, s', sig⟩ :=
      ⟨ensuring_kept hnum hans (claimed_run run hback.1) hsole (lined_run run hback.1 hord.1) hone (step_perform h)
        hback.2 hord.2, restoring_lent hans hone (step_perform h)⟩
    exact ⟨onePrimary_step hnum hans hsole hone (step_perform h) hback.2 hkeeps, hkept, hkeeps⟩

theorem onePrimary_run (run : Run (fresh config) moves s) (hback : ∀ m ∈ moves, m.GivesBack)
    (hord : ∀ m ∈ moves, m.IsOrderly) : s.OnePrimary :=
  (keepsPrimary_run run hback hord).1

/-- The primary buffer is with the chain in flight or in the store. -/
theorem OnePrimary.lent_iff (hone : s.OnePrimary) (hans : s.Answered) (hclaim : s.Claimed)
    (hcalls : ∀ f ∈ s.tally .calls, f.isSweeping = false) {p : Primary} (hp : s.primaryBuffers = [p]) :
    s.conn.store.primaryIsLent = true ↔ ∃ job ∈ s.collect .jobs, .primary p ∈ job.write.buffers := by
  have htotal : s.conn.store.primaries + s.lent = 1 := hone
  constructor
  · intro hlent
    have hmem : p ∈ s.primaryBuffers := by simp [hp]
    obtain hstored | hjob := (mem_primaryBuffers_iff hans hclaim hcalls p).1 hmem
    · simp [Store.primaryIsLent, hstored] at hlent
    · exact hjob
  · rintro ⟨job, hjob, hb⟩
    rw [Store.primaryIsLent_iff]
    by_contra hstored
    have hnone := (lent_eq_zero_iff hans hclaim hcalls).1 (by omega) job hjob
    have hmem : .primary p ∈ job.write.primaries := List.mem_filter.2 ⟨hb, rfl⟩
    simp [hnone] at hmem

/-- If every write is answered, one producer makes one call at a time and none of its waits runs out, then there is
exactly one primary buffer at all times, without a second one ever being allocated or the only one being dropped.
Between calls it is lent exactly if it is with the one write in flight, and then it has bytes to send. -/
theorem primary_conserved (run : Run (fresh config) moves s) (hback : ∀ m ∈ moves, m.GivesBack)
    (hseq : ∀ m ∈ moves, m.IsSequential) (hpatient : ∀ m ∈ moves, m.IsPatient) :
    (∀ m ∈ moves, m.KeepsPrimary) ∧
    ∃ p, s.primaryBuffers = [p] ∧ p.capacity = config.bufferSize ∧
      (s.Resting →
        (s.collect .jobs).length ≤ 1 ∧ (s.Idle → s.collect .jobs = s.outstandingWrites) ∧
        (s.conn.store.primaryIsLent = true ↔ ∃ job ∈ s.collect .jobs, .primary p ∈ job.write.buffers) ∧
        (s.conn.store.primaryIsLent = true → p.unsent ≠ [])) := by
  have hord : ∀ m ∈ moves, m.IsOrderly := fun m hm => Move.isOrderly (hseq m hm) (hpatient m hm)
  obtain ⟨hone, hkeeps⟩ := keepsPrimary_run run hback hord
  have hsound := sound_run run
  obtain ⟨p, hp⟩ := List.length_eq_one_iff.1 (s.length_primaryBuffers.trans hone)
  refine ⟨hkeeps, p, hp, (wellFormed_primaryBuffers hsound p (by simp [hp])).2, fun hrest => ?_⟩
  have hcalls : ∀ f ∈ s.tally .calls, f.isSweeping = false := by simp [hrest.tally_calls]
  have hlent := hone.lent_iff (answered_run run hback) (claimed_run run hback) hcalls hp
  refine ⟨card_jobs_le (sole_run run fun m hm => (hback m hm).kept), fun hidle => ?_, hlent, fun hout => ?_⟩
  · exact hidle.collect_eq (looped_run run) .jobs
  · obtain ⟨job, hjob, hb⟩ := hlent.1 hout
    exact Buffer.hasRemaining_iff.1 ((sound_job hsound hjob).hasRemaining _ hb)

/-- The primary buffer is lent, comes back while the chain goes on, is put back by a blocking flush that fails, and is
lent again. Of the two bytes in it nothing is confirmed, then one. -/
theorem primary_conserved_lent_again : ∃ moves s, Run (fresh {}) moves s ∧ s.Resting ∧
    (∀ m ∈ moves, m.KeepsPrimary) ∧ s.conn.store.primaryIsLent = true ∧ ∃ p, s.primaryBuffers = [p] ∧
      p.capacity = 8192 ∧ p.unsent ≠ [] ∧ ∃ job ∈ s.collect .jobs, .primary p ∈ job.write.buffers := by
  obtain ⟨moves, s, run, hback, hseq, hpatient, hrest, hlent⟩ := Run.exists_of_follow (fresh {})
    [.call 0 (.add { bytes := ⟨#[97, 98]⟩ } .nonBlocking), .run 0, .run 0, .resume 0, .run 0, .run 0,
      .call 0 (.add { bytes := ⟨#[99, 100]⟩ } .nonBlocking), .complete 1 0 (.ok 1), .run 1, .resume 1, .run 1,
      .complete 1 1 (.ok 2), .run 1, .resume 1, .run 1, .complete 1 2 (.ok 1),
      .call 0 (.add { bytes := ⟨#[101, 102]⟩ } .blocking), .run 0, .run 0, .call 0 (.flush .blocking), .run 0, .run 0,
      .run 0, .complete 1 3 (.ok (-1)), .resume 0, .run 0, .call 0 (.add { bytes := ⟨#[103]⟩ } .blocking), .run 0,
      .run 0, .call 0 (.flush .nonBlocking), .run 0, .resume 0, .run 0, .run 0, .complete 1 4 (.ok 3),
      .call 0 (.add { bytes := ⟨#[104, 105]⟩ } .nonBlocking), .run 0, .run 0, .resume 0, .run 0, .run 0,
      .complete 1 5 (.ok 0), .run 1, .resume 1, .run 1, .complete 1 6 (.ok 1), .run 1, .resume 1, .run 1]
    (P := fun moves s => (∀ m ∈ moves, m.GivesBack) ∧ (∀ m ∈ moves, m.IsSequential) ∧ (∀ m ∈ moves, m.IsPatient) ∧
      s.Resting ∧ s.conn.store.primaryIsLent = true) (by decide +kernel)
  obtain ⟨hkept, p, hp, hcapacity, hbetween⟩ := primary_conserved run hback hseq hpatient
  obtain ⟨-, -, hjobs, hleft⟩ := hbetween hrest
  exact ⟨moves, s, run, hrest, hkept, hlent, p, hp, hcapacity, hleft hlent, hjobs.1 hlent⟩

end System

end Outflow
