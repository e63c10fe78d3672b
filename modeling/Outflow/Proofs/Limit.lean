import Outflow.Proofs.Custody
import Outflow.Proofs.Locality
import Outflow.Proofs.Recycle

/-! The limit of the queue. Only an add that has the permit may put more into the queue, and the chain that it begins
takes all of it. An add that is turned away leaves nothing behind: without it the rest of the run is the same. -/
namespace Outflow

namespace Connection

variable {c c' : Connection} {src : Chunk} {limit : Nat}

theorem queued_queue? (h : c.queue? src = .ok c') (hwf : c.store.WellFormed)
    (hlimit : c.config.maxBuffered = some limit) : c'.store.queued.length ≤ limit := by
  rw [queue?_eq_ok h, Store.queued_pushOverflow, List.length_append, Store.length_queued hwf, Chunk.length_unsent]
  unfold queue? at h
  grind

theorem queue?_eq_error {buffered most : Nat} (h : c.queue? src = .error (buffered, most))
    (hwf : c.store.WellFormed) : c.config.maxBuffered = some most ∧ buffered = c.store.queued.length ∧
      most < buffered + src.remaining := by
  rw [Store.length_queued hwf]
  unfold queue? at h
  grind

end Connection

/-- A call returns, or a write goes to the transport. -/
def Signal.isOutward : Signal → Bool
  | handed _ | replied _ => true
  | _ => false

def Error.isOverloaded : Error → Bool
  | overloaded _ _ => true
  | _ => false

def Signal.isOverloaded : Signal → Bool
  | replied (.refused err) => err.isOverloaded
  | _ => false

theorem Signal.eq_of_isOverloaded {sig : Option Signal} (h : sig.any Signal.isOverloaded = true) :
    ∃ buffered most, sig = some (.replied (.refused (.overloaded buffered most))) := by
  obtain ⟨sig, rfl, hsig⟩ := (Option.any_eq_true _ _).1 h
  cases sig with
  | replied reply =>
    cases reply with
    | refused err =>
      cases err with
      | overloaded buffered most => exact ⟨buffered, most, rfl⟩
      | endOfStream | timeout | transport cause => cases hsig
    | done | pending more => cases hsig
  | handed w | attach err | notify event | fault f => cases hsig

theorem Outcome.not_overloaded {outcome : Outcome} {err : Error} (h : outcome.written = .error err) :
    err.isOverloaded = false := by
  unfold Outcome.written Error.ofIo at h
  grind [Error.isOverloaded]

def Action.isBlockingFlush : Action → Bool
  | call _ (.flush .blocking) => true
  | _ => false

def Frame.starters : Frame → List Starter
  | starting starter _ => [starter]
  | _ => []

/-- The calls that are about to begin a chain. -/
@[simps]
def Tally.starters : Tally Starter where
  ofFrame := Frame.starters
  ofJob _ := []
  ofTrip _ := []

def Frame.failures : Frame → List Error
  | answering (.refused err) => [err]
  | refusing err _ => [err]
  | _ => []

/-- What calls will be refused with. -/
@[simps]
def Tally.failures : Tally Error where
  ofFrame := Frame.failures
  ofJob _ := []
  ofTrip _ := []

namespace System

variable {config : Config} {s s' : System} {moves : List Move} {a : Action} {sig : Option Signal} {t : ThreadId}
  {limit : Nat}

/-! ### What is queued -/

/-- No more is queued than the limit allows, unless a call is about to take it. -/
def Within (limit : Nat) (s : System) : Prop := s.tally .starters = 0 → s.conn.store.queued.length ≤ limit

theorem within_same (hw : s.Within limit) (hstore : s'.conn.store.queued = s.conn.store.queued)
    (hstarters : s'.tally .starters = s.tally .starters) : s'.Within limit := by
  rw [Within, hstore, hstarters]
  exact hw

theorem within_emptied (hempty : s'.conn.store.contents = []) : s'.Within limit := by
  rw [Store.contents_eq, List.append_eq_nil_iff] at hempty
  intro _
  simp [hempty.2]

theorem within_starting {starter : Starter} {C : Multiset Starter} (hstarters : s'.tally .starters = starter ::ₘ C) :
    s'.Within limit := by
  intro hnone
  simp [hstarters] at hnone

theorem within_step (hnum : s.Numbered) (hwf : s.conn.store.WellFormed)
    (hlimit : s.conn.config.maxBuffered = some limit) (hnb : ∀ f ∈ s.tally .calls, f.isBlocking = false)
    (hw : s.Within limit) (h : Step s a s' sig) (hprompt : Move.IsPrompt ⟨s, a, s', sig⟩) : s'.Within limit := by
  have hfresh := hnum.outstanding _ (Nat.le_refl _)
  cases h with
  | addNothing _ _ | addRefused _ _ _ | flushRefused _ _ | flushHeld _ _ _ | flushNothing _ _ _ _ | registered _ _
  | reset _ | transportPending => exact within_same hw rfl rfl
  | addBlocking _ _ _ | flushAwaits _ _ _ | flushCollects _ _ _ => simp [Move.IsPrompt, Call.isBlocking] at hprompt
  | addGranted hout hsrc herr hfree => exact within_starting (by simp [tally_push, Frame.starters]; rfl)
  | admitted hst herr => exact within_starting (by simp [tally_replace, Frame.starters]; rfl)
  | addQueued hout hsrc herr hheld hroom => exact fun _ => Connection.queued_queue? hroom hwf hlimit
  | addFull _ _ _ _ _ | registeredFree _ _ => exact within_same hw rfl (by simp [tally_push, Frame.starters])
  | flushBegun hout herr hfree htake => exact within_emptied (unsent_takeWrite hwf htake).2
  | started hst htake => exact within_emptied (unsent_takeWrite hwf htake).2
  | startedNothing hst htake => exact within_emptied (contents_of_takeWrite_none hwf htake)
  | recycle hout => exact within_emptied ((Store.contents_ensurePrimary _).trans (Store.contents_discard _))
  | driven hst hd => exact within_same hw rfl (by simp [tally_driven _ hfresh hst hd, Frame.starters])
  | driveDone hst hd =>
    exact within_same hw rfl (by simp [tally_driveDone _ hd, tally_pop _ hst, Frame.starters])
  | carried hst hd =>
    exact within_same hw rfl (by simp [tally_carried _ hfresh hd, tally_pop _ hst, Frame.starters])
  | deferred hst hd =>
    exact within_same hw rfl (by simp [tally_deferred _ hd, tally_pop _ hst, Frame.starters])
  | answered hst | issued hst | refused hst | roomExpired hst _ | transportReturned hst | notified hst =>
    exact within_same hw rfl (by simp [tally_pop _ hst, Frame.starters])
  | roomMade hst _ | admittedLate hst _ | attached hst | told hst | toldFailure hst =>
    exact within_same hw rfl (by simp [tally_pop _ hst, tally_replace, Frame.starters])
  | strayEnded hout hw' | tripEnded hout hw' | chainStale hout hw' hset | strayForgotten hw' | tripForgotten hw'
  | chainForgotten hw' => exact within_same hw rfl (by simp [tally_endWrite _ hw'])
  | chainQuiet hout hw' hset | chainTold hout hw' hset =>
    obtain ⟨-, -, -, -, -, hempty⟩ := hset.unsent_finished hwf
    exact within_emptied hempty
  | chainGoesOn hout hw' hset =>
    obtain ⟨-, -, -, -, hempty⟩ := hset.unsent_reissue hwf
    exact within_emptied hempty
  | chainFailed hout hw' hset => exact within_emptied hset.contents_failed
  | addDone hst _ | absorbed hst _ _ | filledBehind hst _ _ _ | filled hst _ _ _ | chainAwaited hst _ | yielded hst
  | collectedLate hst _ | collected hst _
  | sweptChunk hst _ | sweptPrimary hst _ _ | sweptFlush hst _ _ _ | sweptAdd hst _ _ _ | tripBegun hst _
  | tripsDone hst _ | tripDropped hst _ | tripFailed hst _ _ | tripDone hst _ _ | chainExpired hst _
  | tripExpired hst _ => exact (not_blocking_top hnb hst rfl rfl).elim

theorem based_pop (hs : s.Stacked) {frame : Frame} {rest : List Frame} (hst : (s.thread t).stack = frame :: rest) :
    ∀ f ∈ ((s.setStack t rest).thread t).stack, f.isBase = true := by
  rw [thread_setStack_self]
  exact hs.below hst

theorem based_handOver (hbase : ∀ f ∈ (s.thread t).stack, f.isBase = true) (h : Handed) :
    ∀ f ∈ ((s.handOver t h).1.thread t).stack, f.isBase = true := by
  rw [handOver, thread_push_self]
  exact List.forall_mem_cons.2 ⟨rfl, hbase⟩

/-- A thread that a call returns on, or that hands a write over, is not amid another step. -/
theorem based_step (hs : s.Stacked) (h : Step s a s' sig) (ht : a.thread = some t)
    (hout : sig.any Signal.isOutward = true) : ∀ f ∈ (s'.thread t).stack, f.isBase = true := by
  cases h with
  | addNothing ho _ | addRefused ho _ _ | addQueued ho _ _ _ _ | flushRefused ho _ | flushHeld ho _ _
  | flushNothing ho _ _ _ | registered ho _ | reset ho | recycle ho =>
    cases ht
    exact hs.outside ho
  | answered hst | startedNothing hst _ | issued hst | addDone hst _ | refused hst | collectedLate hst _
  | sweptFlush hst _ _ _ | tripDropped hst _ | tripFailed hst _ _ | roomExpired hst _ | tripExpired hst _ =>
    cases ht
    exact based_pop hs hst
  | driven hst _ | carried hst _ =>
    cases ht
    refine based_handOver ?_ _
    rw [thread_setThread, if_pos rfl]
    exact List.forall_mem_cons.2 ⟨rfl, hs.below hst⟩
  | tripBegun hst _ =>
    cases ht
    refine based_handOver ?_ _
    rw [thread_setStack_self]
    exact List.forall_mem_cons.2 ⟨rfl, hs.below hst⟩
  | _ => simp [Signal.isOutward] at hout

/-- What happens on no thread is not heard of. -/
theorem exists_thread (h : Step s a s' sig) (hout : sig.any Signal.isOutward = true) : ∃ t, a.thread = some t := by
  cases h with
  | strayForgotten _ | tripForgotten _ | chainForgotten _ | transportPending => simp at hout
  | _ => exact ⟨_, rfl⟩

theorem within_run (run : Run (fresh config) moves s) (hlimit : config.maxBuffered = some limit)
    (hprompt : ∀ m ∈ moves, m.IsPrompt) : s.Within limit := by
  induction run with
  | nil => exact fun _ => Nat.zero_le _
  | snoc run h ih =>
    simp only [List.forall_mem_append, List.forall_mem_singleton] at hprompt
    have hnb := not_blocking_of_calls run fun m hm t c ha => (hprompt.1 m hm).of_call ha
    have hconfig := (congrArg Config.maxBuffered (config_run run)).trans hlimit
    exact within_step (numbered_run run) (sound_run run).store.wellFormed hconfig hnb (ih hprompt.1) (step_perform h)
      hprompt.2

/-- Whenever a call returns or a write goes to the transport, no more is queued than the limit allows, unless another
thread is about to take it. -/
theorem queued_le (run : Run (fresh config) moves s) (h : s.perform a = some (s', sig))
    (hlimit : config.maxBuffered = some limit) (hprompt : ∀ m ∈ moves ++ [⟨s, a, s', sig⟩], m.IsPrompt)
    (hout : sig.any Signal.isOutward = true) : s'.conn.store.queued.length ≤ limit ∨
      ∃ u, a.thread ≠ some u ∧ (s'.thread u).stack.head?.any Frame.isStarting = true := by
  by_cases hnone : s'.tally .starters = 0
  · exact .inl (within_run (run.snoc h) hlimit hprompt hnone)
  obtain ⟨starter, hmem⟩ := Multiset.exists_mem_of_ne_zero hnone
  obtain ⟨u, f, hf, hstarter⟩ := (s'.mem_tally_iff (fun _ => rfl) fun _ => rfl).1 hmem
  have hstarting : f.isStarting = true := by
    cases f with
    | starting starter g => rfl
    | _ => cases hstarter
  have hnotbase : f.isBase ≠ true := by cases f <;> simp_all [Frame.isStarting, Frame.isBase]
  refine .inr ⟨u, fun hu => hnotbase (based_step (stacked_run run) (step_perform h) hu hout f hf), ?_⟩
  -- others do not stand on such a frame, so it is the innermost one
  have hbelow := stacked_run (run.snoc h) u
  cases hst : (s'.thread u).stack with
  | nil => simp [hst] at hf
  | cons top rest =>
    rw [hst] at hf hbelow
    obtain rfl | hrest := List.mem_cons.1 hf
    · exact hstarting
    · exact absurd (hbelow f hrest) hnotbase

/-- All that happens on a thread happens on one and the same. -/
def OnOneThread (moves : List Move) : Prop := ∃ t, ∀ m ∈ moves, ∀ u ∈ m.action.thread, u = t

/-- Where there is one thread, nobody else is about to take what is queued. -/
theorem queued_le_of_onOneThread (run : Run (fresh config) moves s) (h : s.perform a = some (s', sig))
    (hlimit : config.maxBuffered = some limit) (hprompt : ∀ m ∈ moves ++ [⟨s, a, s', sig⟩], m.IsPrompt)
    (hone : OnOneThread (moves ++ [⟨s, a, s', sig⟩])) (hout : sig.any Signal.isOutward = true) :
    s'.conn.store.queued.length ≤ limit := by
  obtain ⟨t, hone⟩ := hone
  obtain ⟨t', ht'⟩ := exists_thread (step_perform h) hout
  obtain rfl : t' = t := hone _ (List.mem_append_right _ (List.mem_singleton_self _)) _ ht'
  obtain hle | ⟨u, hu, hstarting⟩ := queued_le run h hlimit hprompt hout
  · exact hle
  · have hidle : s'.thread u = (fresh config).thread u := by
      refine (run.snoc h).thread_eq fun m hm hmu => ?_
      obtain rfl : u = t' := hone m hm u hmu
      exact hu ht'
    rw [hidle] at hstarting
    cases hstarting

/-! ### Adds that are turned away -/

/-- No call is refused for want of room, other than by its own wait. -/
structure Candid (s : System) : Prop where
  error : ∀ err, s.conn.error = some err → err.isOverloaded = false
  failures : ∀ err ∈ s.tally .failures, err.isOverloaded = false

theorem candid_fresh (config : Config) : (fresh config).Candid := ⟨by simp [fresh, Connection.fresh], by simp⟩

theorem candid_fewer (hc : s.Candid) (herr : s'.conn.error = s.conn.error)
    (hfailures : s'.tally .failures ≤ s.tally .failures) : s'.Candid :=
  ⟨by rw [herr]; exact hc.error, fun err hmem => hc.failures err (Multiset.subset_of_le hfailures hmem)⟩

theorem candid_same (hc : s.Candid) (herr : s'.conn.error = s.conn.error)
    (hfailures : s'.tally .failures = s.tally .failures) : s'.Candid :=
  candid_fewer hc herr hfailures.le

theorem candid_pop (hc : s.Candid) {frame : Frame} {rest : List Frame} (hst : (s.thread t).stack = frame :: rest)
    (herr : s'.conn.error = s.conn.error) (hfailures : s'.tally .failures = (s.setStack t rest).tally .failures) :
    s'.Candid := by
  refine candid_fewer hc herr ?_
  rw [hfailures, tally_pop _ hst]
  exact Multiset.le_add_left _ _

/-- A call will be refused. -/
theorem candid_failing (hc : s.Candid) {err : Error} (hcandid : err.isOverloaded = false)
    (herr : s'.conn.error = some err) (hfailures : s'.tally .failures ≤ err ::ₘ s.tally .failures) : s'.Candid := by
  refine ⟨by simpa [herr] using hcandid, fun other hmem => ?_⟩
  obtain rfl | hmem := Multiset.mem_cons.1 (Multiset.subset_of_le hfailures hmem)
  · exact hcandid
  · exact hc.failures other hmem

theorem candid_step (hnum : s.Numbered) (hc : s.Candid) (h : Step s a s' sig) : s'.Candid := by
  have hfresh := hnum.outstanding _ (Nat.le_refl _)
  cases h with
  | addNothing _ _ | addRefused _ _ _ | flushRefused _ _ | flushHeld _ _ _ | flushNothing _ _ _ _ | registered _ _
  | reset _ | transportPending => exact candid_same hc rfl rfl
  | addQueued hout hsrc herr hheld hroom =>
    rw [Connection.queue?_eq_ok hroom]
    exact candid_same hc rfl rfl
  | recycle hout => exact ⟨by simp [Connection.recycle], hc.failures⟩
  | addBlocking _ _ _ | addGranted _ _ _ _ | addFull _ _ _ _ _ | flushAwaits _ _ _ | flushCollects _ _ _
  | registeredFree _ _ => exact candid_same hc rfl (by simp [tally_push, Frame.failures])
  | flushBegun hout herr hfree htake => exact candid_same hc rfl (by simp [tally_begin, Frame.failures])
  | started hst htake => exact candid_same hc rfl (by simp [tally_begin, tally_pop _ hst, Frame.failures])
  | admittedLate hst herr =>
    exact candid_failing hc (hc.error _ herr) herr (by simp [tally_pop _ hst, tally_replace, Frame.failures])
  | driven hst hd => exact candid_same hc rfl (by simp [tally_driven _ hfresh hst hd, Frame.failures])
  | driveDone hst hd => exact candid_same hc rfl (by simp [tally_driveDone _ hd, tally_pop _ hst, Frame.failures])
  | carried hst hd =>
    exact candid_same hc rfl (by simp [tally_carried _ hfresh hd, tally_pop _ hst, Frame.failures])
  | deferred hst hd => exact candid_same hc rfl (by simp [tally_deferred _ hd, tally_pop _ hst, Frame.failures])
  | tripBegun hst hbuf => exact candid_same hc rfl (by simp [tally_trip _ hfresh, tally_pop _ hst, Frame.failures])
  | answered hst | startedNothing hst _ | issued hst | refused hst | addDone hst _ | collectedLate hst _
  | sweptFlush hst _ _ _ | tripDropped hst _ | tripFailed hst _ _ | roomExpired hst _ | tripExpired hst _
  | transportReturned hst | notified hst => exact candid_pop hc hst rfl (by simp)
  | absorbed hst _ _ | filledBehind hst _ _ _ | filled hst _ _ _ | roomMade hst _ | admitted hst _ | chainAwaited hst _
  | yielded hst | collected hst _ | sweptChunk hst _ | sweptPrimary hst _ _ | sweptAdd hst _ _ _ | tripsDone hst _
  | tripDone hst _ _ | chainExpired hst _ | attached hst | told hst | toldFailure hst =>
    exact candid_same hc rfl (by simp [tally_pop _ hst, tally_replace, Frame.failures])
  | strayEnded hout hw | tripEnded hout hw | chainStale hout hw hset | strayForgotten hw | tripForgotten hw
  | chainForgotten hw => exact candid_same hc rfl (by simp [tally_endWrite _ hw])
  | chainQuiet hout hw hset | chainTold hout hw hset | chainGoesOn hout hw hset =>
    exact candid_same hc (hset.error (by simp)) (by simp [tally_endWrite _ hw, tally_push, Frame.failures])
  | @chainFailed t w outcome write flight conn err hout hw hset =>
    have hsome : conn.error = some err := by cases hset; rfl
    refine candid_failing hc (Outcome.not_overloaded hset.written_failed) hsome ?_
    simpa [tally_endWrite _ hw, tally_push, Frame.failures] using Multiset.le_cons_self _ _

theorem candid_run (run : Run (fresh config) moves s) : s.Candid := by
  induction run with
  | nil => exact candid_fresh config
  | snoc run h ih => exact candid_step (numbered_run run) ih (step_perform h)

theorem Candid.top (hc : s.Candid) {frame : Frame} {rest : List Frame} (hst : (s.thread t).stack = frame :: rest) :
    ∀ err ∈ frame.failures, err.isOverloaded = false := by
  intro err hmem
  refine hc.failures err ?_
  rw [tally_pop _ hst]
  exact Multiset.mem_add.2 (.inl hmem)

variable {src : Chunk} {buffered most : Nat} {rest : List Frame}

/-- Only a wait for room that runs out is answered like that. -/
theorem overloaded_step (hc : s.Candid) (h : Step s a s' sig)
    (hsig : sig = some (.replied (.refused (.overloaded buffered most)))) :
    ∃ t src rest, a = .expire t ∧ (s.thread t).stack = .awaitingRoom src buffered most :: rest ∧
      s' = s.setStack t rest := by
  have hcandid : Error.isOverloaded (.overloaded buffered most) ≠ false := by simp [Error.isOverloaded]
  cases h with
  | addRefused _ _ herr | flushRefused _ herr | collectedLate _ herr =>
    cases hsig
    exact absurd (hc.error _ herr) hcandid
  | answered hst | refused hst =>
    cases hsig
    exact absurd (hc.top hst _ (List.mem_singleton_self _)) hcandid
  | tripFailed _ _ hw =>
    cases hsig
    exact absurd (Outcome.not_overloaded hw) hcandid
  | @startedNothing t rest starter g hst htake => cases starter <;> cases hsig
  | @issued t rest m starter hst => cases starter <;> cases hsig
  | @roomExpired t rest src _ _ hst _ =>
    cases hsig
    exact ⟨t, src, rest, rfl, hst, rfl⟩
  | _ => cases hsig

/-- A thread begins to wait for room with a call that finds the permit held and the queue full. -/
theorem awaitingRoom_step (hs : s.Stacked) (h : Step s a s' sig) (ht : a.thread = some t)
    (hst : (s'.thread t).stack = .awaitingRoom src buffered most :: rest) :
    a = .call t (.add src .nonBlocking) ∧ sig = none ∧ s.conn.permit.held = true ∧
      s.conn.queue? src = .error (buffered, most) ∧ s' = s.push t (.awaitingRoom src buffered most) := by
  have hnot : ¬ ∀ f ∈ (s'.thread t).stack, f.isBase = true := by simp [hst, Frame.isBase]
  have hquiet : sig.any Signal.isOutward = false := by
    by_contra hout
    exact hnot (based_step hs h ht (by simpa using hout))
  cases h with
  | addFull hout hsrc herr hheld hroom =>
    cases ht
    rw [thread_push_self] at hst
    cases hst
    exact ⟨rfl, rfl, hheld, hroom, rfl⟩
  | strayEnded hout _ | tripEnded hout _ | chainStale hout _ _ | chainQuiet hout _ _ =>
    cases ht
    exact absurd (hs.outside hout) hnot
  | driveDone hbelow _ | deferred hbelow _ =>
    cases ht
    rw [thread_setThread, if_pos rfl] at hnot
    exact absurd (hs.below hbelow) hnot
  | transportReturned hbelow | notified hbelow =>
    cases ht
    exact absurd (based_pop hs hbelow) hnot
  | addBlocking _ _ _ | addGranted _ _ _ _ | flushAwaits _ _ _ | flushCollects _ _ _ | flushBegun _ _ _ _
  | registeredFree _ _ | started _ _ | absorbed _ _ _ | filledBehind _ _ _ _ | filled _ _ _ _ | roomMade _ _
  | admittedLate _ _ | admitted _ _ | chainAwaited _ _ | yielded _ | collected _ _ | sweptChunk _ _ | sweptPrimary _ _ _
  | sweptAdd _ _ _ _ | tripsDone _ _ | tripDone _ _ _ | chainExpired _ _ | attached _ | told _ | toldFailure _
  | chainTold _ _ _ | chainGoesOn _ _ _ | chainFailed _ _ _ =>
    cases ht
    simp [begin] at hst
  | strayForgotten _ | tripForgotten _ | chainForgotten _ | transportPending => cases ht
  | _ => simp [Signal.isOutward] at hquiet

/-- A call that is refused for want of room is the last thing its thread did, and without it all else is the same. -/
theorem turned_away (run : Run (fresh config) moves s) (hlimit : config.maxBuffered = some limit)
    (h : s.perform a = some (s', some (.replied (.refused (.overloaded buffered most))))) {others : List Move}
    {last : System} (later : Run s' others last) :
    ∃ t src earlier c mid, moves = earlier ++ c :: mid ∧
      (c.action = .call t (.add src .nonBlocking) ∧ c.signal = none ∧ (∀ m ∈ mid, m.action.thread ≠ some t) ∧
        a = .expire t) ∧
      (c.before.conn.permit.held = true ∧ most = limit ∧ buffered = c.before.conn.store.queued.length ∧
        limit < buffered + src.remaining) ∧
      (c.after.conn = c.before.conn ∧ s'.conn = s.conn) ∧
      ∃ all f, Run (fresh config) (earlier ++ all) f ∧ all.map Move.shows = (mid ++ others).map Move.shows ∧
        f.conn = last.conn ∧ f.thread = last.thread := by
  obtain ⟨t, src, rest, rfl, hst, rfl⟩ := overloaded_step (candid_run run) (step_perform h) rfl
  obtain ⟨hidle, -⟩ | ⟨earlier, ⟨s₁, act, s₂, sig⟩, mid, rfl, ht, hkept, hmid⟩ := thread_run run t
  · simp [hidle] at hst
  obtain ⟨run₁, hcall⟩ := run.split rfl
  have hwait : (s₂.thread t).stack = .awaitingRoom src buffered most :: rest := by
    rw [← hst, hkept]
  obtain ⟨hact, hsig, hheld, hfull, hafter⟩ := awaitingRoom_step (stacked_run run₁) (step_perform hcall) ht hwait
  have hwaiting := run.rest rfl
  simp only at hact hsig hheld hfull hafter hwaiting
  subst hafter
  obtain ⟨hmost, hbuffered, hmore⟩ := Connection.queue?_eq_error hfull (sound_run run₁).store.wellFormed
  rw [config_run run₁, hlimit] at hmost
  cases hmost
  rw [thread_push_self] at hkept hwait
  have hback : s.setStack t rest = s.setThread t (s₁.thread t) := by
    rw [setStack, hkept, ← (List.cons.inj hwait).2]
  rw [hback] at later
  obtain ⟨all, f, run', hshows, hsame⟩ := run_elsewhere hwaiting hmid later
  exact ⟨t, src, earlier, _, mid, rfl, ⟨hact, hsig, hmid, rfl⟩, ⟨hheld, rfl, hbuffered, hmore⟩,
    ⟨rfl, rfl⟩, all, f, run₁.append run', hshows, hsame.conn_eq.symm, funext fun u => (hsame.thread_eq trivial).symm⟩

/-- The queue keeps to its limit whenever a call returns and whenever a write goes to the transport. Where calls and
completions come on several threads there is a moment when it does not show: another thread has just stored its data and
is about to begin a chain with it. And an add that is refused for want of room found
the permit held and too little room, leaves the connection as it is, and might as well not have been called: whatever
else was and will be done, told and handed to the transport is the same without it. -/
theorem queue_limit (run : Run (fresh config) moves s) (hlimit : config.maxBuffered = some limit)
    (hprompt : ∀ m ∈ moves, m.IsPrompt) :
    (OnOneThread moves →
      ∀ m ∈ moves, m.signal.any Signal.isOutward = true → m.after.conn.store.queued.length ≤ limit) ∧
    (∀ m ∈ moves, m.signal.any Signal.isOutward = true → m.after.conn.store.queued.length ≤ limit ∨
      ∃ u, m.action.thread ≠ some u ∧ (m.after.thread u).stack.head?.any Frame.isStarting = true) ∧
    ∀ before e after buffered most, moves = before ++ e :: after →
      e.signal = some (.replied (.refused (.overloaded buffered most))) →
      ∃ t src earlier c mid, before = earlier ++ c :: mid ∧
        (c.action = .call t (.add src .nonBlocking) ∧ c.signal = none ∧ (∀ m ∈ mid, m.action.thread ≠ some t) ∧
          e.action = .expire t) ∧
        (c.before.conn.permit.held = true ∧ most = limit ∧ buffered = c.before.conn.store.queued.length ∧
          limit < buffered + src.remaining) ∧
        (c.after.conn = c.before.conn ∧ e.after.conn = e.before.conn) ∧
        ∃ all f, Run (fresh config) (earlier ++ all) f ∧ all.map Move.shows = (mid ++ after).map Move.shows ∧
          f.conn = s.conn ∧ f.thread = s.thread := by
  refine ⟨fun ⟨t, hone⟩ m hm hout => ?_, fun m hm hout => ?_, ?_⟩
  · obtain ⟨before, after, rfl⟩ := List.append_of_mem hm
    obtain ⟨earlier, hmove⟩ := run.split rfl
    rw [List.append_cons, List.forall_mem_append] at hprompt hone
    exact queued_le_of_onOneThread earlier hmove hlimit hprompt.1 ⟨t, hone.1⟩ hout
  · obtain ⟨before, after, rfl⟩ := List.append_of_mem hm
    obtain ⟨earlier, hmove⟩ := run.split rfl
    rw [List.append_cons, List.forall_mem_append] at hprompt
    exact queued_le earlier hmove hlimit hprompt.1 hout
  · rintro before ⟨s₁, a, s₂, _⟩ after buffered most rfl rfl
    obtain ⟨earlier, hrefused⟩ := run.split rfl
    exact turned_away earlier hlimit hrefused (run.rest rfl)

/-- With one byte at the transport and room for one more, an add of two bytes waits for room in vain. -/
theorem queue_limit_refused : ∃ moves s, Run (fresh { maxBuffered := some 1 }) moves s ∧
    s.conn.store.queued.length ≤ 1 ∧
    ∃ src earlier c later, moves = earlier ++ c :: later ∧ c.action = .call 0 (.add src .nonBlocking) ∧
      1 < c.before.conn.store.queued.length + src.remaining ∧
      ∃ all f, Run (fresh { maxBuffered := some 1 }) (earlier ++ all) f ∧ f.conn = s.conn ∧ f.thread = s.thread := by
  obtain ⟨moves, s, run, hprompt, hone, hended⟩ := Run.exists_of_follow (fresh { maxBuffered := some 1 })
    [.call 0 (.add { bytes := ⟨#[97]⟩ } .nonBlocking), .run 0, .run 0, .resume 0, .run 0, .run 0,
      .call 0 (.add { bytes := ⟨#[98, 99]⟩ } .nonBlocking)]
    (P := fun moves s => (∀ m ∈ moves, m.IsPrompt) ∧ (∀ m ∈ moves, ∀ u ∈ m.action.thread, u = 0) ∧
      (s.perform (.expire 0)).any (fun turn => turn.2.any Signal.isOverloaded) = true) (by decide +kernel)
  obtain ⟨⟨s', sig⟩, hperform, hsig⟩ := (Option.any_eq_true _ _).1 hended
  obtain ⟨buffered, most, rfl⟩ := Signal.eq_of_isOverloaded hsig
  have hlast : Move.IsPrompt ⟨s, .expire 0, s', some (.replied (.refused (.overloaded buffered most)))⟩ := trivial
  obtain ⟨hqueued, -, hrefused⟩ := queue_limit (run.snoc hperform) rfl
    (List.forall_mem_append.2 ⟨hprompt, List.forall_mem_singleton.2 hlast⟩)
  have hlimited := hqueued
    ⟨0, List.forall_mem_append.2 ⟨hone, List.forall_mem_singleton.2 fun _ hu => (Option.some.inj hu).symm⟩⟩ _
    (List.mem_append_right _ (List.mem_singleton_self _)) rfl
  obtain ⟨t, src, earlier, c, mid, rfl, ⟨hcall, -, -, ht⟩, ⟨-, rfl, rfl, hmore⟩, -, all, f, run', -, hf⟩ :=
    hrefused moves _ [] _ _ rfl rfl
  cases ht
  exact ⟨_, s', run.snoc hperform, hlimited, src, earlier, c, mid ++ [_], List.append_assoc _ _ _, hcall, hmore, all, f,
    run', hf⟩

/-- With more than one thread the limit does not bind whenever a write goes to the transport: a thread is about to hand
over what is left of a write when the connection is recycled, and does so after the producer has stored four bytes anew,
three of them beyond the primary buffer. Nor does it bind blocking flushes, even on one thread: what such a flush could
not write goes back to the queue, which the transport has filled up meanwhile. -/
theorem queue_limit_exceeded :
    (¬ ∀ (config : Config) (limit : Nat) (moves : List Move) (s : System), Run (fresh config) moves s →
      config.maxBuffered = some limit → (∀ m ∈ moves, m.IsPrompt) →
      ∀ m ∈ moves, m.signal.any Signal.isOutward = true → m.after.conn.store.queued.length ≤ limit) ∧
    ¬ ∀ (config : Config) (limit : Nat) (moves : List Move) (s : System), Run (fresh config) moves s →
      config.maxBuffered = some limit → (∀ m ∈ moves, m.IsPrompt ∨ m.action.isBlockingFlush = true) →
      OnOneThread moves →
      ∀ m ∈ moves, m.signal.any Signal.isOutward = true → m.after.conn.store.queued.length ≤ limit := by
  refine ⟨fun h => ?_, fun h => ?_⟩
  · let config : Config := { maxBuffered := some 1, bufferSize := 1 }
    obtain ⟨moves, s, run, hprompt, m, hm, hsig, hthree⟩ := Run.exists_of_follow (fresh config)
      [.call 0 (.add { bytes := ⟨#[97, 98]⟩ } .nonBlocking), .run 0, .run 0, .resume 0, .run 0, .run 0,
        .complete 1 0 (.ok 1), .call 0 .recycle, .call 0 (.add { bytes := ⟨#[99, 100, 101, 102]⟩ } .nonBlocking),
        .run 1]
      (P := fun moves _ => (∀ m ∈ moves, m.IsPrompt) ∧
        ∃ m ∈ moves, m.signal.any Signal.isOutward = true ∧ m.after.conn.store.queued.length = 3) (by decide +kernel)
    have hlimit := h config 1 moves s run rfl hprompt m hm hsig
    omega
  · let config : Config := { maxBuffered := some 2 }
    obtain ⟨moves, s, run, hprompt, hone, m, hm, hsig, hfour⟩ := Run.exists_of_follow (fresh config)
      [.call 0 (.add { bytes := ⟨#[97]⟩ } .nonBlocking), .run 0, .run 0, .resume 0, .run 0, .run 0,
        .call 0 (.add { bytes := ⟨#[98, 99]⟩ } .nonBlocking), .abandon 0, .call 0 (.flush .blocking), .run 0, .run 0,
        .run 0, .call 0 (.add { bytes := ⟨#[100]⟩ } .nonBlocking), .run 0, .run 0, .resume 0, .run 0, .run 0,
        .call 0 (.add { bytes := ⟨#[101, 102]⟩ } .nonBlocking), .complete 0 1 (.error (.simple .connectionReset)),
        .resume 0, .run 0]
      (P := fun moves _ => (∀ m ∈ moves, m.IsPrompt ∨ m.action.isBlockingFlush = true) ∧
        (∀ m ∈ moves, ∀ u ∈ m.action.thread, u = 0) ∧
        ∃ m ∈ moves, m.signal.any Signal.isOutward = true ∧ m.after.conn.store.queued.length = 4) (by decide +kernel)
    have hlimit := h config 2 moves s run rfl hprompt ⟨0, hone⟩ m hm hsig
    omega

end System

end Outflow
