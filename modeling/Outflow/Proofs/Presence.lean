import Outflow.Proofs.Locality
import Outflow.Proofs.Notices

/-! Which calls are still issuing the chain that they started. A chain that ends well tells its producer exactly if it
does not end from within such a call. -/
namespace Outflow

/-- The chain that the frame is issuing. -/
def Frame.marker? : Frame → Option MarkerId
  | issuing k _ => some k
  | _ => none

/-- The chains whose starting calls have not returned from issuing them, the innermost first. -/
def Thread.issuing (th : Thread) : List MarkerId := th.stack.filterMap Frame.marker?

namespace System

variable {config : Config} {s s' : System} {moves : List Move} {m : Move} {a : Action} {sig : Option Signal}
  {t u : ThreadId} {k : MarkerId} {w : WriteId} {write : Write} {flight : Flight} {outcome : Outcome}

/-- What one step does to the calls that are issuing. -/
inductive Crossed (s : System) (a : Action) (s' : System) : Prop
  | aside (hmarkers : s'.markers = s.markers) (hissuing : ∀ u, (s'.thread u).issuing = (s.thread u).issuing)
      (hstays : ∀ t, a = .run t → (s.thread t).stack.head?.bind Frame.marker? = none)
  | entered (t : ThreadId) (job : Job) (starter : Starter) (rest : List Frame) (ha : a.thread = some t)
      (hmarkers : s'.markers = s.markers.fresh.1.enter s.markers.next t)
      (hstack : (s'.thread t).stack = .carrying job :: .issuing s.markers.next starter :: rest)
      (hjob : job.flight.marker = s.markers.next) (hrest : rest.filterMap Frame.marker? = (s.thread t).issuing)
      (hdeferral : (s'.thread t).deferral = (s.thread t).deferral)
      (hstays : ∀ t, a = .run t → (s.thread t).stack.head?.bind Frame.marker? = none)
  | left (t : ThreadId) (k : MarkerId) (starter : Starter) (ha : a = .run t)
      (hmarkers : s'.markers = s.markers.exit k)
      (hstack : (s.thread t).stack = .issuing k starter :: (s'.thread t).stack)

/-- A step of one thread that leaves its issuing calls alone. -/
theorem Crossed.of_thread (h : Step s a s' sig) (ha : a.thread = some t) (hmarkers : s'.markers = s.markers)
    (hissuing : (s'.thread t).issuing = (s.thread t).issuing)
    (hstays : a = .run t → (s.thread t).stack.head?.bind Frame.marker? = none) : Crossed s a s' := by
  refine .aside hmarkers (fun u => ?_) ?_
  · by_cases hu : u = t
    · exact hu ▸ hissuing
    · rw [thread_step h (by simpa [ha] using Ne.symm hu)]
  · rintro u rfl
    obtain rfl : u = t := by simpa [Action.thread] using ha
    exact hstays rfl

theorem crossed_step (h : Step s a s' sig) : Crossed s a s' := by
  cases hstep : h with
  | addNothing _ _ | addRefused _ _ _ | addQueued _ _ _ _ _ | flushRefused _ _ | flushHeld _ _ _
  | flushNothing _ _ _ _ | registered _ _ | reset _ | recycle _ | transportPending | strayEnded _ _ | tripEnded _ _
  | chainStale _ _ _ | chainQuiet _ _ _ | strayForgotten _ | tripForgotten _ | chainForgotten _ =>
    exact .aside rfl (fun _ => rfl) (by simp)
  | addBlocking hout _ _ | addGranted hout _ _ _ | addFull hout _ _ _ _ | flushAwaits hout _ _
  | flushCollects hout _ _ | registeredFree hout _ | chainTold hout _ _ | chainGoesOn hout _ _
  | chainFailed hout _ _ =>
    exact .of_thread h rfl rfl (by simp [Thread.issuing, List.filterMap_cons, Frame.marker?]) (by simp)
  | @flushBegun t store write hout herr hfree htake =>
    exact .entered t ⟨write, s.conn.permit.nextGuard, s.markers.next⟩ .flush (s.thread t).stack rfl rfl
      (by simp [begin, Markers.fresh]) rfl rfl (by simp [begin]) (by simp)
  | @started t rest starter g store write hst htake =>
    exact .entered t ⟨write, g, s.markers.next⟩ starter rest rfl rfl (by simp [begin, Markers.fresh]) rfl
      (by simp [Thread.issuing, hst, List.filterMap_cons, Frame.marker?]) (by simp [begin])
      (by simp [hst, Frame.marker?])
  | @issued t rest k starter hst => exact .left t k starter rfl rfl (by simp [hst])
  | driven hst _ | carried hst _ | driveDone hst _ | deferred hst _ | tripBegun hst _ | answered hst
  | startedNothing hst _ | addDone hst _ | refused hst | collectedLate hst _ | roomExpired hst _ | sweptFlush hst _ _ _
  | tripDropped hst _ | tripFailed hst _ _ | tripExpired hst _ | transportReturned hst | notified hst | absorbed hst _ _
  | filledBehind hst _ _ _ | filled hst _ _ _ | roomMade hst _ | admittedLate hst _ | admitted hst _
  | chainAwaited hst _ | yielded hst | collected hst _ | sweptChunk hst _ | sweptPrimary hst _ _ | sweptAdd hst _ _ _
  | tripsDone hst _ | tripDone hst _ _ | chainExpired hst _ | attached hst | told hst | toldFailure hst =>
    exact .of_thread h rfl rfl (by simp [Thread.issuing, hst, List.filterMap_cons, Frame.marker?, thread_setThread])
      (by simp [hst, Frame.marker?])

/-! ### Where the markers are -/

/-- Markers tell which threads are issuing, and no chain is issued twice. -/
structure Present (s : System) : Prop where
  find? : ∀ k t, s.markers.issuing.find? k = some t ↔ k ∈ (s.thread t).issuing
  nodup : ∀ t, (s.thread t).issuing.Nodup

theorem Present.isInline_iff (hp : s.Present) : s.markers.isInline k t = true ↔ k ∈ (s.thread t).issuing := by
  rw [← hp.find?, Markers.isInline, beq_iff_eq]

/-- A chain is issued on one thread at most. -/
theorem Present.mem_issuing_iff (hp : s.Present) (hk : k ∈ (s.thread u).issuing) :
    k ∈ (s.thread t).issuing ↔ t = u := by
  constructor
  · intro hk'
    exact Option.some.inj (((hp.find? k t).2 hk').symm.trans ((hp.find? k u).2 hk))
  · rintro rfl
    exact hk

theorem Present.lt_next (hp : s.Present) (hnum : s.Numbered) (hk : k ∈ (s.thread t).issuing) : k < s.markers.next := by
  by_contra hge
  have hfind := (hp.find? k t).2 hk
  rw [hnum.markers k (Nat.le_of_not_lt hge)] at hfind
  cases hfind

theorem issuing_of_stack {job : Job} {starter : Starter} {rest : List Frame}
    (hst : (s.thread t).stack = .carrying job :: .issuing k starter :: rest) :
    (s.thread t).issuing = k :: rest.filterMap Frame.marker? := by
  simp [Thread.issuing, hst, List.filterMap_cons, Frame.marker?]

theorem issuing_of_left {starter : Starter} {rest : List Frame}
    (hst : (s.thread t).stack = .issuing k starter :: rest) :
    (s.thread t).issuing = k :: rest.filterMap Frame.marker? := by
  simp [Thread.issuing, hst, Frame.marker?]

theorem present_step (hnum : s.Numbered) (hp : s.Present) (h : Step s a s' sig) : s'.Present := by
  have hother {t u : ThreadId} (ha : a.thread = some t) (hne : u ≠ t) :
      (s'.thread u).issuing = (s.thread u).issuing := by
    rw [thread_step h (by simpa [ha] using hne.symm)]
  cases crossed_step h with
  | aside hmarkers hissuing _ =>
    exact ⟨fun k t => by rw [hmarkers, hissuing]; exact hp.find? k t, fun t => hissuing t ▸ hp.nodup t⟩
  | entered t job starter rest ha hmarkers hstack hjob hrest _ _ =>
    have hself : (s'.thread t).issuing = s.markers.next :: (s.thread t).issuing := by
      rw [issuing_of_stack hstack, hrest]
    have hnew (u : ThreadId) : s.markers.next ∉ (s.thread u).issuing := fun hk =>
      Nat.lt_irrefl _ (hp.lt_next hnum hk)
    refine ⟨fun k u => ?_, fun u => ?_⟩
    · rw [hmarkers, Markers.enter, Table.find?_set]
      by_cases hu : u = t
      · subst hu
        rw [hself, List.mem_cons, ← hp.find?, Markers.fresh]
        split
        · next heq => simp [heq]
        · next hne => simp [hne]
      · rw [hother ha hu, Markers.fresh]
        split
        · next heq => simp [heq, hnew u, Ne.symm hu]
        · exact hp.find? k u
    · by_cases hu : u = t
      · subst hu
        rw [hself]
        exact List.nodup_cons.2 ⟨hnew u, hp.nodup u⟩
      · exact hother ha hu ▸ hp.nodup u
  | left t k starter ha hmarkers hstack =>
    have hself : (s.thread t).issuing = k :: (s'.thread t).issuing := issuing_of_left hstack
    have hnodup := hp.nodup t
    rw [hself, List.nodup_cons] at hnodup
    have ha : a.thread = some t := ha ▸ rfl
    refine ⟨fun k' u => ?_, fun u => ?_⟩
    · rw [hmarkers, Markers.exit, Table.find?_erase]
      by_cases hu : u = t
      · subst hu
        split
        · next heq => simp [heq, hnodup.1]
        · next hne => rw [hp.find?, hself, List.mem_cons, or_iff_right hne]
      · rw [hother ha hu]
        split
        · next heq =>
          -- The call that leaves is on `t`, so it is on no other thread.
          have hk : s.markers.issuing.find? k = some t := (hp.find? k t).2 (hself ▸ List.mem_cons_self)
          subst heq
          rw [← hp.find?, hk]
          simpa using Ne.symm hu
        · exact hp.find? k' u
    · by_cases hu : u = t
      · exact hu ▸ hnodup.2
      · exact hother ha hu ▸ hp.nodup u

theorem present_run (run : Run (fresh config) moves s) : s.Present := by
  induction run with
  | nil => exact ⟨by simp [fresh, thread, Thread.issuing], by simp [fresh, thread, Thread.issuing]⟩
  | snoc run h ih => exact present_step (numbered_run run) ih (step_perform h)

/-! ### From the start of a chain on -/

/-- The call that starts chain `k` is on thread `t` and begins to issue it. -/
structure Move.Starts (m : Move) (t : ThreadId) (k : MarkerId) : Prop where
  thread : m.action.thread = some t
  number : m.before.markers.next = k ∧ m.after.markers.next = k + 1
  stack : ∃ job starter rest, (m.after.thread t).stack = .carrying job :: .issuing k starter :: rest ∧
    job.flight.marker = k

/-- The call on thread `t` that started chain `k` returns from issuing it. -/
def Move.Returns (m : Move) (t : ThreadId) (k : MarkerId) : Prop :=
  m.action = .run t ∧ (m.before.thread t).stack.head?.bind Frame.marker? = some k

theorem Move.Starts.mem_issuing (h : m.Starts t k) : k ∈ (m.after.thread t).issuing := by
  obtain ⟨job, starter, rest, hst, -⟩ := h.stack
  exact issuing_of_stack hst ▸ List.mem_cons_self

theorem next_mono (h : Step s a s' sig) : s.markers.next ≤ s'.markers.next := by
  cases crossed_step h with
  | aside hmarkers _ _ => rw [hmarkers]
  | entered t job starter rest _ hmarkers _ _ _ _ _ =>
    rw [hmarkers]
    exact Nat.le_succ _
  | left t k starter _ hmarkers _ =>
    rw [hmarkers]
    rfl

/-- A call that is issuing goes on until it returns, and nobody comes to issue a chain that was started before. -/
theorem issuing_step (hp : s.Present) (hk : k < s.markers.next) (h : Step s a s' sig) : k ∈ (s'.thread t).issuing
    ↔ k ∈ (s.thread t).issuing ∧ ¬ Move.Returns ⟨s, a, s', sig⟩ t k := by
  have hother {u : ThreadId} (ha : a.thread = some u) (hne : t ≠ u) : (s'.thread t).issuing = (s.thread t).issuing := by
    rw [thread_step h (by simpa [ha] using hne.symm)]
  have hstayed (hstays : ∀ t, a = .run t → (s.thread t).stack.head?.bind Frame.marker? = none) :
      ¬ Move.Returns ⟨s, a, s', sig⟩ t k := fun ⟨ha, htop⟩ => by simp [hstays t ha] at htop
  cases crossed_step h with
  | aside hmarkers hissuing hstays => simp [hissuing, hstayed hstays]
  | entered u job starter rest ha hmarkers hstack hjob hrest _ hstays =>
    by_cases ht : t = u
    · subst ht
      rw [issuing_of_stack hstack, hrest]
      simp [hstayed hstays, Nat.ne_of_lt hk]
    · simp [hother ha ht, hstayed hstays]
  | left u k' starter ha hmarkers hstack =>
    have hself : (s.thread u).issuing = k' :: (s'.thread u).issuing := issuing_of_left hstack
    have hreturns : Move.Returns ⟨s, a, s', sig⟩ t k ↔ t = u ∧ k = k' := by
      refine ⟨fun ⟨hrun, htop⟩ => ?_, ?_⟩
      · obtain rfl : u = t := by simpa using ha.symm.trans hrun
        exact ⟨rfl, by simpa [hstack, Frame.marker?] using htop.symm⟩
      · rintro ⟨rfl, rfl⟩
        exact ⟨ha, by simp [hstack, Frame.marker?]⟩
    by_cases ht : t = u
    · subst ht
      have hnodup := hp.nodup t
      rw [hself, List.nodup_cons] at hnodup
      rw [hreturns, hself, List.mem_cons]
      constructor
      · intro hmem
        exact ⟨.inr hmem, fun ⟨_, heq⟩ => hnodup.1 (heq ▸ hmem)⟩
      · rintro ⟨heq | hmem, hne⟩
        · exact absurd ⟨rfl, heq⟩ hne
        · exact hmem
    · simp [hother (ha ▸ rfl) ht, hreturns, ht]

/-- The same for the moves of a run that follow. -/
theorem issuing_rest {earlier : List Move} {mid : System} (run : Run (fresh config) earlier mid)
    (later : Run mid moves s) (hk : k < mid.markers.next) : k < s.markers.next ∧
      (k ∈ (s.thread t).issuing ↔ k ∈ (mid.thread t).issuing ∧ ∀ m ∈ moves, ¬ m.Returns t k) := by
  induction later with
  | nil => exact ⟨hk, by simp⟩
  | snoc later h ih =>
    have hstep := step_perform h
    refine ⟨ih.1.trans_le (next_mono hstep), ?_⟩
    rw [issuing_step (present_run (run.append later)) ih.1 hstep, ih.2, and_assoc, List.forall_mem_append,
      List.forall_mem_singleton]

/-- Each chain was started by some call. -/
theorem exists_starts (run : Run (fresh config) moves s) (hk : k < s.markers.next) :
    ∃ before m after u, moves = before ++ m :: after ∧ m.Starts u k := by
  induction run with
  | nil => exact absurd hk (Nat.not_lt_zero k)
  | @snoc moves s a s' sig run h ih =>
    have hearlier (hlt : k < s.markers.next) : ∃ before m after u,
        moves ++ [⟨s, a, s', sig⟩] = before ++ m :: after ∧ m.Starts u k := by
      obtain ⟨before, m, after, u, rfl, hstarts⟩ := ih hlt
      exact ⟨before, m, after ++ [⟨s, a, s', sig⟩], u, by simp, hstarts⟩
    cases crossed_step (step_perform h) with
    | aside hmarkers _ _ => exact hearlier (hmarkers ▸ hk)
    | entered t job starter rest ha hmarkers hstack hjob _ _ _ =>
      rw [hmarkers] at hk
      obtain hlt | rfl := Nat.lt_succ_iff_lt_or_eq.1 hk
      · exact hearlier hlt
      · exact ⟨moves, _, [], t, rfl, ha, ⟨rfl, by rw [hmarkers]; rfl⟩, job, starter, rest, hstack, hjob⟩
    | left t k' starter _ hmarkers _ =>
      rw [hmarkers] at hk
      exact hearlier hk

/-! ### Calls from within a loop -/

/-- The first write of chain `k` is in hand on thread `t` as long as the call that started the chain is issuing it. -/
def PutOff (s : System) (t : ThreadId) (k : MarkerId) : Prop :=
  k ∈ (s.thread t).issuing → ∃ job starter rest queue, job.flight.marker = k ∧
    ((s.thread t = { stack := .carrying job :: .issuing k starter :: rest, deferral := .running queue }) ∨
      (s.thread t = { stack := .issuing k starter :: rest, deferral := .running queue } ∧ job ∈ queue))

theorem putOff_step (hp : s.Present) (hk : k < s.markers.next) (hoff : s.PutOff t k) (h : Step s a s' sig) :
    s'.PutOff t k := by
  intro hmem
  obtain ⟨hmem, hstays⟩ := (issuing_step hp hk h).1 hmem
  obtain ⟨job, starter, rest, queue, hjob, hth⟩ := hoff hmem
  by_cases ha : a.thread = some t
  · -- The thread is inside the connection, so all it can do is to go on.
    obtain hth | ⟨hth, -⟩ := hth
    · obtain rfl := eq_run_of_isBusy (congrArg Thread.stack hth) rfl ha h
      obtain rfl : s' = s.setThread t
          { stack := .issuing k starter :: rest, deferral := .running (queue ++ [job]) } := by
        cases h with
        | deferred hst hd => simp_all
        | _ => simp_all
      refine ⟨job, starter, rest, queue ++ [job], hjob, .inr ⟨?_, by simp⟩⟩
      rw [thread_setThread, if_pos rfl]
    · obtain rfl := eq_run_of_isBusy (congrArg Thread.stack hth) rfl ha h
      exact absurd ⟨rfl, by simp [hth, Frame.marker?]⟩ hstays
  · rw [thread_step h ha]
    exact ⟨job, starter, rest, queue, hjob, hth⟩

theorem putOff_rest {earlier : List Move} {mid : System} (run : Run (fresh config) earlier mid)
    (later : Run mid moves s) (hk : k < mid.markers.next) (hoff : mid.PutOff t k) : s.PutOff t k := by
  induction later with
  | nil => exact hoff
  | snoc later h ih =>
    exact putOff_step (present_run (run.append later)) (issuing_rest (t := t) run later hk).1 ih (step_perform h)

/-- Starting a chain does not start a loop. -/
theorem Move.Starts.deferral_eq (hstarts : m.Starts t k) (h : Step m.before m.action m.after m.signal) :
    (m.after.thread t).deferral = (m.before.thread t).deferral := by
  have hnext : m.after.markers.next = m.before.markers.next + 1 := hstarts.number.1 ▸ hstarts.number.2
  cases crossed_step h with
  | aside hmarkers _ _ => simp [hmarkers] at hnext
  | entered u job starter rest ha _ _ _ _ hdeferral _ =>
    obtain rfl : u = t := by simpa [ha] using hstarts.thread
    exact hdeferral
  | left u k' starter _ hmarkers _ => simp [hmarkers, Markers.exit] at hnext

/-- A call on a thread on which a loop runs finds that it has to put its first write off. -/
theorem Move.Starts.putOff (hstarts : m.Starts t k) (h : Step m.before m.action m.after m.signal)
    (hloop : (m.before.thread t).deferral.isIdle = false) : m.after.PutOff t k := by
  intro _
  obtain ⟨job, starter, rest, hst, hjob⟩ := hstarts.stack
  have hkept := hstarts.deferral_eq h
  obtain ⟨queue, hqueue⟩ : ∃ queue, (m.after.thread t).deferral = .running queue := by
    cases hd : (m.before.thread t).deferral with
    | idle => simp [hd, Deferral.isIdle] at hloop
    | running queue => exact ⟨queue, hkept.trans hd⟩
  refine ⟨job, starter, rest, queue, hjob, .inl ?_⟩
  rw [← hst, ← hqueue]

/-- A write that the transport has is not in hand. -/
theorem PutOff.not_mem_issuing (hdistinct : s.Distinct) (hoff : s.PutOff t flight.marker)
    (hw : s.outstanding.find? w = some (.chain write flight)) : flight.marker ∉ (s.thread t).issuing := by
  intro hmem
  obtain ⟨job, starter, rest, queue, hjob, hth⟩ := hoff hmem
  have hinhand : job ∈ (s.endWrite w).tally .jobs := by
    have hthread : (s.endWrite w).thread t = s.thread t := rfl
    rw [tally_eq .jobs (s.endWrite w) t, hthread, Multiset.mem_add, Multiset.mem_coe]
    left
    obtain hth | ⟨hth, hqueue⟩ := hth
    · simp [hth, Tally.ofThread, Frame.jobs]
    · simp [hth, Tally.ofThread, Frame.jobs, hqueue]
  exact hdistinct.marker_ne_of_endWrite hw job hinhand hjob

/-! ### The end of a chain -/

/-- The write was the last one of its chain, and the chain ends without a failure. -/
structure EndsWell (s : System) (flight : Flight) (outcome : Outcome) (s' : System) : Prop where
  isCurrent : s.conn.permit.isCurrent flight.guard = true
  succeeds : outcome.written.isOk = true
  free : s'.conn.permit.held = false

theorem EndsWell.of_finished {isInline notify : Bool} {conn : Connection}
    (h : s.conn.Settled flight isInline outcome write conn (.finished notify)) (hs : s'.conn = conn) :
    s.EndsWell flight outcome s' := by
  have hpermit := h.permit
  cases h with
  | finished hw hg hfollow hb =>
    exact ⟨hg, by simp [hw, Except.isOk, Except.toBool], by simp [hs, hpermit, Permit.release, hg]⟩

/-- A chain that ends well has it told that the producer may go on if somebody asked and is not inside, and a request
that brings no word stays. -/
theorem told_iff (hw : s.outstanding.find? w = some (.chain write flight))
    (h : Step s (.complete t w outcome) s' sig) :
    (s'.Tells t .writable ↔
      s.EndsWell flight outcome s' ∧ s.conn.interest = true ∧ s.markers.isInline flight.marker t = false) ∧
    (s.EndsWell flight outcome s' → s.conn.interest = true → s.markers.isInline flight.marker t = true →
      sig = none ∧ s'.thread t = s.thread t ∧ s'.conn.interest = true) := by
  -- Nothing is told by a write after which the chain goes on, or with which it fails, or that is out of date.
  have hsilent (hnot : ¬ s.EndsWell flight outcome s') (hnone : ¬ s'.Tells t .writable) :
      (s'.Tells t .writable ↔
        s.EndsWell flight outcome s' ∧ s.conn.interest = true ∧ s.markers.isInline flight.marker t = false) ∧
      (s.EndsWell flight outcome s' → s.conn.interest = true → s.markers.isInline flight.marker t = true →
        sig = none ∧ s'.thread t = s.thread t ∧ s'.conn.interest = true) :=
    ⟨⟨fun h => absurd h hnone, fun h => absurd h.1 hnot⟩, fun hend => absurd hend hnot⟩
  cases h with
  | strayEnded _ hw' | tripEnded _ hw' => cases hw.symm.trans hw'
  | chainStale hout hw' hset =>
    cases hw.symm.trans hw'
    exact hsilent (fun hend => by simpa [hset.not_isCurrent] using hend.isCurrent) (not_tells_of_isOutside hout)
  | chainGoesOn _ hw' hset =>
    cases hw.symm.trans hw'
    refine hsilent (fun hend => ?_) (by simp [Tells])
    have hheld := hset.isCurrent (by simp)
    simp only [Permit.isCurrent, Bool.and_eq_true] at hheld
    simpa [hset.permit, hheld.1] using hend.free
  | chainFailed _ hw' hset =>
    cases hw.symm.trans hw'
    refine hsilent (fun hend => ?_) (by simp [Tells])
    simpa [hset.written_failed, Except.isOk, Except.toBool] using hend.succeeds
  | chainQuiet hout hw' hset =>
    cases hw.symm.trans hw'
    have hnotify := hset.notify_eq
    refine ⟨iff_of_false (not_tells_of_isOutside hout) ?_, fun _ hi _ => ⟨rfl, rfl, ?_⟩⟩
    · rintro ⟨-, hi, hinline⟩
      simp [hi, hinline] at hnotify
    · simpa using hset.interest_eq.trans (by simpa using hi)
  | chainTold _ hw' hset =>
    cases hw.symm.trans hw'
    have hnotify := hset.notify_eq.symm
    simp only [Bool.and_eq_true, Bool.not_eq_true'] at hnotify
    refine ⟨iff_of_true (by simp [Tells]) ⟨.of_finished hset (by simp), hnotify⟩, fun _ _ hinline => ?_⟩
    simp [hinline] at hnotify

/-- Word at the end of a chain is held back exactly within the call that started the chain. Else the thread that ends
it gives it next, whatever other threads do in between. -/
theorem inline_suppression_exact (run : Run (fresh config) moves s)
    (hw : s.outstanding.find? w = some (.chain write flight))
    (h : s.perform (.complete t w outcome) = some (s', sig)) :
    (∃ before m after u, moves = before ++ m :: after ∧ m.Starts u flight.marker) ∧
    (s'.Tells t .writable →
      ∀ later s₂, Run s' later s₂ → s₂.Tells t .writable ∨ Delivered t .writable later) ∧
    ∀ before m after u, moves = before ++ m :: after → m.Starts u flight.marker →
      (s.EndsWell flight outcome s' → s.conn.interest = true →
        (s'.Tells t .writable ↔ ¬ (t = u ∧ ∀ m' ∈ after, ¬ m'.Returns u flight.marker)) ∧
        ((t = u ∧ ∀ m' ∈ after, ¬ m'.Returns u flight.marker) →
          sig = none ∧ s'.thread t = s.thread t ∧ s'.conn.interest = true)) ∧
      (s'.Tells t .writable → s.EndsWell flight outcome s' ∧ s.conn.interest = true) ∧
      (s'.Tells t .writable → t = u → ∃ m' ∈ after, m'.Returns u flight.marker) ∧
      ((m.before.thread u).deferral.isIdle = false → ∃ m' ∈ after, m'.Returns u flight.marker) := by
  obtain ⟨htold, hheldBack⟩ := told_iff hw (step_perform h)
  have hold : flight.marker < s.markers.next := (balanced_run run).old _ (mem_jobs_of_outstanding hw)
  refine ⟨exists_starts run hold, fun htells later s₂ hlater => htells.delivered hlater,
    fun before m after u hmoves hstarts => ?_⟩
  obtain ⟨earlier, hperform⟩ := run.split hmoves
  have earlier := earlier.snoc hperform
  have hmem := hstarts.mem_issuing
  have hk := (present_run earlier).lt_next (numbered_run earlier) hmem
  have hinside : s.markers.isInline flight.marker t = true ↔ t = u ∧ ∀ m' ∈ after, ¬ m'.Returns u flight.marker := by
    rw [(present_run run).isInline_iff, (issuing_rest earlier (run.rest hmoves) hk).2,
      (present_run earlier).mem_issuing_iff hmem]
    exact and_congr_right fun heq => heq ▸ Iff.rfl
  refine ⟨fun hend hi => ⟨?_, fun hsame => hheldBack hend hi (hinside.2 hsame)⟩, fun htells => ?_,
    fun htells hsame => ?_, fun hloop => ?_⟩
  · rw [htold, ← hinside, Bool.not_eq_true]
    exact ⟨fun h => h.2.2, fun h => ⟨hend, hi, h⟩⟩
  · exact ⟨(htold.1 htells).1, (htold.1 htells).2.1⟩
  · by_contra hnone
    simp only [not_exists, not_and] at hnone
    have hin := hinside.2 ⟨hsame, hnone⟩
    rw [(htold.1 htells).2.2] at hin
    cases hin
  · have hoff := putOff_rest earlier (run.rest hmoves) hk (hstarts.putOff (step_perform hperform) hloop)
    have hgone := hoff.not_mem_issuing (distinct_run run) hw
    by_contra hnone
    simp only [not_exists, not_and] at hnone
    exact hgone ((issuing_rest earlier (run.rest hmoves) hk).2.2 ⟨hmem, hnone⟩)

/-- A producer asks for word while its call still hands the byte over, and the transport is done with it at once. -/
theorem inline_suppression_exact_inside : ∃ moves s s' sig k, Run (fresh {}) moves s ∧
    s.perform (.complete 0 0 (.ok 1)) = some (s', sig) ∧ sig = none ∧ s'.conn.interest = true ∧
    ∃ before m after, moves = before ++ m :: after ∧ m.Starts 0 k ∧ ∀ m' ∈ after, ¬ m'.Returns 0 k := by
  obtain ⟨moves, s, run, hi, hfind, hturn⟩ := Run.exists_of_follow (fresh {})
    [.call 0 (.add { bytes := ⟨#[97]⟩ } .nonBlocking), .run 0, .run 0, .call 0 .registerInterest]
    (P := fun _ s => s.conn.interest = true ∧
      ((s.outstanding.find? 0).any fun h => h.isChain && (Tally.guards.ofHanded h).all s.conn.permit.isCurrent) = true ∧
      ((s.perform (.complete 0 0 (.ok 1))).any fun turn =>
        (turn.1.thread 0).isOutside && !turn.1.conn.permit.held) = true)
    (by decide +kernel)
  obtain ⟨handed, hw, hhanded⟩ := (Option.any_eq_true _ _).1 hfind
  obtain ⟨⟨s', sig⟩, hperform, hend⟩ := (Option.any_eq_true _ _).1 hturn
  simp only [Bool.and_eq_true, Bool.not_eq_true'] at hend
  obtain ⟨hout, hover⟩ := hend
  cases handed with
  | trip buf | stray buf => simp [Handed.isChain] at hhanded
  | chain write flight =>
    have hcurrent : s.conn.permit.isCurrent flight.guard = true := by simpa [Handed.isChain] using hhanded
    obtain ⟨⟨before, m, after, u, hmoves, hstarts⟩, -, hall⟩ := inline_suppression_exact run hw hperform
    obtain ⟨htold, hheldBack⟩ := (hall before m after u hmoves hstarts).1 ⟨hcurrent, rfl, hover⟩ hi
    obtain ⟨rfl, hinside⟩ := not_not.1 fun hnot => not_tells_of_isOutside hout (htold.2 hnot)
    obtain ⟨hsig, -, hkept⟩ := hheldBack ⟨rfl, hinside⟩
    exact ⟨moves, s, s', sig, flight.marker, run, hperform, hsig, hkept, before, m, after, hmoves, hstarts, hinside⟩

end System

end Outflow
