import Outflow.Proofs.Telling

/-! The first failure of a chain sticks. From then on the connection takes nothing and sends nothing, and the producer
is told of it once, until it recycles the connection. -/
namespace Outflow

theorem Store.bufferedBytes_discard (s : Store) : s.discard.1.bufferedBytes = 0 := by
  cases hp : s.primary <;> simp [discard, bufferedBytes, hp, Primary.clear, Primary.remaining]

/-- Frames of a call that was told of the failure or will be, or that has nothing to do with it. -/
def Frame.Heeds (err : Error) : Frame → Prop
  | starting _ _ | adding _ | sweeping _ | writing _ _ | awaitingReply _ _ => False
  | refusing err' _ => err' = err
  | _ => True

/-- The call has only its answer left to give, which was decided before. -/
def Frame.isDone : Frame → Bool
  | answering _ | issuing _ _ => true
  | _ => false

namespace System

variable {config : Config} {start s s' : System} {moves : List Move} {a : Action} {sig : Option Signal} {t : ThreadId}
  {frame frame' : Frame} {rest : List Frame} {err : Error}

/-! ### Failures that are due -/

/-- The failures that threads are about to attach. -/
def alarms (s : System) : Multiset Error := (s.tally .news).bind fun event => ↑event.failures

/-- A failure is attached for each one that a chain ends with, and for no other. -/
theorem Run.attaches (run : Run start moves s) (hnum : start.Numbered) :
    ↑(attached moves) + s.alarms = ↑((moves.flatMap Move.brings).flatMap Event.failures) + start.alarms := by
  have htold : attached moves = (moves.flatMap Move.told).flatMap Event.failures := by
    rw [attached, List.flatMap_assoc]
    congr 1
    funext m
    unfold Move.attached Move.told
    split <;> split <;> simp_all [Event.failures]
  have hbind (events : List Event) : ((events.flatMap Event.failures : List Error) : Multiset Error)
      = Multiset.bind ↑events fun event : Event => ↑event.failures := (Multiset.coe_bind _ _).symm
  rw [htold, hbind, hbind, alarms, alarms, ← Multiset.add_bind, ← Multiset.add_bind, run.news hnum]

/-! ### After the failure -/

/-- The connection keeps its failure and is empty, and no frame can change that: the permit is held only by those that
are about to give it back. -/
structure Spent (err : Error) (s : System) : Prop where
  error : s.conn.error = some err
  empty : s.conn.store.bufferedBytes = 0
  heeds : ∀ f ∈ s.tally .frames, f.Heeds err
  held : s.conn.permit.held = true → s.tally .waiters ≠ 0

theorem Spent.free (h : s.Spent err) (hs : s.Stacked) (hquiet : s.Quiet) : s.conn.permit.held = false := by
  by_contra hheld
  exact h.held (by simpa using hheld) (hquiet.waiters_eq_zero hs)

theorem Spent.top (h : s.Spent err) (hst : (s.thread t).stack = frame :: rest) : frame.Heeds err :=
  h.heeds frame (by simp [tally_pop .frames hst])

theorem Spent.below (h : s.Spent err) (hst : (s.thread t).stack = frame :: rest) :
    ∀ f ∈ (s.setStack t rest).tally .frames, f.Heeds err := fun f hf =>
  h.heeds f (tally_pop .frames hst ▸ Multiset.mem_add.2 (.inr hf))

theorem spent_same (h : s.Spent err) (hconn : s'.conn.error = s.conn.error) (hstore : s'.conn.store = s.conn.store)
    (hpermit : s'.conn.permit = s.conn.permit) (hwaiters : s'.tally .waiters = s.tally .waiters)
    (hframes : ∀ f ∈ s'.tally .frames, f.Heeds err) : s'.Spent err :=
  ⟨hconn ▸ h.error, hstore ▸ h.empty, hframes, by rw [hpermit, hwaiters]; exact h.held⟩

/-- The permit goes to a frame, or from one back. -/
theorem spent_next (h : s.Spent err) {permit : Permit} (hst : (s.thread t).stack = frame :: rest)
    (hf : frame'.Heeds err) (hheld : permit.held = true → frame'.holders ≠ []) :
    ((s.setStack t (frame' :: rest)).setPermit permit).Spent err := by
  refine ⟨h.error, h.empty, ?_, fun hh => ?_⟩
  · simpa [tally_replace] using ⟨hf, h.below hst⟩
  · obtain ⟨g, hg⟩ := List.exists_mem_of_ne_nil _ (hheld hh)
    have hmem : g ∈ (s.setStack t (frame' :: rest)).tally .waiters := by
      rw [tally_replace]
      exact Multiset.mem_add.2 (.inl hg)
    exact fun hnone => Multiset.notMem_zero g (hnone ▸ hmem)

theorem spent_step (hnum : s.Numbered) (hs : s.Stacked) (hat : s.Attended) (hsp : s.Spent err)
    (h : Step s a s' sig) (htimely : Move.IsTimely ⟨s, a, s', sig⟩) (hkept : ∀ t, a ≠ .call t .recycle) :
    s'.Spent err := by
  have hfresh := hnum.outstanding _ (Nat.le_refl _)
  have herr := hsp.error
  -- Writes end while every thread rests, and then the permit is free, so that their guards are stale.
  have hstale (hquiet : s.Quiet) (g : Guard) : s.conn.permit.isCurrent g = false := by
    simp [Permit.isCurrent, hsp.free hs hquiet]
  cases h with
  | addNothing _ _ | addRefused _ _ _ | flushRefused _ _ | registered _ _ | reset _ | transportPending =>
    exact ⟨hsp.error, hsp.empty, hsp.heeds, hsp.held⟩
  | addBlocking _ _ hnone | addGranted _ _ hnone _ | addQueued _ _ hnone _ _ | addFull _ _ hnone _ _
  | flushAwaits _ hnone _ | flushCollects _ hnone _ | flushHeld _ hnone _ | flushNothing _ hnone _ _
  | flushBegun _ hnone _ _ => simp [herr] at hnone
  | admitted hst hnone | collected hst hnone => simp [herr] at hnone
  | @recycle t hout => exact absurd rfl (hkept t)
  | startedNothing hst _ | started hst _ | addDone hst _ | absorbed hst _ _ | filledBehind hst _ _ _
  | filled hst _ _ _ | sweptChunk hst _ | sweptPrimary hst _ _ | sweptFlush hst _ _ _ | sweptAdd hst _ _ _
  | tripBegun hst _ | tripsDone hst _ | tripDropped hst _ | tripFailed hst _ _ | tripDone hst _ _
  | tripExpired hst _ => exact (hsp.top hst).elim
  | registeredFree hout hfree =>
    exact spent_same hsp rfl rfl rfl (by simp [tally_push, Frame.holders])
      (by simpa [tally_push, Frame.Heeds] using hsp.heeds)
  | answered hst | issued hst | collectedLate hst _ | roomExpired hst _ | transportReturned hst | notified hst =>
    exact spent_same hsp rfl rfl rfl (by simp [tally_pop _ hst, Frame.holders]) (by simpa using hsp.below hst)
  | chainExpired hst _ | attached hst | told hst | toldFailure hst =>
    exact spent_same hsp rfl rfl rfl (by simp [tally_pop _ hst, tally_replace, Frame.holders])
      (by simpa [tally_replace, Frame.Heeds] using hsp.below hst)
  | admittedLate hst hlate =>
    rw [herr, Option.some.injEq] at hlate
    exact spent_same hsp rfl rfl rfl (by simp [tally_pop _ hst, tally_replace, Frame.holders])
      (by simpa [tally_replace, Frame.Heeds, hlate] using hsp.below hst)
  | roomMade hst hfree | chainAwaited hst hfree =>
    exact spent_next hsp hst trivial fun _ => by simp [Frame.holders]
  | @yielded t rest goal g hst =>
    refine spent_next hsp hst trivial fun hheld => ?_
    simp [Permit.release, (hat.top hst rfl).1] at hheld
  | @refused t rest e g hst =>
    refine ⟨hsp.error, hsp.empty, hsp.below hst, fun hheld => ?_⟩
    simp [Permit.release, (hat.top hst rfl).1] at hheld
  | driven hst hd =>
    exact spent_same hsp rfl rfl rfl (by simp [tally_driven _ hfresh hst hd, Frame.holders])
      (by simpa [tally_driven _ hfresh hst hd, Frame.Heeds] using hsp.heeds)
  | carried hst hd =>
    exact spent_same hsp rfl rfl rfl (by simp [tally_carried _ hfresh hd, tally_pop _ hst, Frame.holders])
      (by simpa [tally_carried _ hfresh hd, Frame.Heeds] using hsp.below hst)
  | deferred hst hd =>
    exact spent_same hsp rfl rfl rfl (by simp [tally_deferred _ hd, tally_pop _ hst, Frame.holders])
      (by simpa [tally_deferred _ hd] using hsp.below hst)
  | driveDone hst hd =>
    exact spent_same hsp rfl rfl rfl (by simp [tally_driveDone _ hd, tally_pop _ hst, Frame.holders])
      (by simpa [tally_driveDone _ hd] using hsp.below hst)
  | strayEnded _ hw | tripEnded _ hw | strayForgotten hw | tripForgotten hw | chainStale _ hw _ =>
    exact spent_same hsp rfl rfl rfl (by simp [tally_endWrite _ hw])
      (by simpa [tally_endWrite _ hw] using hsp.heeds)
  | chainForgotten hw =>
    rw [Connection.release_of_not_current (hstale htimely _)]
    exact spent_same hsp rfl rfl rfl (by simp [tally_endWrite _ hw])
      (by simpa [tally_endWrite _ hw] using hsp.heeds)
  | chainQuiet hout hw hset | chainTold hout hw hset | chainGoesOn hout hw hset | chainFailed hout hw hset =>
    have hcurrent := hset.isCurrent (by simp)
    simp [hstale htimely] at hcurrent

theorem failures_step (hsp : s.Spent err) (hs : s.Stacked) (h : Step s a s' sig)
    (htimely : Move.IsTimely ⟨s, a, s', sig⟩) :
    (Move.brings ⟨s, a, s', sig⟩).flatMap Event.failures = [] := by
  have hquiet {t : ThreadId} := Move.brings_eq_nil (m := ⟨s, a, s', sig⟩) (t := t)
  cases h with
  | registered hout _ | strayEnded hout _ | tripEnded hout _ | chainStale hout _ _ | chainQuiet hout _ _ =>
    rw [hquiet rfl hout, List.flatMap_nil]
  | registeredFree _ _ => simp [Move.brings, Frame.news, Event.failures]
  | chainGoesOn _ _ _ | chainTold _ _ _ => simp [Move.brings, Frame.news, Event.failures]
  | chainFailed hout hw hset =>
    have hcurrent := hset.isCurrent (by simp)
    simp [Permit.isCurrent, hsp.free hs htimely] at hcurrent
  | _ => rfl

/-- A call that goes on is told of the failure. -/
theorem replied_step {reply : Reply} (hsp : s.Spent err) (h : Step s (.run t) s' (some (.replied reply))) :
    reply = .refused err ∨ ∃ f ∈ (s.thread t).stack.head?, f.isDone = true := by
  cases h with
  | answered hst => exact .inr ⟨.answering reply, by simp [hst], rfl⟩
  | @issued _ _ m starter hst => exact .inr ⟨.issuing m starter, by simp [hst], rfl⟩
  | refused hst =>
    have heq := hsp.top hst
    exact .inl (congrArg _ heq)
  | collectedLate hst hlate =>
    rw [hsp.error, Option.some.injEq] at hlate
    exact .inl (congrArg _ hlate.symm)
  | startedNothing hst _ | addDone hst _ | sweptFlush hst _ _ _ | tripDropped hst _ | tripFailed hst _ _ =>
    exact (hsp.top hst).elim

/-- What holds of a system from its failure on. -/
structure Failed (err : Error) (s : System) : Prop where
  numbered : s.Numbered
  stacked : s.Stacked
  attended : s.Attended
  spent : s.Spent err

theorem Failed.run (hfailed : start.Failed err) (run : Run start moves s) (htimely : ∀ m ∈ moves, m.IsTimely)
    (hkept : ∀ m ∈ moves, ∀ t, m.action ≠ .call t .recycle) : s.Failed err := by
  refine run.invariant (fun m => m.IsTimely ∧ ∀ t, m.action ≠ .call t .recycle) hfailed ?_
    fun m hm => ⟨htimely m hm, hkept m hm⟩
  intro s a s' sig h hallowed hf
  exact ⟨numbered_step hf.numbered h, stacked_step hf.stacked h,
    attended_step hf.numbered hf.stacked hf.attended h hallowed.1,
    spent_step hf.numbered hf.stacked hf.attended hf.spent h hallowed.1 hallowed.2⟩

/-- Each move of a run after the failure begins in such a system. -/
theorem Failed.before (hfailed : start.Failed err) (run : Run start moves s) (htimely : ∀ m ∈ moves, m.IsTimely)
    (hkept : ∀ m ∈ moves, ∀ t, m.action ≠ .call t .recycle) {m : Move} (hm : m ∈ moves) :
    m.before.Failed err ∧ Step m.before m.action m.after m.signal := by
  obtain ⟨before, after, rfl⟩ := List.append_of_mem hm
  obtain ⟨hrun, hperform⟩ := run.split rfl
  exact ⟨hfailed.run hrun (fun m hm => htimely m (List.mem_append_left _ hm))
    fun m hm => hkept m (List.mem_append_left _ hm), step_perform hperform⟩

theorem Failed.failures_eq_nil (hfailed : start.Failed err) (run : Run start moves s)
    (htimely : ∀ m ∈ moves, m.IsTimely) (hkept : ∀ m ∈ moves, ∀ t, m.action ≠ .call t .recycle) :
    (moves.flatMap Move.brings).flatMap Event.failures = [] := by
  simp only [List.flatMap_eq_nil_iff, List.mem_flatMap, forall_exists_index, and_imp]
  intro event m hm hmem
  obtain ⟨hbefore, hstep⟩ := hfailed.before run htimely hkept hm
  exact List.flatMap_eq_nil_iff.1 (failures_step hbefore.spent hbefore.stacked hstep (htimely m hm)) event hmem

theorem Failed.flush (h : s.Failed err) (hout : (s.thread t).isOutside = true) (mode : Mode) :
    s.perform (.call t (.flush mode)) = some (s, some (.replied (.refused err))) := by
  simp [perform, hout, call, h.spent.error, answer]

theorem Failed.add (h : s.Failed err) (hout : (s.thread t).isOutside = true) {src : Chunk}
    (hsrc : src.hasRemaining = true) (mode : Mode) :
    s.perform (.call t (.add src mode)) = some (s, some (.replied (.refused err))) := by
  simp [perform, hout, call, h.spent.error, hsrc, answer]

/-! ### The failure -/

theorem complete_failed {w : WriteId} {write : Write} {flight : Flight} {outcome : Outcome}
    (hout : (s.thread t).isOutside = true) (hw : s.outstanding.find? w = some (.chain write flight))
    (hcurrent : s.conn.permit.isCurrent flight.guard = true) (hfail : outcome.written = .error err) :
    ∃ conn, s.conn.Settled flight (s.markers.isInline flight.marker t) outcome write conn (.failed err) ∧
      s.perform (.complete t w outcome)
        = some (((s.endWrite w).setConn conn).push t (.telling (.error err)), none) := by
  obtain ⟨conn, v, heq, hset⟩ :=
    Connection.settle_cases s.conn flight (s.markers.isInline flight.marker t) outcome write
  cases hset with
  | stale hg => simp [hcurrent] at hg
  | alone hwr _ _ _ _ | gathered hwr _ _ | finished hwr _ _ _ => simp [hfail] at hwr
  | failed hwr hg =>
    have herr := hwr.symm.trans hfail
    simp only [Except.error.injEq] at herr
    subst herr
    refine ⟨_, .failed hwr hg, ?_⟩
    simp only [perform, hout, if_true, complete, hw, heq]
    rfl

theorem spent_failed {w : WriteId} {write : Write} {flight : Flight} {outcome : Outcome} {isInline : Bool}
    {conn : Connection} (hs : s.Stacked) (hcalm : s.Calm) (hquiet : s.Quiet)
    (hw : s.outstanding.find? w = some (.chain write flight))
    (hset : s.conn.Settled flight isInline outcome write conn (.failed err)) :
    (((s.endWrite w).setConn conn).push t (.telling (.error err))).Spent err := by
  have hcurrent := hset.isCurrent (by simp)
  have hframes : ∀ f ∈ s.tally .frames, f.Heeds err := by
    intro f hf
    obtain ⟨u, f', hf', hmem⟩ := (s.mem_tally_iff (fun _ => rfl) fun _ => rfl).1 hf
    obtain rfl := List.mem_singleton.1 hmem
    have hkind := hquiet.kinds hs hf'
    cases f with
    | awaitingReply v sweep =>
      have hcall : .awaitingReply v sweep ∈ s.tally .calls :=
        (s.mem_tally_iff (fun _ => rfl) fun _ => rfl).2 ⟨u, _, hf', by simp [Frame.isCall]⟩
      have hfree := hcalm _ hcall rfl
      simp [Permit.isCurrent, hfree] at hcurrent
    | _ => first | trivial | simp [Frame.isBase, Frame.isResting] at hkind
  rw [tally_endWrite _ hw] at hframes
  cases hset with
  | failed hwr hg =>
    refine ⟨rfl, Store.bufferedBytes_discard _, ?_, fun hheld => ?_⟩
    · simpa [tally_push, Frame.Heeds] using hframes
    · simp [Permit.release, hcurrent] at hheld

/-- A failure frees the permit and drops what is stored. The thread that learned of it attaches it next and then
notifies of it, whatever other threads do in between. Until the connection is recycled it is the answer to everything,
no byte is stored again, and no other failure is attached and notified of than those that were due already. -/
theorem failure_sticks (run : Run (fresh config) moves s) (htimely : ∀ m ∈ moves, m.IsTimely)
    (hpatient : ∀ m ∈ moves, m.IsPatient) (hund : ∀ m ∈ moves, m.IsUndisturbed) {w : WriteId} {write : Write}
    {flight : Flight} {outcome : Outcome} (hout : (s.thread t).isOutside = true) (hquiet : s.Quiet)
    (hw : s.outstanding.find? w = some (.chain write flight))
    (hcurrent : s.conn.permit.isCurrent flight.guard = true) (hfail : outcome.written = .error err) :
    ∃ s₁, s.perform (.complete t w outcome) = some (s₁, none) ∧
      s₁.conn.permit.held = false ∧ s₁.conn.interest = false ∧ s₁.conn.store.bufferedBytes = 0 ∧
      s₁.conn.error = some err ∧
      (∃ attaching told, s₁.perform (.run t) = some (attaching, some (.attach err)) ∧
        attaching.perform (.resume t) = some (told, some (.notify (.error err)))) ∧
      ∀ later s₂, Run s₁ later s₂ → (∀ m ∈ later, m.IsTimely) →
        (∀ m ∈ later, ∀ u, m.action ≠ .call u .recycle) →
        s₂.conn.error = some err ∧ s₂.conn.store.bufferedBytes = 0 ∧ s₂.hasData = true ∧
        (∀ u, (s₂.thread u).isOutside = true → ∀ mode,
          s₂.perform (.call u (.flush mode)) = some (s₂, some (.replied (.refused err)))) ∧
        (∀ u, (s₂.thread u).isOutside = true → ∀ src, src.hasRemaining = true → ∀ mode,
          s₂.perform (.call u (.add src mode)) = some (s₂, some (.replied (.refused err)))) ∧
        (∀ m ∈ later, ∀ u reply, m.action = .run u → m.signal = some (.replied reply) →
          reply = .refused err ∨ ∃ f ∈ (m.before.thread u).stack.head?, f.isDone = true) ∧
        (s₂.Tells t (.error err) ∨ Delivered t (.error err) later) ∧
        ↑(attached later) + s₂.alarms = err ::ₘ s.alarms ∧
        ↑(noticed later) + s₂.tally .attachments = ↑(attached later) + s.tally .attachments := by
  have hs := stacked_run run
  have hat := attended_run run htimely
  have hcalm := calm_run run htimely hpatient hund
  obtain ⟨conn, hset, hperform⟩ := complete_failed hout hw hcurrent hfail
  have hstep := step_perform hperform
  have hspent := spent_failed (t := t) hs hcalm hquiet hw hset
  have hfailed : Failed err (((s.endWrite w).setConn conn).push t (.telling (.error err))) :=
    ⟨numbered_step (numbered_run run) hstep, stacked_step hs hstep,
      attended_step (numbered_run run) hs hat hstep hquiet, hspent⟩
  have hfree : conn.permit.held = false := by
    rw [hset.permit]
    simp [Permit.release, hcurrent]
  have hinterest : conn.interest = false := by cases hset; rfl
  have htells : (((s.endWrite w).setConn conn).push t (.telling (.error err))).Tells t (.error err) := by simp [Tells]
  refine ⟨_, hperform, hfree, hinterest, hspent.empty, hspent.error,
    ⟨_, _, by simp [perform, System.run, runTelling]; rfl, by simp [perform, resume]; rfl⟩, ?_⟩
  intro later s₂ hlater htimely' hkept
  have hend := hfailed.run hlater htimely' hkept
  have halarms := hlater.attaches hfailed.numbered
  have hnotices := hlater.noticed hfailed.numbered
  rw [hfailed.failures_eq_nil hlater htimely' hkept] at halarms
  refine ⟨hend.spent.error, hend.spent.empty, by simp [hasData, Connection.hasData, hend.spent.error],
    fun u hu mode => hend.flush hu mode, fun u hu src hsrc mode => hend.add hu hsrc mode, ?_,
    htells.delivered hlater, ?_, ?_⟩
  · intro m hm u reply ha hreply
    obtain ⟨hbefore, hstep⟩ := hfailed.before hlater htimely' hkept hm
    rw [ha, hreply] at hstep
    exact replied_step hbefore.spent hstep
  · rw [halarms]
    simp [alarms, tally_push, tally_endWrite _ hw, Frame.news, Event.failures]
  · rw [hnotices]
    simp [tally_push, tally_endWrite _ hw, Frame.attachments]

/-- A byte is at the transport and another one is queued, the producer waits for word, and a flush on another thread
waits for the write. The peer is gone, and that flush learns of it before the notifier does. -/
theorem failure_sticks_peer_gone : ∃ moves s s₁ later s₂, Run (fresh {}) moves s ∧ s.conn.interest = true ∧
    s.conn.store.contents = [98] ∧ s.perform (.complete 1 0 (.ok (-1))) = some (s₁, none) ∧
    Run s₁ later s₂ ∧ attached later = [.endOfStream] ∧ noticed later = [.endOfStream] ∧
    s₂.conn.store.bufferedBytes = 0 ∧
    s₂.perform (.call 0 (.flush .blocking)) = some (s₂, some (.replied (.refused .endOfStream))) := by
  obtain ⟨moves, s, run, htimely, hpatient, hund, ⟨hout, hquiet⟩, hchain, ⟨hinterest, hqueued, hnews, hnone⟩, hlater⟩ :=
    Run.exists_of_follow (fresh {})
      [.call 0 (.add { bytes := ⟨#[97]⟩ } .nonBlocking), .run 0, .run 0, .resume 0, .run 0, .run 0,
        .call 0 .registerInterest, .call 0 (.add { bytes := ⟨#[98]⟩ } .nonBlocking), .call 2 (.flush .blocking)]
      (P := fun moves s => (∀ m ∈ moves, m.IsTimely) ∧ (∀ m ∈ moves, m.IsPatient) ∧ (∀ m ∈ moves, m.IsUndisturbed) ∧
        ((s.thread 1).isOutside = true ∧ s.Quiet) ∧
        (s.outstanding.find? 0).any (fun h =>
          h.isChain && (Tally.guards.ofHanded h).all s.conn.permit.isCurrent) = true ∧
        (s.conn.interest = true ∧ s.conn.store.contents = [98] ∧ (s.collect .news).isEmpty = true ∧
          (s.collect .attachments).isEmpty = true) ∧
        ((s.perform (.complete 1 0 (.ok (-1)))).any fun failed => (failed.1.follow
          [.run 2, .run 2, .run 2, .run 1, .resume 1, .resume 1]).any fun r =>
            decide ((∀ m ∈ r.1, m.IsTimely ∧ m.IsFaithful) ∧ (r.2.thread 0).isOutside = true ∧
              (r.2.collect .news).isEmpty = true ∧ (r.2.collect .attachments).isEmpty = true)) = true)
      (by decide +kernel)
  obtain ⟨handed, hw, hhanded⟩ := (Option.any_eq_true _ _).1 hchain
  cases handed with
  | trip buf | stray buf => simp [Handed.isChain] at hhanded
  | chain write flight =>
    simp only [Tally.ofHanded_chain, Tally.guards_ofJob, Handed.isChain, List.all_cons, List.all_nil, Bool.and_true,
      Bool.true_and] at hhanded
    have hgone : Outcome.written (.ok (-1)) = .error .endOfStream := rfl
    obtain ⟨s₁, hfails, -, -, -, -, -, hafter⟩ :=
      failure_sticks run htimely hpatient hund hout hquiet hw hhanded hgone
    rw [hfails, Option.any_some] at hlater
    obtain ⟨⟨later, s₂⟩, hfollow, hend⟩ := (Option.any_eq_true _ _).1 hlater
    obtain ⟨hmoves, hout₂, hnews₂, hnone₂⟩ := of_decide_eq_true hend
    obtain ⟨-, hempty, -, hflush, -, -, -, halarms, hnotices⟩ := hafter later s₂ (.of_follow hfollow)
      (fun m hm => (hmoves m hm).1) fun m hm => (hmoves m hm).2.kept
    rw [alarms, alarms, tally, tally, List.isEmpty_iff.1 hnews, List.isEmpty_iff.1 hnews₂] at halarms
    rw [tally, tally, List.isEmpty_iff.1 hnone, List.isEmpty_iff.1 hnone₂] at hnotices
    have hattached : attached later = [.endOfStream] := by simpa using halarms
    have hnoticed : noticed later = [.endOfStream] := by simpa [hattached] using hnotices
    exact ⟨moves, s, s₁, later, s₂, run, hinterest, hqueued, hfails, .of_follow hfollow, hattached, hnoticed, hempty,
      hflush 0 hout₂ .blocking⟩

end System

end Outflow
