import Outflow.Proofs.Run
import Outflow.Proofs.Sweep

/-! Wherever a buffer is, it is a sound one of the connection, and no write goes out empty. -/
namespace Outflow

variable {capacity : Nat}

def Frame.Sound (capacity : Nat) : Frame → Prop
  | carrying job => job.write.WellFormed capacity
  | sweeping sweep | awaitingReply _ sweep => sweep.WellFormed capacity
  | writing buf sweep => buf.WellFormed capacity ∧ sweep.WellFormed capacity
  | _ => True

structure Thread.Sound (capacity : Nat) (th : Thread) : Prop where
  stack : ∀ f ∈ th.stack, f.Sound capacity
  waiting : ∀ job ∈ th.deferral.waiting, job.write.WellFormed capacity

def Handed.Sound (capacity : Nat) : Handed → Prop
  | chain write _ => write.WellFormed capacity
  | trip buf | stray buf => buf.WellFormed capacity

def Answer.Sound (capacity : Nat) : Answer → Prop
  | returned _ buf => buf.WellFormed capacity
  | dropped => True

/-- A store whose primary buffers have the given capacity. -/
structure Store.Sound (capacity : Nat) (s : Store) : Prop where
  wellFormed : s.WellFormed
  size : s.capacity = capacity

structure System.Sound (capacity : Nat) (s : System) : Prop where
  store : s.conn.store.Sound capacity
  threads : ∀ t, (s.thread t).Sound capacity
  outstanding : ∀ w h, s.outstanding.find? w = some h → h.Sound capacity
  answers : ∀ w a, s.answers.find? w = some a → a.Sound capacity

namespace System

variable {s s' : System} {t : ThreadId} {w : WriteId} {a : Action} {sig : Option Signal} {frame : Frame}
  {rest : List Frame} {conn : Connection}

theorem sound_fresh (config : Config) : (fresh config).Sound config.bufferSize where
  store := ⟨Store.wellFormed_empty _, rfl⟩
  threads _ := ⟨by simp [fresh, thread], by simp [fresh, thread]⟩
  outstanding := by simp [fresh]
  answers := by simp [fresh]

/-! ### The parts of a step -/

theorem sound_setThread (h : s.Sound capacity) {th : Thread} (hth : th.Sound capacity) :
    (s.setThread t th).Sound capacity := by
  refine ⟨h.store, fun u => ?_, h.outstanding, h.answers⟩
  rw [thread_setThread]
  split
  · exact hth
  · exact h.threads u

theorem sound_push (h : s.Sound capacity) (hf : frame.Sound capacity) : (s.push t frame).Sound capacity := by
  refine sound_setThread h ⟨?_, (h.threads t).waiting⟩
  rw [List.forall_mem_cons]
  exact ⟨hf, (h.threads t).stack⟩

/-- The innermost frame of a thread. -/
theorem sound_frame (h : s.Sound capacity) (hst : (s.thread t).stack = frame :: rest) : frame.Sound capacity :=
  (h.threads t).stack frame (by simp [hst])

theorem sound_pop (h : s.Sound capacity) (hst : (s.thread t).stack = frame :: rest) :
    (s.setStack t rest).Sound capacity :=
  sound_setThread h ⟨fun f hf => (h.threads t).stack f (by simp [hst, hf]), (h.threads t).waiting⟩

theorem sound_replace (h : s.Sound capacity) (hst : (s.thread t).stack = frame :: rest) {frame' : Frame}
    (hf : frame'.Sound capacity) : (s.setStack t (frame' :: rest)).Sound capacity := by
  refine sound_setThread h ⟨?_, (h.threads t).waiting⟩
  rw [List.forall_mem_cons]
  exact ⟨hf, fun f hm => (h.threads t).stack f (by simp [hst, hm])⟩

theorem sound_setConn (h : s.Sound capacity) (hc : conn.store.Sound capacity) : (s.setConn conn).Sound capacity :=
  ⟨hc, h.threads, h.outstanding, h.answers⟩

theorem sound_setMarkers (h : s.Sound capacity) (markers : Markers) : (s.setMarkers markers).Sound capacity :=
  ⟨h.store, h.threads, h.outstanding, h.answers⟩

theorem sound_setAnswers (h : s.Sound capacity) {answers : Table Answer}
    (ha : ∀ w a, answers.find? w = some a → a.Sound capacity) : (s.setAnswers answers).Sound capacity :=
  ⟨h.store, h.threads, h.outstanding, ha⟩

theorem sound_answers_set (h : s.Sound capacity) {answer : Answer} (ha : answer.Sound capacity) :
    (s.setAnswers (s.answers.set w answer)).Sound capacity := by
  refine sound_setAnswers h fun v b hb => ?_
  rw [Table.find?_set] at hb
  split at hb
  · cases hb
    exact ha
  · exact h.answers v b hb

theorem sound_answers_erase (h : s.Sound capacity) : (s.setAnswers (s.answers.erase w)).Sound capacity := by
  refine sound_setAnswers h fun v b hb => ?_
  rw [Table.find?_erase] at hb
  split at hb
  · simp at hb
  · exact h.answers v b hb

theorem sound_endWrite (h : s.Sound capacity) : (s.endWrite w).Sound capacity := by
  refine ⟨h.store, h.threads, fun v b hb => ?_, h.answers⟩
  simp only [frame_endWrite, Table.find?_erase] at hb
  split at hb
  · simp at hb
  · exact h.outstanding v b hb

theorem sound_disown (h : s.Sound capacity) : (s.disown w).Sound capacity := by
  refine ⟨h.store, h.threads, fun v b hb => ?_, h.answers⟩
  rw [find?_disown] at hb
  split at hb
  · obtain ⟨b', hb', rfl⟩ := Option.map_eq_some_iff.1 hb
    have hs := h.outstanding v b' hb'
    cases b' <;> exact hs
  · exact h.outstanding v b hb

theorem sound_handOver (h : s.Sound capacity) {handed : Handed} (hh : handed.Sound capacity) :
    (s.handOver t handed).1.Sound capacity := by
  refine sound_push (s := { s with outstanding := _, nextWrite := _ }) ⟨h.store, h.threads, ?_, h.answers⟩ trivial
  intro v b hb
  rw [Table.find?_set] at hb
  split at hb
  · cases hb
    exact hh
  · exact h.outstanding v b hb

theorem sound_begin (h : s.Sound capacity) {starter : Starter} {g : Guard} {store : Store} {write : Write}
    (hs : store.Sound capacity) (hw : write.WellFormed capacity) :
    (s.begin t starter g store write).Sound capacity :=
  sound_push (sound_push (sound_setMarkers (sound_setConn h hs) _) trivial) hw

/-! ### Stores -/

theorem sound_pushOverflow {store : Store} (h : store.Sound capacity) (src : Chunk) :
    (store.pushOverflow src).Sound capacity :=
  ⟨Store.wellFormed_pushOverflow h.wellFormed src, by simp [h.size]⟩

theorem sound_ensurePrimary {store : Store} (h : store.Sound capacity) : store.ensurePrimary.Sound capacity :=
  ⟨Store.wellFormed_ensurePrimary h.wellFormed, by simp [h.size]⟩

theorem sound_append {store : Store} (h : store.Sound capacity) (src : Chunk) : (store.append src).Sound capacity :=
  ⟨Store.wellFormed_append h.wellFormed src, by simp [h.size]⟩

theorem sound_reclaim {store : Store} (h : store.Sound capacity) {buf : Buffer} (hb : buf.WellFormed capacity) :
    (store.reclaim buf).Sound capacity :=
  ⟨Store.wellFormed_reclaim h.wellFormed (h.size ▸ hb), by simp [h.size]⟩

theorem sound_putBack {store : Store} (h : store.Sound capacity) {sweep : Sweep} (hs : sweep.WellFormed capacity)
    (returned : Option Buffer) (hb : ∀ b ∈ returned, b.WellFormed capacity) :
    (sweep.putBack returned store).Sound capacity := by
  refine ⟨?_, by simp [h.size]⟩
  exact Sweep.wellFormed_putBack h.wellFormed (h.size ▸ hs) (h.size ▸ hb)

/-- What the first write of a chain takes, and what it leaves. -/
theorem sound_takeWrite (h : s.conn.store.Sound capacity) {store : Store} {write : Write}
    (htake : s.conn.takeWrite = (store, some write)) : store.Sound capacity ∧ write.WellFormed capacity := by
  obtain ⟨-, heq⟩ | ⟨store', write', heq, -, hcap, hwf, -, -, hw⟩ := Connection.takeWrite_cases h.wellFormed
  · simp [htake] at heq
  · rw [htake] at heq
    cases heq
    exact ⟨⟨hwf, hcap.trans h.size⟩, h.size ▸ hw⟩

theorem sound_settled (h : s.Sound capacity) {flight : Flight} {isInline : Bool} {outcome : Outcome} {write : Write}
    {v : Verdict} (hw : s.outstanding.find? w = some (.chain write flight))
    (hset : s.conn.Settled flight isInline outcome write conn v) : conn.store.Sound capacity := by
  have hwrite : write.WellFormed s.conn.store.capacity := h.store.size ▸ h.outstanding w _ hw
  obtain ⟨hwf, hcap⟩ := hset.store h.store.wellFormed hwrite
  exact ⟨hwf, hcap.trans h.store.size⟩

theorem sound_absorb (h : s.conn.store.Sound capacity) {src : Chunk} {store : Store} {count : Nat} {full : Bool}
    (habs : s.conn.absorb src = (store, count, full)) : store.Sound capacity := by
  have hstore : (s.conn.absorb src).1 = store := by rw [habs]
  subst hstore
  exact ⟨Connection.wellFormed_absorb h.wellFormed src, by simp [h.size]⟩

theorem sound_step (h : s.Sound capacity) (hstep : Step s a s' sig) : s'.Sound capacity := by
  cases hstep with
  | addNothing _ _ | addRefused _ _ _ | flushRefused _ _ | flushHeld _ _ _ => exact h
  | addBlocking _ _ _ | addFull _ _ _ _ _ | flushAwaits _ _ _ | flushCollects _ _ _ => exact sound_push h trivial
  | @addGranted _ src _ _ _ _ =>
    have hgranted : (s.setPermit s.conn.permit.grant).Sound capacity := sound_setConn h h.store
    exact sound_push (sound_setConn hgranted (sound_append (sound_ensurePrimary h.store) src)) trivial
  | @addQueued _ src _ _ _ _ _ hroom =>
    rw [Connection.queue?_eq_ok hroom]
    exact sound_setConn h (sound_pushOverflow h.store src)
  | flushNothing _ _ _ _ | registered _ _ | reset _ => exact sound_setConn h h.store
  | flushBegun _ _ _ htake =>
    obtain ⟨hs, hw⟩ := sound_takeWrite h.store htake
    have hgranted : (s.setPermit s.conn.permit.grant).Sound capacity := sound_setConn h h.store
    exact sound_begin hgranted hs hw
  | registeredFree _ _ => exact sound_push (sound_push h trivial) trivial
  | recycle _ =>
    refine sound_setConn h ?_
    exact sound_ensurePrimary ⟨Store.wellFormed_discard h.store.wellFormed, h.store.size⟩
  | answered hst | addDone hst _ | collectedLate hst _ | roomExpired hst _ | transportReturned hst | notified hst =>
    exact sound_pop h hst
  | @driven t rest job queue hst hd =>
    have hw := (h.threads t).waiting
    simp only [hd, Deferral.waiting_running, List.forall_mem_cons] at hw
    have hth : Thread.Sound capacity { stack := .driving :: rest, deferral := .running queue } := by
      refine ⟨?_, hw.2⟩
      rw [← hst]
      exact (h.threads t).stack
    exact sound_handOver (sound_setThread h hth) hw.1
  | @driveDone t rest hst _ =>
    exact sound_setThread h ⟨fun f hf => (h.threads t).stack f (by simp [hst, hf]), by simp⟩
  | @carried t rest job hst _ =>
    refine sound_handOver (sound_setThread h ⟨?_, by simp⟩) (sound_frame h hst)
    rw [List.forall_mem_cons]
    exact ⟨trivial, fun f hf => (h.threads t).stack f (by simp [hst, hf])⟩
  | @deferred t rest job queue hst hd =>
    have hw := (h.threads t).waiting
    rw [hd] at hw
    refine sound_setThread h ⟨fun f hf => (h.threads t).stack f (by simp [hst, hf]), ?_⟩
    simp only [Deferral.waiting_running, List.forall_mem_append, List.forall_mem_singleton]
    exact ⟨hw, sound_frame h hst⟩
  | startedNothing hst _ | refused hst => exact sound_setConn (sound_pop h hst) h.store
  | started hst htake =>
    obtain ⟨hs, hw⟩ := sound_takeWrite h.store htake
    exact sound_begin (sound_pop h hst) hs hw
  | issued hst => exact sound_setMarkers (sound_pop h hst) _
  | absorbed hst _ habs | filledBehind hst _ habs _ | filled hst _ habs _ =>
    exact sound_setConn (sound_replace h hst trivial) (sound_absorb h.store habs)
  | roomMade hst _ | chainAwaited hst _ | yielded hst => exact sound_setConn (sound_replace h hst trivial) h.store
  | admittedLate hst _ | chainExpired hst _ | attached hst | told hst
  | toldFailure hst => exact sound_replace h hst trivial
  | @admitted _ _ src _ hst _ =>
    exact sound_setConn (sound_replace h hst trivial) (sound_append (sound_ensurePrimary h.store) src)
  | @collected _ _ goal hst _ =>
    have hsweep : (s.conn.store.sweep goal).WellFormed capacity :=
      h.store.size ▸ Sweep.wellFormed_sweep h.store.wellFormed goal
    refine sound_setConn (sound_replace h hst hsweep) ?_
    exact ⟨Store.wellFormed_swept h.store.wellFormed, (Store.capacity_swept _).trans h.store.size⟩
  | sweptChunk hst hc =>
    have hsweep : Sweep.WellFormed capacity _ := sound_frame h hst
    refine sound_replace h hst ⟨trivial, ?_, hsweep.primary⟩
    exact fun c hm => hsweep.chunks c (by simp [hc, hm])
  | sweptPrimary hst hc hp =>
    have hsweep : Sweep.WellFormed capacity _ := sound_frame h hst
    exact sound_replace h hst ⟨hsweep.primary _ hp, hsweep.chunks, by simp⟩
  | sweptFlush hst _ _ _ => exact sound_setConn (sound_pop h hst) (sound_ensurePrimary h.store)
  | sweptAdd hst _ _ _ => exact sound_setConn (sound_replace h hst trivial) (sound_ensurePrimary h.store)
  | tripBegun hst _ =>
    have hwriting : Buffer.WellFormed capacity _ ∧ Sweep.WellFormed capacity _ := sound_frame h hst
    have hawaiting : Frame.Sound capacity (.awaitingReply s.nextWrite _) := hwriting.2
    exact sound_handOver (sound_replace h hst hawaiting) hwriting.1
  | tripsDone hst _ =>
    have hwriting : Buffer.WellFormed capacity _ ∧ Sweep.WellFormed capacity _ := sound_frame h hst
    exact sound_setConn (sound_replace h hst hwriting.2) (sound_reclaim h.store hwriting.1)
  | tripDropped hst _ =>
    have hsweep : Sweep.WellFormed capacity _ := sound_frame h hst
    have hstore := sound_putBack h.store hsweep none (by simp)
    exact sound_setConn (sound_answers_erase (sound_pop h hst)) hstore
  | tripFailed hst hans _ =>
    have hsweep : Sweep.WellFormed capacity _ := sound_frame h hst
    have hbuf : Buffer.WellFormed capacity _ := h.answers _ _ hans
    have hstore := sound_putBack h.store hsweep (some _) (by simpa using hbuf)
    exact sound_setConn (sound_answers_erase (sound_pop h hst)) hstore
  | tripDone hst hans _ =>
    have hsweep : Sweep.WellFormed capacity _ := sound_frame h hst
    have hbuf : Buffer.WellFormed capacity _ := h.answers _ _ hans
    exact sound_answers_erase (sound_replace h hst ⟨Buffer.wellFormed_drop hbuf (Nat.min_le_right _ _), hsweep⟩)
  | tripExpired hst _ =>
    have hsweep : Sweep.WellFormed capacity _ := sound_frame h hst
    have hstore := sound_putBack h.store hsweep none (by simp)
    exact sound_setConn (sound_disown (sound_pop h hst)) hstore
  | strayEnded _ _ | chainStale _ _ _ | strayForgotten _ => exact sound_endWrite h
  | tripEnded _ hw => exact sound_answers_set (sound_endWrite h) (h.outstanding _ _ hw)
  | tripForgotten hw => exact sound_answers_set (sound_endWrite h) trivial
  | chainForgotten _ => exact sound_setConn (sound_endWrite h) h.store
  | chainQuiet _ hw hset => exact sound_setConn (sound_endWrite h) (sound_settled h hw hset)
  | chainTold _ hw hset | chainFailed _ hw hset =>
    exact sound_push (sound_setConn (sound_endWrite h) (sound_settled h hw hset)) trivial
  | chainGoesOn _ hw hset =>
    refine sound_push (sound_setConn (sound_endWrite h) (sound_settled h hw hset)) ?_
    exact h.store.size ▸ hset.next h.store.wellFormed (h.store.size ▸ h.outstanding _ _ hw)
  | transportPending => exact ⟨h.store, h.threads, h.outstanding, h.answers⟩

theorem sound_run {config : Config} {moves : List Move} (run : Run (fresh config) moves s) :
    s.Sound config.bufferSize :=
  run.invariant (fun _ => True) (sound_fresh config) (fun _ _ _ _ hstep _ h => sound_step h hstep) (by simp)

end System

end Outflow
