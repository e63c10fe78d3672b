import Outflow.Proofs.Calls

/-! While blocking calls keep to themselves and to their turn, the bytes that are not confirmed stand in one line,
in the order in which they were taken over. -/
namespace Outflow

namespace Frame

/-- Frames that data in the primary buffer must not wait for. -/
def isPatient : Frame → Bool
  | awaitingRoom _ _ _ | awaitingChain _ | sweeping _ | writing _ _ | awaitingReply _ _ => true
  | _ => false

def awaitsChain : Frame → Bool
  | awaitingChain _ => true
  | _ => false

def isStarting : Frame → Bool
  | starting _ _ => true
  | _ => false

theorem isStarting_of_isBlocking {f : Frame} (h : f.isBlocking = true) : f.isStarting = false := by
  cases f <;> first | rfl | simp [isBlocking] at h

end Frame

section Line

variable {held held' : Bool} {store store' : Store} {C C' : Multiset Frame} {f f' : Frame}

/-- A blocking call is the only one. -/
def Exclusive (C : Multiset Frame) : Prop := ∀ f ∈ C, f.isBlocking = true → C = {f}

/-- What can be newer than bytes in the primary buffer, or makes what comes next newer. -/
def Behind (held : Bool) (store : Store) (C : Multiset Frame) : Prop :=
  held = true ∨ store.queued ≠ [] ∨ ∃ f ∈ C, f.isPatient = true

/-- Nothing gets before bytes in the primary buffer, except while they are about to be sent together. -/
def Clear (held : Bool) (store : Store) (C : Multiset Frame) : Prop :=
  Behind held store C → store.front = [] ∨ ∃ f ∈ C, f.isStarting = true

/-- A blocking call is alone. It writes while no chain is in flight, and never before older bytes. -/
structure Lined (held : Bool) (store : Store) (C : Multiset Frame) : Prop where
  exclusive : ∀ f ∈ C, f.isBlocking = true → C = {f}
  calm : ∀ f ∈ C, f.isWriting = true → held = false
  clear : Clear held store C

theorem Exclusive.alone (h : Exclusive (f ::ₘ C)) (hb : f.isBlocking = true) : C = 0 :=
  (Multiset.cons_inj_right f).1 (h f (Multiset.mem_cons_self f C) hb)

/-- Beside another call there is no blocking one. -/
theorem Exclusive.not_blocking (h : Exclusive (f ::ₘ C)) : ∀ f' ∈ C, f'.isBlocking = false := by
  intro f' hm
  by_contra hb
  have hsingle := congrArg Multiset.card (h f' (Multiset.mem_cons_of_mem hm) (by simpa using hb))
  have hpos := Multiset.card_pos_iff_exists_mem.2 ⟨f', hm⟩
  simp only [Multiset.card_cons, Multiset.card_singleton] at hsingle
  omega

theorem exclusive_none (h : ∀ f ∈ C, f.isBlocking = false) : Exclusive C := by
  intro f hf hb
  simp [h f hf] at hb

theorem exclusive_cons (hb : f.isBlocking = true → C = 0) (h : ∀ f' ∈ C, f'.isBlocking = false) :
    Exclusive (f ::ₘ C) := by
  intro f' hf' hb'
  rcases Multiset.mem_cons.1 hf' with rfl | hf'
  · rw [hb hb']
    rfl
  · simp [h f' hf'] at hb'

theorem Lined.not_blocking (h : Lined held store (f ::ₘ C)) : ∀ f' ∈ C, f'.isBlocking = false :=
  Exclusive.not_blocking h.exclusive

theorem clear_of_front (h : store.front = []) : Clear held store C := fun _ => .inl h

theorem clear_of_starting (hf : f ∈ C) (hs : f.isStarting = true) : Clear held store C := fun _ => .inr ⟨f, hf, hs⟩

theorem clear_mono {C' : Multiset Frame} (h : Clear held store C) (hfront : store'.front = store.front)
    (hbehind : Behind held' store' C' → Behind held store C) (hstart : ∀ f ∈ C, f.isStarting = true → f ∈ C') :
    Clear held' store' C' := by
  intro hb
  rcases h (hbehind hb) with hf | ⟨f, hm, hs⟩
  · exact .inl (hfront.trans hf)
  · exact .inr ⟨f, hstart f hm hs, hs⟩

theorem behind_next (hheld : held' = true → held = true) (hqueued : store'.queued = store.queued)
    (hp : f'.isPatient = true → Behind held store (f ::ₘ C)) (h : Behind held' store' (f' ::ₘ C)) :
    Behind held store (f ::ₘ C) := by
  rcases h with hb | hb | ⟨g, hg, hpg⟩
  · exact .inl (hheld hb)
  · exact .inr (.inl (hqueued ▸ hb))
  · rcases Multiset.mem_cons.1 hg with rfl | hg
    · exact hp hpg
    · exact .inr (.inr ⟨g, Multiset.mem_cons_of_mem hg, hpg⟩)

theorem behind_of_isPatient (hp : f.isPatient = true) : Behind held store (f ::ₘ C) :=
  .inr (.inr ⟨f, Multiset.mem_cons_self f C, hp⟩)

theorem clear_next {C' : Multiset Frame} (h : Clear held store (f ::ₘ C)) (hC : C' = f' ::ₘ C)
    (hs : f.isStarting = false) (hfront : store'.front = store.front)
    (hbehind : Behind held' store' (f' ::ₘ C) → Behind held store (f ::ₘ C)) : Clear held' store' C' := by
  subst hC
  refine fun hb => (h (hbehind hb)).imp hfront.trans ?_
  rintro ⟨g, hg, hsg⟩
  rcases Multiset.mem_cons.1 hg with rfl | hg
  · simp [hs] at hsg
  · exact ⟨g, Multiset.mem_cons_of_mem hg, hsg⟩

theorem clear_open {C' : Multiset Frame} (h : Clear held store C) (hC : C' = f ::ₘ C)
    (hp : f.isPatient = true → held = true) : Clear held store C' := by
  subst hC
  refine clear_mono h rfl ?_ fun g hg _ => Multiset.mem_cons_of_mem hg
  rintro (hb | hb | ⟨g, hg, hpg⟩)
  · exact .inl hb
  · exact .inr (.inl hb)
  · rcases Multiset.mem_cons.1 hg with rfl | hg
    · exact .inl (hp hpg)
    · exact .inr (.inr ⟨g, hg, hpg⟩)

theorem clear_close (h : Clear held store (f ::ₘ C)) (hs : f.isStarting = false) (hfront : store'.front = store.front)
    (hheld : held' = true → held = true) (hqueued : store'.queued = store.queued) : Clear held' store' C := by
  refine fun hb => (h ?_).imp hfront.trans ?_
  · rcases hb with hb | hb | ⟨g, hg, hpg⟩
    · exact .inl (hheld hb)
    · exact .inr (.inl (hqueued ▸ hb))
    · exact .inr (.inr ⟨g, Multiset.mem_cons_of_mem hg, hpg⟩)
  · rintro ⟨g, hg, hsg⟩
    rcases Multiset.mem_cons.1 hg with rfl | hg
    · simp [hs] at hsg
    · exact ⟨g, hg, hsg⟩

/-- A blocking call that has bytes behind it has found the primary buffer empty. -/
theorem Exclusive.front_of_behind (h : Exclusive (f ::ₘ C)) (hclear : Clear held store (f ::ₘ C))
    (hb : f.isBlocking = true) (hbehind : Behind held store (f ::ₘ C)) : store.front = [] := by
  have hnone := h.alone hb
  subst hnone
  rcases hclear hbehind with hfront | ⟨g, hg, hs⟩
  · exact hfront
  · obtain rfl : g = f := by simpa using hg
    simp [Frame.isStarting_of_isBlocking hb] at hs

/-- A blocking call that waits or writes has found the primary buffer empty. -/
theorem Exclusive.front_eq_nil (h : Exclusive (f ::ₘ C)) (hclear : Clear held store (f ::ₘ C))
    (hb : f.isBlocking = true) (hp : f.isPatient = true) : store.front = [] :=
  h.front_of_behind hclear hb (behind_of_isPatient hp)

end Line

namespace System

variable {config : Config} {s s' : System} {moves : List Move} {a : Action} {sig : Option Signal} {t : ThreadId}

/-- A blocking call begins only when no other call is being made, and no call begins beside a blocking one, which
never goes on past a chain in flight. -/
def Move.IsOrderly (m : Move) : Prop :=
  match m.action with
  | .call _ c => ∀ f ∈ m.before.tally .calls, c.isBlocking = false ∧ f.isBlocking = false
  | .expire t => ∀ f ∈ (m.before.thread t).stack.head?, f.awaitsChain = false
  | _ => True

/-- Calls are made beside no blocking one. -/
theorem Move.IsOrderly.quiet (h : Move.IsOrderly ⟨s, a, s', sig⟩) {c : Call} (ha : a = .call t c) :
    ∀ f ∈ s.tally .calls, f.isBlocking = false := by
  subst ha
  exact fun f hf => (h f hf).2

theorem front_of_contents {store : Store} (h : store.contents = []) : store.front = [] :=
  (List.append_eq_nil_iff.1 h).1

theorem held_of_release {p : Permit} {g : Guard} (h : (p.release g).held = true) : p.held = true := by
  unfold Permit.release at h
  split at h
  · simp at h
  · exact h

theorem exclusive_step (hnum : s.Numbered) (hex : Exclusive (s.tally .calls)) (h : Step s a s' sig)
    (hord : Move.IsOrderly ⟨s, a, s', sig⟩) : Exclusive (s'.tally .calls) := by
  cases advanced_step hnum h with
  | same hcalls => exact hcalls ▸ hex
  | @begun t c f ha hf hcalls =>
    subst ha
    rw [hcalls]
    refine exclusive_cons (fun hb => ?_) (hord.quiet rfl)
    refine Multiset.eq_zero_of_forall_notMem fun f' hf' => ?_
    have hnot := (hord f' hf').1
    simp [← hf.isBlocking_eq, hb] at hnot
  | @goesOn f f' C hf hC hcalls =>
    rw [hC] at hex
    rw [hcalls]
    exact exclusive_cons (fun hb => hex.alone (hf.isBlocking_eq ▸ hb)) hex.not_blocking
  | ended hC hcalls =>
    rw [hC] at hex
    exact hcalls ▸ exclusive_none hex.not_blocking

/-- A blocking add fills the primary buffer only if nothing else waits. -/
theorem clear_absorb {src : Chunk} {frame : Frame} {C C' : Multiset Frame} {store : Store} {count : Nat} {full : Bool}
    (hwf : s.conn.store.WellFormed) (hex : Exclusive (.adding src ::ₘ C))
    (hclear : Clear s.conn.permit.held s.conn.store (.adding src ::ₘ C)) (hC : C' = frame ::ₘ C)
    (habs : s.conn.absorb src = (store, count, full))
    (hp : frame.isPatient = true → s.conn.permit.held = true) : Clear s.conn.permit.held store C' := by
  have hnone : C = 0 := hex.alone rfl
  have hstore : (s.conn.absorb src).1 = store := by rw [habs]
  subst hstore
  cases hwait : s.conn.store.hasPending || s.conn.permit.held with
  | true =>
    have hbehind : Behind s.conn.permit.held s.conn.store (.adding src ::ₘ C) := by
      rcases Bool.or_eq_true_iff.1 hwait with hpend | hheld
      · exact .inr (.inl fun hq => Store.hasPending_iff.1 hpend ((Store.queued_eq_nil_iff hwf).1 hq))
      · exact .inl hheld
    have hfront : (s.conn.absorb src).1.front = s.conn.store.front := by simp [Connection.absorb, hwait]
    exact clear_next hclear hC rfl hfront fun _ => hbehind
  | false =>
    rw [Bool.or_eq_false_iff] at hwait
    have hq : (s.conn.absorb src).1.queued = [] := by
      simp [Connection.absorb, hwait, Store.queued, Store.hasPending_eq_false_iff.1 hwait.1]
    rintro (hb | hb | ⟨g, hg, hpg⟩)
    · simp [hwait.2] at hb
    · exact absurd hq hb
    · subst hC hnone
      rw [Multiset.mem_cons] at hg
      obtain rfl | hg := hg
      · simp [hwait.2] at hp
        simp [hp] at hpg
      · simp at hg

/-- The holder of the permit gives it back for good. -/
theorem held_release_of_sole (hsole : Permit.Sole s.conn.permit (s.tally .guards)) {frame : Frame} {rest : List Frame}
    {g : Guard} (hst : (s.thread t).stack = frame :: rest) (hg : g ∈ frame.guards) :
    (s.conn.permit.release g).held = false := by
  have hmem : g ∈ s.tally .guards := by
    rw [tally_pop _ hst]
    exact Multiset.mem_add.2 (.inl hg)
  rw [hsole] at hmem
  split at hmem
  · next hheld =>
    rw [Multiset.mem_singleton] at hmem
    simp [Permit.release, Permit.isCurrent, hheld, hmem]
  · simp at hmem

/-- While blocking calls are alone, no step brings newer bytes before those in the primary buffer. -/
theorem clear_step (hnum : s.Numbered) (hwf : s.conn.store.WellFormed) (hex : Exclusive (s.tally .calls))
    (hclear : Clear s.conn.permit.held s.conn.store (s.tally .calls)) (h : Step s a s' sig) :
    Clear s'.conn.permit.held s'.conn.store (s'.tally .calls) := by
  have hfresh := hnum.outstanding _ (Nat.le_refl _)
  -- A call that waits or writes goes on, or ends, with the primary buffer empty.
  have hfront {t f rest} (hst : (s.thread t).stack = f :: rest) (hf : f.isCall = true) (hb : f.isBlocking = true)
      (hp : f.isPatient = true) : s.conn.store.front = [] :=
    Exclusive.front_eq_nil (calls_pop hst hf ▸ hex) (calls_pop hst hf ▸ hclear) hb hp
  cases h with
  | addNothing _ _ | addRefused _ _ _ | flushRefused _ _ | flushHeld _ _ _ | registered _ _ | reset _
  | transportPending => exact hclear
  | addBlocking _ _ _ | flushCollects _ _ _ =>
    exact clear_open hclear (calls_push _ _ _ rfl) (by simp [Frame.isPatient])
  | addFull _ _ _ hheld _ | flushAwaits _ _ hheld => exact clear_open hclear (calls_push _ _ _ rfl) fun _ => hheld
  | registeredFree _ _ =>
    refine clear_open (f := .answering .done) hclear ?_ (by simp [Frame.isPatient])
    simp [tally_push, Frame.isCall]
  | addGranted _ _ _ _ =>
    rw [calls_push _ _ _ rfl]
    exact clear_of_starting (Multiset.mem_cons_self _ _) rfl
  | addQueued _ _ _ hheld hroom =>
    rw [Connection.queue?_eq_ok hroom]
    exact clear_mono hclear (by simp) (fun _ => .inl hheld) fun _ hf _ => hf
  | flushNothing _ _ hfree _ =>
    have hheld : (s.conn.permit.grant.release s.conn.permit.nextGuard).held = s.conn.permit.held := by
      simp [Permit.release, Permit.isCurrent, Permit.grant, Permit.nextGuard, hfree]
    exact hheld ▸ hclear
  | flushBegun _ _ _ htake | started _ htake =>
    exact clear_of_front (front_of_contents (unsent_takeWrite hwf htake).2)
  | recycle _ => exact clear_of_front (front_of_contents (by simp [Connection.recycle]))
  | answered hst | issued hst | addDone hst _ | collectedLate hst _ | roomExpired hst _ | sweptFlush hst _ _ _ =>
    exact clear_close (calls_pop hst rfl ▸ hclear) rfl (by simp) id (by simp)
  | refused hst => exact clear_close (calls_pop hst rfl ▸ hclear) rfl rfl held_of_release rfl
  | startedNothing _ htake => exact clear_of_front (front_of_contents (contents_of_takeWrite_none hwf htake))
  | absorbed hst _ habs | filled hst _ habs _ =>
    exact clear_absorb (s := s) hwf (calls_pop hst rfl ▸ hex) (calls_pop hst rfl ▸ hclear) (calls_replace _ _ _ _ rfl)
      habs (by simp [Frame.isPatient])
  | filledBehind hst _ habs hheld =>
    exact clear_absorb (s := s) hwf (calls_pop hst rfl ▸ hex) (calls_pop hst rfl ▸ hclear) (calls_replace _ _ _ _ rfl)
      habs fun _ => hheld
  | roomMade hst _ | chainAwaited hst _ =>
    exact clear_next (calls_pop hst rfl ▸ hclear) (calls_replace _ _ _ _ rfl) rfl rfl fun _ => behind_of_isPatient rfl
  | admittedLate hst _ | chainExpired hst _ =>
    exact clear_next (calls_pop hst rfl ▸ hclear) (calls_replace _ _ _ _ rfl) rfl rfl
      (behind_next id rfl (by simp [Frame.isPatient]))
  | yielded hst =>
    exact clear_next (calls_pop hst rfl ▸ hclear) (calls_replace _ _ _ _ rfl) rfl rfl
      (behind_next held_of_release rfl (by simp [Frame.isPatient]))
  | admitted _ _ =>
    rw [takeOver_eq, tally_setConn, calls_replace _ _ _ _ rfl]
    exact clear_of_starting (Multiset.mem_cons_self _ _) rfl
  | collected _ _ => exact clear_of_front (front_of_contents (Store.contents_swept _))
  | sweptChunk hst _ | sweptPrimary hst _ _ | tripBegun hst _ | tripDone hst _ _ =>
    exact clear_of_front (hfront hst rfl rfl rfl)
  | sweptAdd hst _ _ _ => exact clear_of_front ((Store.front_ensurePrimary _).trans (hfront hst rfl rfl rfl))
  | tripsDone hst hbuf => exact clear_of_front ((Store.front_reclaim hbuf).trans (hfront hst rfl rfl rfl))
  | tripDropped hst _ | tripFailed hst _ _ | tripExpired hst _ =>
    exact clear_of_front ((Sweep.front_putBack _ _ _).trans (hfront hst rfl rfl rfl))
  | driven hst hd => simpa [tally_driven _ hfresh hst hd, Frame.isCall] using hclear
  | driveDone hst hd => simpa [tally_driveDone _ hd, tally_pop _ hst, Frame.isCall] using hclear
  | carried hst hd => simpa [tally_carried _ hfresh hd, tally_pop _ hst, Frame.isCall] using hclear
  | deferred hst hd => simpa [tally_deferred _ hd, tally_pop _ hst, Frame.isCall] using hclear
  | transportReturned hst | notified hst => simpa [tally_pop _ hst, Frame.isCall] using hclear
  | attached hst | told hst | toldFailure hst => simpa [tally_pop _ hst, tally_replace, Frame.isCall] using hclear
  | strayEnded _ hw | tripEnded _ hw | chainStale _ hw _ | strayForgotten hw | tripForgotten hw =>
    simpa [tally_endWrite _ hw] using hclear
  | @chainForgotten w write flight hw =>
    have hclear : Clear (s.conn.permit.release flight.guard).held s.conn.store (s.tally .calls) :=
      clear_mono hclear rfl (Or.imp_left held_of_release) fun _ hf _ => hf
    simpa [tally_endWrite _ hw] using hclear
  | chainQuiet _ _ hset | chainTold _ _ hset =>
    obtain ⟨-, -, -, -, -, hempty⟩ := hset.unsent_finished hwf
    exact clear_of_front (front_of_contents hempty)
  | chainGoesOn _ _ hset =>
    obtain ⟨-, -, -, -, hempty⟩ := hset.unsent_reissue hwf
    exact clear_of_front (front_of_contents hempty)
  | chainFailed _ _ hset => exact clear_of_front (front_of_contents hset.contents_failed)

end System

end Outflow
