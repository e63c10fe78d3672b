import Outflow.Proofs.Report
import Outflow.Proofs.Telling

/-! Word for a producer that asked for it. A registered interest outlives the chain that it waits for only if the guard
of the permit is dropped, so that nobody sees to the end of the chain. -/
namespace Outflow

/-- An add that waits for room has data, and once it may begin, that is in the store. -/
def Frame.HasCargo (store : Store) : Frame → Prop
  | starting _ _ => store.contents ≠ []
  | awaitingRoom src _ _ | admitted src _ => src.unsent ≠ []
  | _ => True

theorem Frame.HasCargo.append {store store' : Store} {f : Frame} {more : List UInt8} (h : f.HasCargo store)
    (hs : store'.contents = store.contents ++ more) : f.HasCargo store' := by
  cases f with
  | starting starter g =>
    have hne : store.contents ≠ [] := h
    simp [HasCargo, hs, hne]
  | _ => exact h

/-- Data that waits outside the store does not depend on it. -/
theorem Frame.HasCargo.of_guards {store store' : Store} {f : Frame} (h : f.HasCargo store) (hg : f.guards = []) :
    f.HasCargo store' := by
  cases f with
  | starting starter g => simp [guards] at hg
  | _ => exact h

/-- The end of a chain that is not seen by the issuing call leaves no interest behind. -/
theorem Connection.Settled.interest_finished {c c' : Connection} {f : Flight} {outcome : Outcome} {write : Write}
    {notify : Bool} (h : Settled c f false outcome write c' (.finished notify)) : c'.interest = false := by
  cases h with
  | finished hw hg hs hb => simp [finish]

theorem Connection.Settled.notify_eq {c c' : Connection} {f : Flight} {isInline : Bool} {outcome : Outcome}
    {write : Write} {notify : Bool} (h : Settled c f isInline outcome write c' (.finished notify)) :
    notify = (c.interest && !isInline) := by
  cases h
  rfl

def Frame.isRefusing : Frame → Bool
  | refusing _ _ => true
  | _ => false

def Handed.isInline (ms : Markers) (t : ThreadId) : Handed → Bool
  | chain _ flight => ms.isInline flight.marker t
  | trip _ | stray _ => false

def Action.isReset : Action → Bool
  | call _ .reset => true
  | _ => false

namespace System

variable {config : Config} {s s' : System} {moves : List Move} {a : Action} {sig : Option Signal} {t : ThreadId}

/-- Calls do not block, the connection is not recycled, and no write ends within the call that issued it. -/
def Move.IsDetached (m : Move) : Prop :=
  match m.action with
  | .call _ c => c.isBlocking = false ∧ c.isRecycle = false
  | .complete t w _ => ∀ h ∈ m.before.outstanding.find? w, h.isInline m.before.markers t = false
  | _ => True

instance : DecidablePred Move.IsDetached
  | ⟨_, .call _ _, _, _⟩ => inferInstanceAs (Decidable (_ ∧ _))
  | ⟨_, .complete _ _ _, _, _⟩ => inferInstanceAs (Decidable (∀ h ∈ _, _ = _))
  | ⟨_, .run _, _, _⟩ | ⟨_, .expire _, _, _⟩ | ⟨_, .resume _, _, _⟩ | ⟨_, .abandon _, _, _⟩
  | ⟨_, .transportPending _, _, _⟩ => inferInstanceAs (Decidable True)

theorem Move.IsDetached.kept {m : Move} (h : m.IsDetached) (t : ThreadId) : m.action ≠ .call t .recycle := by
  intro ha
  simp [Move.IsDetached, ha, Call.isRecycle] at h

theorem Move.IsDetached.of_call {m : Move} (h : m.IsDetached) {t : ThreadId} {c : Call} (ha : m.action = .call t c) :
    c.isBlocking = false := by
  simp only [Move.IsDetached, ha] at h
  exact h.1

theorem Move.IsDetached.isInline {w : WriteId} {outcome : Outcome} {write : Write} {flight : Flight}
    (h : Move.IsDetached ⟨s, .complete t w outcome, s', sig⟩)
    (hw : s.outstanding.find? w = some (.chain write flight)) : s.markers.isInline flight.marker t = false :=
  h _ hw

/-- The guard of the permit goes without word: with a write that the transport forgets, or with an add that waited for
room and learns of a failure. -/
def Move.dropsGuard (m : Move) : Bool :=
  match m.action with
  | .abandon _ => true
  | .run t => (m.before.thread t).stack.head?.any Frame.isRefusing
  | _ => false

/-- A guard is dropped while somebody waits for word, and that frees the permit. -/
structure Move.Strands (m : Move) : Prop where
  drops : m.dropsGuard = true
  held : m.before.conn.permit.held = true
  interest : m.before.conn.interest = true
  free : m.after.conn.permit.held = false

/-! ### Who holds the permit -/

theorem not_blocking_of_calls (run : Run (fresh config) moves s)
    (hcalls : ∀ m ∈ moves, ∀ t c, m.action = .call t c → c.isBlocking = false) :
    ∀ f ∈ s.tally .calls, f.isBlocking = false := by
  intro f hf
  obtain ⟨shares, parts, hm, -, -⟩ := ledger_run run
  obtain ⟨t, ht⟩ := mem_calls_iff.1 hf
  obtain ⟨r, hr, hserves⟩ := exists_share (hm.serves t) ht
  have hpending := (ledger_forall (P := fun c => c.isBlocking = false) hcalls).1
  rw [hm.pending, List.forall_mem_map] at hpending
  exact hserves.isBlocking.trans (hpending r (List.mem_of_mem_filter hr))

/-- No frame of a blocking call is there to go on. -/
theorem not_blocking_top (hnb : ∀ f ∈ s.tally .calls, f.isBlocking = false) {frame : Frame} {rest : List Frame}
    (hst : (s.thread t).stack = frame :: rest) (hb : frame.isBlocking = true) (hc : frame.isCall = true) : False := by
  have := hnb frame (calls_pop hst hc ▸ Multiset.mem_cons_self _ _)
  simp [hb] at this

/-- The guards in circulation are those of chains and those of calls. -/
theorem guards_eq_jobs_add_calls (s : System) : s.tally .guards
    = (s.tally .jobs).map (fun job => job.flight.guard) + (s.tally .calls).bind fun f => ↑f.guards := by
  have hframe : ∀ f : Frame, f.isCall = false → Tally.guards.ofFrame f = f.jobs.flatMap Tally.guards.ofJob := by
    intro f hf
    cases f <;> simp_all [Frame.isCall, Frame.guards, Frame.jobs]
  rw [tally_split s hframe]
  simp [Multiset.bind_singleton]

theorem guards_of_mem_calls (h : s.tally .guards = 0) {f : Frame} (hf : f ∈ s.tally .calls) : f.guards = [] := by
  refine List.eq_nil_iff_forall_not_mem.2 fun g hg => ?_
  have hmem : g ∈ s.tally .guards := by
    rw [guards_eq_jobs_add_calls]
    exact Multiset.mem_add.2 (.inr (Multiset.mem_bind.2 ⟨f, hf, hg⟩))
  simp [h] at hmem

/-- Beside the guard of the holder there is none. -/
theorem guards_eq_zero_of_cons {p : Permit} {g : Guard} {G : Multiset Guard} (h : Permit.Sole p (g ::ₘ G)) : G = 0 := by
  unfold Permit.Sole at h
  split at h
  · exact ((Multiset.singleton_eq_cons_iff _).1 h.symm).2
  · simp at h

theorem guards_endWrite (hsole : Permit.Sole s.conn.permit (s.tally .guards)) {w : WriteId} {write : Write}
    {flight : Flight} (hw : s.outstanding.find? w = some (.chain write flight)) :
    (s.endWrite w).tally .guards = 0 := by
  rw [tally_endWrite _ hw] at hsole
  exact guards_eq_zero_of_cons hsole

theorem guards_pop (hsole : Permit.Sole s.conn.permit (s.tally .guards)) {frame : Frame} {rest : List Frame}
    {g : Guard} (hst : (s.thread t).stack = frame :: rest) (hg : frame.guards = [g]) :
    (s.setStack t rest).tally .guards = 0 := by
  rw [tally_pop _ hst, Tally.guards_ofFrame, hg] at hsole
  exact guards_eq_zero_of_cons hsole

theorem guards_of_free (hsole : Permit.Sole s.conn.permit (s.tally .guards)) (hfree : s.conn.permit.held = false) :
    s.tally .guards = 0 := by
  simpa [Permit.Sole, hfree] using hsole

theorem held_of_holder (hsole : Permit.Sole s.conn.permit (s.tally .guards)) {frame : Frame} {rest : List Frame}
    {g : Guard} (hst : (s.thread t).stack = frame :: rest) (hg : g ∈ frame.guards) : s.conn.permit.held = true := by
  by_contra hfree
  have hmem : g ∈ s.tally .guards := by
    rw [tally_pop _ hst]
    exact Multiset.mem_add.2 (.inl hg)
  simp [guards_of_free hsole (by simpa using hfree)] at hmem

/-! ### Something to begin with -/

/-- Each add that has to wait, or may begin now, has its data. -/
def Laden (s : System) : Prop := ∀ f ∈ s.tally .calls, f.HasCargo s.conn.store

theorem laden_fresh (config : Config) : (fresh config).Laden := by
  simp [Laden]

theorem Laden.of_guards (h : s.Laden) (hg : s.tally .guards = 0) (store : Store) :
    ∀ f ∈ s.tally .calls, f.HasCargo store :=
  fun f hf => (h f hf).of_guards (guards_of_mem_calls hg hf)

theorem laden_step (hwf : s.conn.store.WellFormed) (hnum : s.Numbered)
    (hsole : Permit.Sole s.conn.permit (s.tally .guards)) (hnb : ∀ f ∈ s.tally .calls, f.isBlocking = false)
    (hl : s.Laden) (h : Step s a s' sig) (hkept : ∀ t, a ≠ .call t .recycle) : s'.Laden := by
  have hfresh := hnum.outstanding _ (Nat.le_refl _)
  have hpop {t frame rest} (hst : (s.thread t).stack = frame :: rest) :
      ∀ f ∈ (s.setStack t rest).tally .calls, f.HasCargo s.conn.store := fun f hf =>
    hl f (tally_pop _ hst ▸ Multiset.mem_add.2 (.inr hf))
  have htop {t frame rest} (hst : (s.thread t).stack = frame :: rest) (hc : frame.isCall = true) :
      frame.HasCargo s.conn.store := hl frame (calls_pop hst hc ▸ Multiset.mem_cons_self _ _)
  have hbegin {src : Chunk} (hsrc : src.unsent ≠ []) : (s.conn.store.ensurePrimary.append src).contents ≠ [] := by
    simp [contents_takeOver hwf, hsrc]
  unfold Laden
  cases h with
  | addNothing _ _ | addRefused _ _ _ | flushRefused _ _ | flushHeld _ _ _ | flushNothing _ _ _ _ | registered _ _
  | reset _ | transportPending => exact hl
  | addBlocking _ _ _ | flushAwaits _ _ _ | flushCollects _ _ _ =>
    rw [calls_push _ _ _ rfl, Multiset.forall_mem_cons]
    exact ⟨trivial, hl⟩
  | addGranted hout hsrc herr hfree =>
    rw [calls_push _ _ _ rfl, Multiset.forall_mem_cons]
    exact ⟨hbegin (Chunk.hasRemaining_iff_unsent.1 hsrc), hl.of_guards (guards_of_free hsole hfree) _⟩
  | addQueued hout hsrc herr hheld hroom =>
    rw [Connection.queue?_eq_ok hroom]
    exact fun f hf => (hl f hf).append (Store.contents_pushOverflow _ _)
  | addFull hout hsrc herr hheld hroom =>
    rw [calls_push _ _ _ rfl, Multiset.forall_mem_cons]
    exact ⟨Chunk.hasRemaining_iff_unsent.1 hsrc, hl⟩
  | flushBegun hout herr hfree htake =>
    rw [calls_begin, Multiset.forall_mem_cons]
    exact ⟨trivial, hl.of_guards (guards_of_free hsole hfree) _⟩
  | @registeredFree t hout hfree =>
    have hcalls : ((s.push t (.answering .done)).push t (.telling .writable)).tally .calls
        = .answering .done ::ₘ s.tally .calls := by simp [tally_push, Frame.isCall]
    rw [hcalls, Multiset.forall_mem_cons]
    exact ⟨trivial, hl⟩
  | @recycle t hout => exact absurd rfl (hkept t)
  | answered hst | issued hst | startedNothing hst _ | addDone hst _ | refused hst | collectedLate hst _
  | roomExpired hst _ | transportReturned hst | notified hst => exact hpop hst
  | driven hst hd => simpa [Laden, tally_driven _ hfresh hst hd, Frame.isCall] using hl
  | driveDone hst hd => simpa [tally_driveDone _ hd] using hpop hst
  | carried hst hd => simpa [tally_carried _ hfresh hd, Frame.isCall] using hpop hst
  | deferred hst hd => simpa [tally_deferred _ hd] using hpop hst
  | started hst htake =>
    rw [calls_begin, Multiset.forall_mem_cons]
    have hguards := guards_pop hsole hst rfl
    exact ⟨trivial, fun f hf => (hpop hst f hf).of_guards (guards_of_mem_calls hguards hf)⟩
  | roomMade hst hfree =>
    rw [setPermit_eq, tally_setConn, calls_replace _ _ _ _ rfl, Multiset.forall_mem_cons]
    have hsrc := htop hst rfl
    exact ⟨hsrc, hpop hst⟩
  | admittedLate hst herr =>
    rw [calls_replace _ _ _ _ rfl, Multiset.forall_mem_cons]
    exact ⟨trivial, hpop hst⟩
  | admitted hst herr =>
    rw [takeOver_eq, tally_setConn, calls_replace _ _ _ _ rfl, Multiset.forall_mem_cons]
    exact ⟨hbegin (htop hst rfl), fun f hf => (hpop hst f hf).append (contents_takeOver hwf _)⟩
  | attached hst | told hst | toldFailure hst =>
    rw [tally_replace]
    simpa [Frame.isCall] using hpop hst
  | strayEnded hout hw | tripEnded hout hw | chainStale hout hw hset | strayForgotten hw | tripForgotten hw
  | chainForgotten hw => simpa [Laden, tally_endWrite _ hw] using hl
  | @chainQuiet t w _ _ _ _ hout hw hset | @chainTold t w _ _ _ _ hout hw hset
  | @chainGoesOn t w _ _ _ _ _ hout hw hset | @chainFailed t w _ _ _ _ _ hout hw hset =>
    have hend : (s.endWrite w).Laden := by simpa [Laden, tally_endWrite _ hw] using hl
    simpa [tally_push, Frame.isCall] using hend.of_guards (guards_endWrite hsole hw) _
  | absorbed hst _ _ | filledBehind hst _ _ _ | filled hst _ _ _ | chainAwaited hst _ | yielded hst | collected hst _
  | sweptChunk hst _ | sweptPrimary hst _ _ | sweptFlush hst _ _ _ | sweptAdd hst _ _ _ | tripBegun hst _
  | tripsDone hst _ | tripDropped hst _ | tripFailed hst _ _ | tripDone hst _ _ | chainExpired hst _
  | tripExpired hst _ => exact (not_blocking_top hnb hst rfl rfl).elim

theorem laden_run (run : Run (fresh config) moves s) (hdet : ∀ m ∈ moves, m.IsDetached) : s.Laden := by
  induction run with
  | nil => exact laden_fresh config
  | snoc run h ih =>
    simp only [List.forall_mem_append, List.forall_mem_singleton] at hdet
    have hnb := not_blocking_of_calls run fun m hm t c ha => (hdet.1 m hm).of_call ha
    exact laden_step (sound_run run).store.wellFormed (numbered_run run)
      (sole_run run fun m hm => (hdet.1 m hm).kept) hnb (ih hdet.1) (step_perform h) hdet.2.kept

/-- An add that begins a chain finds something to send. -/
theorem Laden.takeWrite_ne (hl : s.Laden) (hwf : s.conn.store.WellFormed) {starter : Starter} {g : Guard}
    {rest : List Frame} (hst : (s.thread t).stack = .starting starter g :: rest) :
    s.conn.takeWrite ≠ (s.conn.store, none) := by
  intro htake
  have hcargo := hl _ (calls_pop hst rfl ▸ Multiset.mem_cons_self _ _)
  exact absurd (contents_of_takeWrite_none hwf htake) hcargo

/-! ### Who is left waiting -/

/-- A producer waits for word, and no chain is there that could end. -/
def Stranded (s : System) : Prop := s.conn.permit.held = false ∧ s.conn.interest = true

theorem stranded_same (hheld : s'.conn.permit.held = s.conn.permit.held)
    (hinterest : s'.conn.interest = s.conn.interest) (ha : a.isReset = false) : s'.Stranded ↔
      (s.Stranded ∧ a.isReset = false ∧ s'.conn.permit.held = false) ∨ Move.Strands ⟨s, a, s', sig⟩ := by
  rw [Stranded, Stranded, hheld, hinterest]
  refine ⟨fun h => .inl ⟨h, ha, h.1⟩, ?_⟩
  rintro (h | ⟨-, hbefore, -, hafter⟩)
  · exact h.1
  · exact absurd (hheld.symm.trans hafter) (by simpa using hbefore)

theorem stranded_of_held (hheld : s'.conn.permit.held = true) : s'.Stranded ↔
    (s.Stranded ∧ a.isReset = false ∧ s'.conn.permit.held = false) ∨ Move.Strands ⟨s, a, s', sig⟩ := by
  have hfree : ¬ s'.conn.permit.held = false := by simp [hheld]
  refine iff_of_false (fun h => hfree h.1) ?_
  rintro (h | h)
  · exact hfree h.2.2
  · exact hfree h.free

/-- The end of a chain, and a reset, leave nobody waiting. -/
theorem stranded_of_told (hinterest : s'.conn.interest = false) (hkeeps : (Move.dropsGuard ⟨s, a, s', sig⟩) = false)
    (hended : s.conn.permit.held = true ∨ a.isReset = true) : s'.Stranded ↔
      (s.Stranded ∧ a.isReset = false ∧ s'.conn.permit.held = false) ∨ Move.Strands ⟨s, a, s', sig⟩ := by
  refine iff_of_false (fun h => by simp [h.2] at hinterest) ?_
  rintro (h | h)
  · rcases hended with hheld | hreset
    · simp [h.1.1] at hheld
    · simp [h.2.1] at hreset
  · simp [h.drops] at hkeeps

/-- The holder drops the guard. -/
theorem stranded_of_drop (hdrops : (Move.dropsGuard ⟨s, a, s', sig⟩) = true) (hheld : s.conn.permit.held = true)
    (hfree : s'.conn.permit.held = false) (hinterest : s'.conn.interest = s.conn.interest) : s'.Stranded ↔
      (s.Stranded ∧ a.isReset = false ∧ s'.conn.permit.held = false) ∨ Move.Strands ⟨s, a, s', sig⟩ := by
  constructor
  · exact fun h => .inr ⟨hdrops, hheld, hinterest ▸ h.2, hfree⟩
  · rintro (h | h)
    · simp [h.1.1] at hheld
    · exact ⟨hfree, hinterest.trans h.interest⟩

theorem stranded_step (hwf : s.conn.store.WellFormed) (hsole : Permit.Sole s.conn.permit (s.tally .guards))
    (hnb : ∀ f ∈ s.tally .calls, f.isBlocking = false) (hl : s.Laden) (h : Step s a s' sig)
    (hdet : Move.IsDetached ⟨s, a, s', sig⟩) : s'.Stranded ↔
      (s.Stranded ∧ a.isReset = false ∧ s'.conn.permit.held = false) ∨ Move.Strands ⟨s, a, s', sig⟩ := by
  cases h with
  | addGranted _ _ _ _ | flushBegun _ _ _ _ | roomMade _ _ => exact stranded_of_held rfl
  | registered hout hheld => exact stranded_of_held hheld
  | reset hout => exact stranded_of_told rfl rfl (.inr rfl)
  | @recycle t hout => exact absurd rfl (hdet.kept t)
  | addQueued hout hsrc herr hheld hroom =>
    rw [Connection.queue?_eq_ok hroom]
    exact stranded_same rfl rfl rfl
  | flushNothing hout herr hfree htake =>
    refine stranded_same ?_ rfl rfl
    simp [Permit.release, Permit.isCurrent, Permit.grant, Permit.nextGuard, hfree]
  | startedNothing hst htake => exact absurd htake (hl.takeWrite_ne hwf hst)
  | @refused t rest err g hst =>
    have hg : g ∈ (Frame.refusing err g).guards := List.mem_singleton_self g
    exact stranded_of_drop (by simp [Move.dropsGuard, hst, Frame.isRefusing]) (held_of_holder hsole hst hg)
      (held_release_of_sole hsole hst hg) rfl
  | @chainForgotten w write flight hw =>
    have hcurrent := isCurrent_of_sole hsole hw
    exact stranded_of_drop rfl (Permit.isCurrent_iff.1 hcurrent).1 (by simp [Permit.release, hcurrent]) rfl
  | @chainQuiet t w outcome write flight conn hout hw hset
  | @chainTold t w outcome write flight conn hout hw hset =>
    refine stranded_of_told ?_ rfl (.inl (Permit.isCurrent_iff.1 (isCurrent_of_sole hsole hw)).1)
    have hinline := hdet.isInline hw
    rw [hinline] at hset
    exact hset.interest_finished
  | @chainFailed t w outcome write flight conn err hout hw hset =>
    refine stranded_of_told ?_ rfl (.inl (Permit.isCurrent_iff.1 (isCurrent_of_sole hsole hw)).1)
    cases hset
    rfl
  | @chainGoesOn t w outcome write flight conn next hout hw hset =>
    have hheld := (Permit.isCurrent_iff.1 (isCurrent_of_sole hsole hw)).1
    exact stranded_of_held (hset.permit ▸ hheld)
  | absorbed hst _ _ | filledBehind hst _ _ _ | filled hst _ _ _ | chainAwaited hst _ | yielded hst | collected hst _
  | sweptChunk hst _ | sweptPrimary hst _ _ | sweptFlush hst _ _ _ | sweptAdd hst _ _ _ | tripBegun hst _
  | tripsDone hst _ | tripDropped hst _ | tripFailed hst _ _ | tripDone hst _ _ | chainExpired hst _
  | tripExpired hst _ => exact (not_blocking_top hnb hst rfl rfl).elim
  | _ => exact stranded_same rfl rfl rfl

/-- A chain that ends while somebody waits for word has it told, unless its guard is dropped. -/
theorem told_step (hwf : s.conn.store.WellFormed)
    (hnb : ∀ f ∈ s.tally .calls, f.isBlocking = false) (hl : s.Laden) (h : Step s a s' sig)
    (hdet : Move.IsDetached ⟨s, a, s', sig⟩) (hheld : s.conn.permit.held = true)
    (hinterest : s.conn.interest = true) (hfree : s'.conn.permit.held = false) :
    Move.Strands ⟨s, a, s', sig⟩ ∨ ∃ t event, a.thread = some t ∧ s'.Tells t event := by
  have hsame (hp : s'.conn.permit = s.conn.permit) : False := by simp [hp, hheld] at hfree
  cases h with
  | chainTold _ _ _ | chainFailed _ _ _ => exact .inr ⟨_, _, rfl, by simp [Tells]; rfl⟩
  | @chainQuiet t w outcome write flight conn hout hw hset =>
    have hinline := hdet.isInline hw
    have hquiet := hset.notify_eq
    simp [hinline, hinterest] at hquiet
  | @refused t rest err g hst =>
    exact .inl ⟨by simp [Move.dropsGuard, hst, Frame.isRefusing], hheld, hinterest, hfree⟩
  | chainForgotten hw => exact .inl ⟨rfl, hheld, hinterest, hfree⟩
  -- An add that may begin finds its data in the store, so that it never gives the permit back at once.
  | startedNothing hst htake => exact absurd htake (hl.takeWrite_ne hwf hst)
  | yielded hst => exact (not_blocking_top hnb hst rfl rfl).elim
  | flushNothing hout herr hfree' htake => simp [hheld] at hfree'
  | @recycle t hout => exact absurd rfl (hdet.kept t)
  | addQueued hout hsrc herr hheld' hroom => exact (hsame (by rw [Connection.queue?_eq_ok hroom]; rfl)).elim
  | chainStale hout hw hset => exact (hsame rfl).elim
  | chainGoesOn hout hw hset => exact (hsame hset.permit).elim
  | addGranted _ _ _ hfree' | flushBegun _ _ hfree' _ | roomMade _ hfree' | chainAwaited _ hfree' =>
    simp [hheld] at hfree'
  | _ => exact (hsame rfl).elim

/-- Something has happened before the last entry of a log and since then only such entries were made, or it happens with
the last one. -/
theorem exists_since_append_singleton {α : Type} {P Q : α → Prop} {l : List α} {x : α} :
    (∃ before m after, l ++ [x] = before ++ m :: after ∧ P m ∧ ∀ y ∈ after, Q y) ↔
      ((∃ before m after, l = before ++ m :: after ∧ P m ∧ ∀ y ∈ after, Q y) ∧ Q x) ∨ P x := by
  constructor
  · rintro ⟨before, m, after, heq, hm, hafter⟩
    rcases after.eq_nil_or_concat with rfl | ⟨after, last, rfl⟩
    · obtain ⟨rfl, hlast⟩ := List.append_inj' heq rfl
      exact .inr (List.singleton_inj.1 hlast ▸ hm)
    · rw [List.concat_eq_append, ← List.cons_append, ← List.append_assoc] at heq
      obtain ⟨rfl, hlast⟩ := List.append_inj' heq rfl
      obtain rfl := List.singleton_inj.1 hlast
      simp only [List.concat_eq_append, List.forall_mem_append, List.forall_mem_singleton] at hafter
      exact .inl ⟨⟨before, m, after, rfl, hm, hafter.1⟩, hafter.2⟩
  · rintro (⟨⟨before, m, after, rfl, hm, hafter⟩, hlast⟩ | hm)
    · exact ⟨before, m, after ++ [x], by simp, hm,
        List.forall_mem_append.2 ⟨hafter, List.forall_mem_singleton.2 hlast⟩⟩
    · exact ⟨l, x, [], rfl, hm, by simp⟩

/-- An interest is left behind exactly if a guard was dropped while it was registered, and since then the permit was
not granted and the interest not withdrawn. Whenever else a chain ends, the thread that ends it tells the producer that
waits as the next thing that it does. -/
theorem wakeup_lost_iff (run : Run (fresh config) moves s) (hdet : ∀ m ∈ moves, m.IsDetached) :
    ((s.conn.permit.held = false ∧ s.conn.interest = true) ↔
      ∃ before m after, moves = before ++ m :: after ∧ m.Strands ∧
        ∀ x ∈ after, x.action.isReset = false ∧ x.after.conn.permit.held = false) ∧
    ∀ before m after, moves = before ++ m :: after → m.before.conn.permit.held = true →
      m.before.conn.interest = true → m.after.conn.permit.held = false →
      m.Strands ∨ ∃ t event, m.action.thread = some t ∧ m.after.Tells t event ∧
        (s.Tells t event ∨ Delivered t event after) := by
  refine ⟨?_, fun before m after hmoves hheld hinterest hfree => ?_⟩
  · induction run with
    | nil => simp [fresh, Connection.fresh]
    | @snoc moves s a s' sig run h ih =>
      simp only [List.forall_mem_append, List.forall_mem_singleton] at hdet
      have hsole := sole_run run fun m hm => (hdet.1 m hm).kept
      have hnb := not_blocking_of_calls run fun m hm t c ha => (hdet.1 m hm).of_call ha
      have hstep := stranded_step (sound_run run).store.wellFormed hsole hnb (laden_run run hdet.1) (step_perform h)
        hdet.2
      rw [Stranded, Stranded, ih hdet.1] at hstep
      rw [hstep, exists_since_append_singleton]
  · obtain ⟨begun, hperform⟩ := run.split hmoves
    have hbegun : ∀ m ∈ before, m.IsDetached := fun m hm => hdet m (by simp [hmoves, hm])
    have hnb := not_blocking_of_calls begun fun m hm t c ha => (hbegun m hm).of_call ha
    obtain hstrands | ⟨t, event, ha, htells⟩ := told_step (sound_run begun).store.wellFormed hnb
      (laden_run begun hbegun) (step_perform hperform) (hdet m (by simp [hmoves])) hheld hinterest hfree
    · exact .inl hstrands
    · exact .inr ⟨t, event, ha, htells, htells.delivered (run.rest hmoves)⟩

/-- The transport forgets the write whose end the producer waits for. A flush finds the permit free, and does not tell
either. -/
theorem wakeup_lost_dropped_write : ∃ moves s, Run (fresh {}) moves s ∧
    ∃ before m after, moves = before ++ m :: after ∧ m.Strands ∧
      ∀ x ∈ after, x.action.isReset = false ∧ x.after.conn.permit.held = false := by
  obtain ⟨moves, s, run, hdet, hend⟩ := Run.exists_of_follow (fresh {})
    [.call 0 (.add { bytes := ⟨#[97]⟩ } .nonBlocking), .run 0, .run 0, .resume 0, .run 0, .run 0,
      .call 0 .registerInterest, .abandon 0, .call 0 (.flush .nonBlocking)]
    (P := fun moves s => (∀ m ∈ moves, m.IsDetached) ∧ s.conn.permit.held = false ∧ s.conn.interest = true)
    (by decide +kernel)
  exact ⟨moves, s, run, (wakeup_lost_iff run hdet).1.1 hend⟩

/-- A registered interest outlives the chain that it waits for. -/
theorem wakeup_lost : ¬ ∀ (config : Config) (moves : List Move) (s : System), Run (fresh config) moves s →
    (∀ m ∈ moves, m.IsDetached) → s.conn.permit.held = false → s.conn.interest = false := by
  intro h
  obtain ⟨moves, s, run, hdet, hheld, hinterest⟩ := Run.exists_of_follow (fresh {})
    [.call 0 (.add { bytes := ⟨#[97]⟩ } .nonBlocking), .run 0, .run 0, .resume 0, .run 0, .run 0,
      .call 0 .registerInterest, .abandon 0]
    (P := fun moves s => (∀ m ∈ moves, m.IsDetached) ∧ s.conn.permit.held = false ∧ s.conn.interest = true)
    (by decide +kernel)
  simp [h {} moves s run hdet hheld] at hinterest

end System

end Outflow
