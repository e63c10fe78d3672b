import Outflow.Proofs.Turns

/-! Who has the permit. As long as the generations tell all guards apart, one guard in circulation has a say while the
permit is held, and none while it is free: it is with a frame that is about to go on, or with the chain in flight. -/
namespace Outflow

namespace Permit

variable {p : Permit} {g : Guard} {G : Multiset Guard} {n : Nat}

/-- One of the guards has a say while the permit is held, and none while it is free. -/
def Governs (p : Permit) (G : Multiset Guard) : Prop :=
  (G.filter fun g => p.isCurrent g = true).card = if p.held then 1 else 0

theorem governs_of_sole (h : Sole p G) : p.Governs G := by
  unfold Sole at h
  cases hheld : p.held with
  | false => simp [Governs, h, hheld]
  | true =>
    have hcurrent : p.isCurrent ⟨p.generation⟩ = true := isCurrent_iff.2 ⟨hheld, rfl⟩
    rw [Governs, h, hheld, if_pos rfl, Multiset.filter_singleton, if_pos hcurrent, Multiset.card_singleton, if_pos rfl]

/-- Beside the guard that has a say there is no other. -/
theorem Governs.stale (h : p.Governs (g ::ₘ G)) (hg : p.isCurrent g = true) {g' : Guard} (hg' : g' ∈ G) :
    p.isCurrent g' = false := by
  have hheld := (isCurrent_iff.1 hg).1
  rw [Governs, Multiset.filter_cons_of_pos (p := fun g => p.isCurrent g = true) _ hg, Multiset.card_cons, hheld] at h
  have hnone : (G.filter fun g => p.isCurrent g = true) = 0 := Multiset.card_eq_zero.1 (by simpa using h)
  simpa using Multiset.filter_eq_nil.1 hnone g' hg'

end Permit

namespace System

variable {config : Config} {s s' : System} {moves : List Move} {a : Action} {sig : Option Signal} {t : ThreadId}
  {frame : Frame} {rest : List Frame} {w : WriteId} {write : Write} {flight : Flight}

/-- The generations do not begin again, or no guard outlives its grant, since the connection is never recycled. -/
def KeepsCount (moves : List Move) : Prop :=
  renewals moves < 2 ^ 64 ∨ ∀ m ∈ moves, ∀ t, m.action ≠ .call t .recycle

theorem KeepsCount.left {earlier later : List Move} (h : KeepsCount (earlier ++ later)) : KeepsCount earlier := by
  refine h.imp (fun hfew => ?_) fun hkept m hm => hkept m (List.mem_append_left _ hm)
  simp only [renewals, List.map_append, List.sum_append] at hfew
  exact (Nat.le_add_right _ _).trans_lt hfew

theorem governs_run (run : Run (fresh config) moves s) (hk : KeepsCount moves) :
    s.conn.permit.Governs (s.tally .guards) :=
  hk.elim (fun hfew => Permit.card_current (accounted_run run hfew))
    fun hkept => Permit.governs_of_sole (sole_run run hkept)

/-! ### Chains in flight -/

/-- The writes of chains whose end will count. -/
def chains (s : System) : Multiset Job :=
  (s.tally .jobs).filter fun job => s.conn.permit.isCurrent job.flight.guard = true

theorem chains_congr (hpermit : s'.conn.permit = s.conn.permit) (hjobs : s'.tally .jobs = s.tally .jobs) :
    s'.chains = s.chains := by
  rw [chains, chains, hpermit, hjobs]

/-- The permit is held by one frame that is about to go on, by one chain in flight, or by nobody. -/
def Manned (s : System) : Prop :=
  (s.tally .waiters).card + s.chains.card = if s.conn.permit.held then 1 else 0

theorem manned_of_attended (hgov : s.conn.permit.Governs (s.tally .guards)) (hat : s.Attended) : s.Manned := by
  have hwaiters : ((s.tally .waiters).filter fun g => s.conn.permit.isCurrent g = true) = s.tally .waiters := by
    rw [Multiset.filter_eq_self]
    rcases hat with hnone | ⟨g, hone, hg⟩
    · simp [hnone]
    · simpa [hone] using hg
  have hchains : (((s.tally .jobs).map fun job => job.flight.guard).filter
      fun g => s.conn.permit.isCurrent g = true).card = s.chains.card := by
    rw [Multiset.filter_map, Multiset.card_map]
    rfl
  rwa [Permit.Governs, guards_eq_waiters_add_jobs, Multiset.filter_add, Multiset.card_add, hwaiters, hchains] at hgov

namespace Manned

theorem chains_of_free (h : s.Manned) (hfree : s.conn.permit.held = false) : s.chains = 0 := by
  unfold Manned at h
  rw [hfree] at h
  exact Multiset.card_eq_zero.1 (by simp at h; simp [h])

theorem card_le (h : s.Manned) : (s.tally .waiters).card + s.chains.card ≤ 1 := by
  rw [h]
  split <;> simp

/-- While a frame has the permit no chain is in flight. -/
theorem chains_of_waiter (h : s.Manned) {g : Guard} (hg : g ∈ s.tally .waiters) : s.chains = 0 := by
  have hle := h.card_le
  have hpos := Multiset.card_pos_iff_exists_mem.2 ⟨g, hg⟩
  exact Multiset.card_eq_zero.1 (by omega)

theorem chains_of_top (h : s.Manned) (hst : (s.thread t).stack = frame :: rest) {g : Guard}
    (hg : g ∈ frame.holders) : s.chains = 0 := by
  refine h.chains_of_waiter (g := g) ?_
  rw [tally_pop _ hst]
  exact Multiset.mem_add.2 (.inl hg)

/-- A chain in flight is alone, and no frame has the permit. -/
theorem chains_of_mem (h : s.Manned) {job : Job} (hj : job ∈ s.chains) :
    s.chains = {job} ∧ s.tally .waiters = 0 := by
  have hle := h.card_le
  have hpos := Multiset.card_pos_iff_exists_mem.2 ⟨job, hj⟩
  obtain ⟨job', heq⟩ := Multiset.card_eq_one.1 (show s.chains.card = 1 by omega)
  rw [heq, Multiset.mem_singleton] at hj
  subst hj
  exact ⟨heq, Multiset.card_eq_zero.1 (by omega)⟩

end Manned

/-- No frame has the permit in hand. -/
def HandsFree (s : System) : Prop := s.collect .waiters = []

instance (s : System) : Decidable s.HandsFree := inferInstanceAs (Decidable (_ = []))

/-- The connection is recycled only while no frame has the permit in hand. -/
def Move.RecyclesFree (m : Move) : Prop :=
  match m.action with
  | .call _ .recycle => m.before.HandsFree
  | _ => True

instance : DecidablePred Move.RecyclesFree
  | ⟨_, .call _ .recycle, _, _⟩ => inferInstanceAs (Decidable (HandsFree _))
  | ⟨_, .call _ (.add _ _), _, _⟩ | ⟨_, .call _ (.flush _), _, _⟩ | ⟨_, .call _ .registerInterest, _, _⟩
  | ⟨_, .call _ .reset, _, _⟩ | ⟨_, .run _, _, _⟩ | ⟨_, .expire _, _, _⟩ | ⟨_, .resume _, _, _⟩
  | ⟨_, .complete _ _ _, _, _⟩ | ⟨_, .abandon _, _, _⟩ | ⟨_, .transportPending _, _, _⟩ =>
    inferInstanceAs (Decidable True)

theorem HandsFree.waiters (h : s.HandsFree) : s.tally .waiters = 0 := congrArg _ h

theorem mem_jobs_of_outstanding (hw : s.outstanding.find? w = some (.chain write flight)) :
    ⟨write, flight⟩ ∈ s.tally .jobs := by
  rw [tally_endWrite _ hw]
  exact Multiset.mem_add.2 (.inl (List.mem_singleton_self _))

theorem mem_chains_of_outstanding (hw : s.outstanding.find? w = some (.chain write flight))
    (hcurrent : s.conn.permit.isCurrent flight.guard = true) : ⟨write, flight⟩ ∈ s.chains :=
  Multiset.mem_filter.2 ⟨mem_jobs_of_outstanding hw, hcurrent⟩

/-- The end of a write that does not count leaves the chain in flight as it is. -/
theorem chains_endWrite (hw : s.outstanding.find? w = some (.chain write flight))
    (hstale : s.conn.permit.isCurrent flight.guard = false) : (s.endWrite w).chains = s.chains := by
  have hjobs : s.tally .jobs = ⟨write, flight⟩ ::ₘ (s.endWrite w).tally .jobs := tally_endWrite _ hw
  rw [chains, chains, hjobs, Multiset.filter_cons_of_neg _ (by simpa using hstale)]
  rfl

theorem attended_tenure_run (run : Run (fresh config) moves s) (hk : KeepsCount moves)
    (hfree : ∀ m ∈ moves, m.RecyclesFree) : s.Attended := by
  induction run with
  | nil => exact .inl rfl
  | @snoc moves s a s' sig run h ih =>
    simp only [List.forall_mem_append, List.forall_mem_singleton] at hfree
    have hat := ih hk.left hfree.1
    have hman := manned_of_attended (governs_run run hk.left) hat
    refine attended_kept (numbered_run run) hat (step_perform h) ?_ fun w write flight hw _ hcurrent => ?_
    · rintro t rfl
      exact HandsFree.waiters hfree.2
    · exact (hman.chains_of_mem (mem_chains_of_outstanding hw hcurrent)).2

theorem manned_run (run : Run (fresh config) moves s) (hk : KeepsCount moves)
    (hfree : ∀ m ∈ moves, m.RecyclesFree) : s.Manned :=
  manned_of_attended (governs_run run hk) (attended_tenure_run run hk hfree)

end System

end Outflow
