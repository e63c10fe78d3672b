import Outflow.Proofs.Run

/-! Who may write: the guards in circulation, and what each step does to them and to the permit. -/
namespace Outflow

/-- The guards that a frame holds, alone or with a write that it carries. -/
def Frame.guards : Frame → List Guard
  | carrying job => [job.flight.guard]
  | starting _ g | admitted _ g | refusing _ g | yielding _ g => [g]
  | _ => []

/-- The writes of chains that are at the transport or wait in the queue of a thread. -/
@[simps]
def Tally.writes : Tally Job where
  ofFrame _ := []
  ofJob job := [job]
  ofTrip _ := []

@[simps]
def Tally.frames : Tally Frame where
  ofFrame f := [f]
  ofJob _ := []
  ofTrip _ := []

/-- The guards that are on their way with a frame. -/
@[simps]
def Tally.holders : Tally Guard where
  ofFrame := Frame.guards
  ofJob _ := []
  ofTrip _ := []

@[simps]
def Tally.guards : Tally Guard where
  ofFrame := Frame.guards
  ofJob job := [job.flight.guard]
  ofTrip _ := []

/-- What one step does to the permit and the guards in circulation. -/
inductive Traded (a : Action) (p : Permit) (G : Multiset Guard) (p' : Permit) (G' : Multiset Guard) : Prop
  | kept (hp : p' = p) (hG : G' = G)
  | granted (hfree : p.held = false) (hp : p' = p.grant) (hG : G' = p.nextGuard ::ₘ G)
  | dropped (g : Guard) (hp : p' = p.release g) (hG : G = g ::ₘ G')
  | probed (hfree : p.held = false) (hp : p' = p.grant.release p.nextGuard) (hG : G' = G)
  | reset (t : ThreadId) (ha : a = .call t .recycle) (hp : p' = p.reset) (hG : G' = G)

namespace System

variable {s s' : System} {a : Action} {sig : Option Signal}

theorem traded_step (hnum : s.Numbered) (h : Step s a s' sig) :
    Traded a s.conn.permit (s.tally .guards) s'.conn.permit (s'.tally .guards) := by
  have hfresh := hnum.outstanding _ (Nat.le_refl _)
  have hchain {w write flight} (hw : s.outstanding.find? w = some (.chain write flight)) :
      s.tally .guards = flight.guard ::ₘ (s.endWrite w).tally .guards := tally_endWrite _ hw
  cases h with
  | addGranted hout hsrc herr hfree => exact .granted hfree rfl (by simp [tally_push, Frame.guards])
  | flushBegun hout herr hfree htake => exact .granted hfree rfl (by simp [tally_begin, Frame.guards])
  | roomMade hst hfree => exact .granted hfree rfl (by simp [tally_pop _ hst, tally_replace, Frame.guards])
  | chainAwaited hst hfree => exact .granted hfree rfl (by simp [tally_pop _ hst, tally_replace, Frame.guards])
  | flushNothing hout herr hfree htake => exact .probed hfree rfl rfl
  | @recycle t hout => exact .reset t rfl rfl rfl
  | addQueued hout hsrc herr hheld hroom => exact .kept (by simp [Connection.queue?_eq_ok hroom]) rfl
  | @startedNothing _ _ _ g hst htake => exact .dropped g rfl (tally_pop _ hst)
  | @refused _ _ _ g hst => exact .dropped g rfl (tally_pop _ hst)
  | @yielded _ _ _ g hst =>
    exact .dropped g rfl (by simp [tally_pop _ hst, tally_replace, Frame.guards])
  | @chainStale _ _ _ _ flight hout hw hset => exact .dropped flight.guard hset.permit (hchain hw)
  | @chainQuiet _ _ _ _ flight _ hout hw hset => exact .dropped flight.guard hset.permit (hchain hw)
  | @chainTold _ _ _ _ flight _ hout hw hset =>
    exact .dropped flight.guard hset.permit (by simp [hchain hw, tally_push, Frame.guards])
  | @chainGoesOn _ _ _ _ flight _ _ hout hw hset =>
    exact .kept hset.permit (by simp [hchain hw, tally_push, Frame.guards])
  | @chainFailed _ _ _ _ flight _ _ hout hw hset =>
    exact .dropped flight.guard hset.permit (by simp [hchain hw, tally_push, Frame.guards])
  | @chainForgotten _ _ flight hw => exact .dropped flight.guard rfl (hchain hw)
  | driven hst hd => exact .kept rfl (by simp [tally_driven _ hfresh hst hd, Frame.guards])
  | carried hst hd => exact .kept rfl (by simp [tally_carried _ hfresh hd, tally_pop _ hst, Frame.guards])
  | deferred hst hd => exact .kept rfl (by simp [tally_deferred _ hd, tally_pop _ hst, Frame.guards])
  | driveDone hst hd => exact .kept rfl (by simp [tally_driveDone _ hd, tally_pop _ hst, Frame.guards])
  | tripBegun hst hbuf => exact .kept rfl (by simp [tally_trip _ hfresh, tally_pop _ hst, Frame.guards])
  | started hst htake => exact .kept rfl (by simp [tally_begin, tally_pop _ hst, Frame.guards])
  | strayEnded hout hw | tripEnded hout hw | strayForgotten hw | tripForgotten hw =>
    exact .kept rfl (by simp [tally_endWrite _ hw])
  | addBlocking _ _ _ | addFull _ _ _ _ _ | flushAwaits _ _ _ | flushCollects _ _ _ | registeredFree _ _ =>
    exact .kept rfl (by simp [tally_push, Frame.guards])
  | answered hst | issued hst | addDone hst _ | collectedLate hst _ | sweptFlush hst _ _ _ | tripDropped hst _
  | tripFailed hst _ _ | roomExpired hst _ | tripExpired hst _ | transportReturned hst | notified hst =>
    exact .kept rfl (by simp [tally_pop _ hst, Frame.guards])
  | absorbed hst _ _ | filledBehind hst _ _ _ | filled hst _ _ _ | admittedLate hst _ | admitted hst _ | collected hst _
  | sweptChunk hst _ | sweptPrimary hst _ _ | sweptAdd hst _ _ _ | tripsDone hst _ | tripDone hst _ _
  | chainExpired hst _ | attached hst | told hst | toldFailure hst =>
    exact .kept rfl (by simp [tally_pop _ hst, tally_replace, Frame.guards])
  | addNothing _ _ | addRefused _ _ _ | flushRefused _ _ | flushHeld _ _ _ | registered _ _ | reset _
  | transportPending => exact .kept rfl rfl

end System

namespace Permit

variable {p p' : Permit} {g g' : Guard} {G G' : Multiset Guard} {a : Action} {n : Nat}

theorem isCurrent_iff : p.isCurrent g = true ↔ p.held = true ∧ p.generation = g.generation := by
  simp [isCurrent]

theorem generation_add_one_ne (x : UInt64) : x + 1 ≠ x := by
  intro h
  have := congrArg UInt64.toNat h
  simp at this
  omega

/-- Each guard in circulation has a generation of its own that the permit has been through, after `n` grants and
resets altogether, and while the permit is held its present generation is among them. -/
structure Accounted (n : Nat) (p : Permit) (G : Multiset Guard) : Prop where
  age : p.generation.toNat = n
  old : ∀ g ∈ G, g.generation.toNat ≤ n
  nodup : G.Nodup
  holder : p.held = true → ∃ g ∈ G, p.isCurrent g = true

theorem accounted_grant (h : Accounted n p G) (hn : n + 1 < 2 ^ 64) :
    Accounted (n + 1) p.grant (p.nextGuard ::ₘ G) := by
  have hage : (p.generation + 1).toNat = n + 1 := by
    rw [UInt64.toNat_add, h.age]
    exact Nat.mod_eq_of_lt hn
  refine ⟨hage, ?_, ?_, ?_⟩
  · simp only [Multiset.mem_cons, forall_eq_or_imp]
    exact ⟨hage.le, fun g hg => (h.old g hg).trans (Nat.le_succ n)⟩
  · rw [Multiset.nodup_cons]
    refine ⟨fun hg => ?_, h.nodup⟩
    have hle := h.old _ hg
    rw [nextGuard, hage] at hle
    omega
  · intro _
    exact ⟨p.nextGuard, Multiset.mem_cons_self _ _, by simp [isCurrent, grant, nextGuard]⟩

theorem accounted_release (h : Accounted n p (g ::ₘ G)) : Accounted n (p.release g) G := by
  have hnodup := Multiset.nodup_cons.1 h.nodup
  cases hc : p.isCurrent g with
  | true =>
    simp only [release, hc, if_true]
    exact ⟨h.age, fun g' hg => h.old g' (Multiset.mem_cons_of_mem hg), hnodup.2, by simp⟩
  | false =>
    simp only [release, hc, Bool.false_eq_true, if_false]
    refine ⟨h.age, fun g' hg => h.old g' (Multiset.mem_cons_of_mem hg), hnodup.2, fun hheld => ?_⟩
    obtain ⟨g', hg, hg'⟩ := h.holder hheld
    rcases Multiset.mem_cons.1 hg with rfl | hg
    · simp [hc] at hg'
    · exact ⟨g', hg, hg'⟩

theorem accounted_reset (h : Accounted n p G) (hn : n + 1 < 2 ^ 64) : Accounted (n + 1) p.reset G := by
  refine ⟨?_, fun g hg => (h.old g hg).trans (Nat.le_succ n), h.nodup, by simp [reset]⟩
  rw [reset, UInt64.toNat_add, h.age]
  exact Nat.mod_eq_of_lt hn

theorem generation_release (p : Permit) (g : Guard) : (p.release g).generation = p.generation := by
  unfold release
  split <;> rfl

/-- How often a step renews the generation. -/
def renewals (p p' : Permit) : Nat := if p'.generation = p.generation then 0 else 1

theorem accounted_traded (h : Accounted n p G) (ht : Traded a p G p' G') (hn : n + p.renewals p' < 2 ^ 64) :
    Accounted (n + p.renewals p') p' G' := by
  have hgrant : p.renewals p.grant = 1 := if_neg (generation_add_one_ne _)
  cases ht with
  | kept hp hG =>
    subst hp hG
    simpa [renewals] using h
  | granted hfree hp hG =>
    subst hp hG
    rw [hgrant] at hn ⊢
    exact accounted_grant h hn
  | dropped g hp hG =>
    subst hp hG
    simpa [renewals, generation_release] using accounted_release h
  | probed hfree hp hG =>
    have hrenew : p.renewals p' = 1 := by
      rw [hp, renewals, generation_release]
      exact hgrant
    subst hp hG
    rw [hrenew] at hn ⊢
    exact accounted_release (accounted_grant h hn)
  | reset t ha hp hG =>
    have hrenew : p.renewals p.reset = 1 := if_neg (generation_add_one_ne _)
    subst hp hG
    rw [hrenew] at hn ⊢
    exact accounted_reset h hn

/-- At most one guard has a say, and one does while the permit is held. -/
theorem card_current (h : Accounted n p G) :
    (G.filter fun g => p.isCurrent g = true).card = if p.held then 1 else 0 := by
  cases hheld : p.held with
  | false =>
    have : (G.filter fun g => p.isCurrent g = true) = 0 := by
      simp [isCurrent, hheld]
    simp [this]
  | true =>
    obtain ⟨g, hg, hc⟩ := h.holder hheld
    have hiff : ∀ g' ∈ G, p.isCurrent g' = true ↔ g' = g := by
      intro g' _
      rw [isCurrent_iff] at hc ⊢
      cases g
      cases g'
      grind
    rw [Multiset.filter_congr hiff, Multiset.filter_eq', Multiset.count_eq_one_of_mem h.nodup hg]
    rfl

/-- The guard in circulation is that of the holder. -/
def Sole (p : Permit) (G : Multiset Guard) : Prop :=
  G = if p.held then {⟨p.generation⟩} else 0

theorem sole_traded (h : Sole p G) (ht : Traded a p G p' G') (ha : ∀ t, a ≠ .call t .recycle) : Sole p' G' := by
  unfold Sole at h
  cases ht with
  | kept hp hG =>
    subst hp hG
    exact h
  | granted hfree hp hG =>
    subst hp hG
    simp [Sole, grant, nextGuard, h, hfree]
  | dropped g hp hG =>
    rw [hG] at h
    cases hheld : p.held with
    | false => simp [hheld] at h
    | true =>
      simp only [hheld, if_true] at h
      obtain ⟨rfl, rfl⟩ := (Multiset.singleton_eq_cons_iff _).1 h.symm
      simp [hp, Sole, release, isCurrent, hheld]
  | probed hfree hp hG =>
    simp [hp, hG, Sole, h, hfree, release, isCurrent, grant, nextGuard]
  | reset t hr hp hG => exact absurd hr (ha t)

end Permit

namespace System

variable {config : Config} {s : System} {moves : List Move}

def Move.renewals (m : Move) : Nat := m.before.conn.permit.renewals m.after.conn.permit

/-- Grants and resets of the permit. -/
def renewals (moves : List Move) : Nat := (moves.map Move.renewals).sum

/-- The writes of chains that are at the transport. -/
def outstandingWrites (s : System) : List Job := s.outstanding.collect Tally.writes.ofHanded

/-- The writes of chains, at the transport or in the queue of a thread, whose end will count. -/
def currentWrites (s : System) : List Job :=
  (s.collect .writes).filter fun job => s.conn.permit.isCurrent job.flight.guard

theorem accounted_run (run : Run (fresh config) moves s) (hfew : renewals moves < 2 ^ 64) :
    Permit.Accounted (renewals moves) s.conn.permit (s.tally .guards) := by
  induction run with
  | nil => exact ⟨rfl, by simp, by simp, by simp [fresh, Connection.fresh]⟩
  | snoc run h ih =>
    have hsum : ∀ m : Move, ∀ ms, renewals (ms ++ [m]) = renewals ms + m.renewals := by simp [renewals]
    rw [hsum] at hfew ⊢
    have hacc := ih (by omega)
    exact Permit.accounted_traded hacc (traded_step (numbered_run run) (step_perform h)) hfew

theorem sole_run (run : Run (fresh config) moves s) (hkept : ∀ m ∈ moves, ∀ t, m.action ≠ .call t .recycle) :
    Permit.Sole s.conn.permit (s.tally .guards) := by
  induction run with
  | nil => rfl
  | snoc run h ih =>
    simp only [List.forall_mem_append, List.forall_mem_singleton] at hkept
    exact Permit.sole_traded (ih hkept.1) (traded_step (numbered_run run) (step_perform h)) hkept.2

/-- The guards in circulation are those of the frames and those of the writes. -/
theorem tally_guards_eq (s : System) :
    s.tally .guards = s.tally .holders + (s.tally .writes).map fun job => job.flight.guard := by
  rw [← tally_map]
  exact tally_add s (by simp [Tally.map]) (by simp [Tally.map]) (by simp [Tally.map])

theorem tally_guards_of_frames (h : ∀ f ∈ s.collect .frames, f.guards = []) :
    s.tally .guards = (s.tally .writes).map fun job => job.flight.guard := by
  have hnone : s.tally .holders = 0 := by
    refine Multiset.eq_zero_of_forall_notMem fun g hg => ?_
    obtain ⟨t, f, hf, hgf⟩ := (s.mem_tally_iff (fun _ => rfl) fun _ => rfl).1 hg
    have hmem : f ∈ s.tally .frames := (s.mem_tally_iff (fun _ => rfl) fun _ => rfl).2 ⟨t, f, hf, by simp⟩
    simp [h f hmem] at hgf
  rw [tally_guards_eq, hnone, zero_add]

/-- Grants, resets and stale guards never lead to two writers: at most one write has a say, the permit is held
exactly if there is one, as long as nobody is about to issue it or to give the permit back, and unless a connection
is recycled no two writes are at the transport. -/
theorem permit_accounting (run : Run (fresh config) moves s) :
    (renewals moves < 2 ^ 64 →
      s.currentWrites.length ≤ 1 ∧
      ((∀ f ∈ s.collect .frames, f.guards = []) → (s.conn.permit.held = true ↔ s.currentWrites.length = 1))) ∧
    ((∀ m ∈ moves, ∀ t, m.action ≠ .call t .recycle) → s.outstandingWrites.length ≤ 1) := by
  have hcard : s.currentWrites.length = (((s.tally .writes).map fun job => job.flight.guard).filter
      fun g => s.conn.permit.isCurrent g = true).card := by
    rw [Multiset.filter_map, Multiset.card_map]
    simp [currentWrites, tally]
  refine ⟨fun hfew => ?_, fun hkept => ?_⟩
  · have hcur := Permit.card_current (accounted_run run hfew)
    refine ⟨?_, fun hframes => ?_⟩
    · rw [tally_guards_eq, Multiset.filter_add, Multiset.card_add] at hcur
      split at hcur <;> omega
    · rw [tally_guards_of_frames hframes] at hcur
      rw [hcard, hcur]
      cases s.conn.permit.held <;> simp
  · have hsole := congrArg Multiset.card (sole_run run hkept)
    rw [tally_guards_eq, Multiset.card_add, Multiset.card_map, tally_eq_add_census .writes,
      Multiset.card_add] at hsole
    have hle : (if s.conn.permit.held = true then {⟨s.conn.permit.generation⟩} else 0 : Multiset Guard).card ≤ 1 := by
      split <;> simp
    have hcensus : (s.outstanding.census Tally.writes.ofHanded).card = s.outstandingWrites.length := rfl
    omega

/-- A connection is recycled over a write in flight, the transport forgets the write after that, and a third one is
handed over. Of the two at the transport only the last has a say. In the other run nothing is recycled, and the write
after the forgotten one is alone. -/
theorem permit_accounting_recycled : ∃ moves s moves' s', Run (fresh {}) moves s ∧ s.conn.permit.held = true ∧
    s.outstandingWrites.length = 2 ∧ s.currentWrites.length = 1 ∧ Run (fresh {}) moves' s' ∧
    s'.conn.permit.held = true ∧ s'.currentWrites.length = 1 ∧ s'.outstandingWrites.length ≤ 1 := by
  obtain ⟨moves, s, run, hfew, hframes, hheld, htwo⟩ := Run.exists_of_follow (fresh {})
    [.call 0 (.add { bytes := ⟨#[97]⟩ } .nonBlocking), .run 0, .run 0, .resume 0, .run 0, .run 0, .call 0 .recycle,
      .call 0 (.add { bytes := ⟨#[98]⟩ } .nonBlocking), .run 0, .run 0, .abandon 1, .resume 0, .run 0, .run 0,
      .call 0 (.add { bytes := ⟨#[99]⟩ } .nonBlocking), .run 0, .run 0]
    (P := fun moves s => renewals moves < 2 ^ 64 ∧ (∀ f ∈ s.collect .frames, f.guards = []) ∧
      s.conn.permit.held = true ∧ s.outstandingWrites.length = 2) (by decide +kernel)
  obtain ⟨moves', s', run', hfew', hframes', hheld', hkept⟩ := Run.exists_of_follow (fresh {})
    [.call 0 (.add { bytes := ⟨#[97]⟩ } .nonBlocking), .run 0, .run 0, .abandon 0, .resume 0, .run 0, .run 0,
      .call 0 (.add { bytes := ⟨#[98]⟩ } .nonBlocking), .run 0, .run 0]
    (P := fun moves s => renewals moves < 2 ^ 64 ∧ (∀ f ∈ s.collect .frames, f.guards = []) ∧
      s.conn.permit.held = true ∧ (moves.all fun m => match m.action with
        | .call _ .recycle => false
        | _ => true) = true) (by decide +kernel)
  have haccount := (permit_accounting run).1 hfew
  obtain ⟨hcurrent, halone⟩ := permit_accounting run'
  refine ⟨moves, s, moves', s', run, hheld, htwo, (haccount.2 hframes).1 hheld, run', hheld',
    ((hcurrent hfew').2 hframes').1 hheld', halone fun m hm t ha => ?_⟩
  simpa [ha] using List.all_eq_true.1 hkept m hm

end System

end Outflow
