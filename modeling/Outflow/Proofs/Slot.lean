import Mathlib.Data.List.DropRight
import Outflow.Proofs.Exclusion
import Outflow.Trial.Permit

/-! The permit as a single slot, whatever was granted, reset and dropped before, and in whichever order. -/
namespace Outflow.Trial.Permit

/-- What became of a step. Guards are known by their numbers. -/
inductive Event
  | granted (guard : Nat)
  | refused
  | reset
  | dropped (guard : Nat)
  deriving DecidableEq

/-- An attempt, a reset or the drop of a guard that is there, by its result. -/
def Step.event? : Step → Result → Option Event
  | .try, .granted k _ => some (.granted k)
  | .try, _ => some .refused
  | .reset, _ => some .reset
  | .drop k, .flag true => some (.dropped k)
  | _, _ => none

/-- The events since a new permit, the first one first, and where they led. -/
inductive History : List Event → State → Prop
  | start : History [] {}
  | snoc {log s a e} (h : History log s) (he : a.event? (s.perform a).1 = some e) :
      History (log ++ [e]) (s.perform a).2

/-- The guard is still there, and is current. -/
def State.Current (s : State) (k : Nat) : Prop := ∃ g, s.peek k = some g ∧ s.permit.isCurrent g = true

/-- The guard was granted and not dropped. -/
def Alive (k : Nat) (log : List Event) : Prop := .granted k ∈ log ∧ .dropped k ∉ log

/-- The events after the grant of a guard. -/
def since (k : Nat) (log : List Event) : List Event := log.rtakeWhile fun e => decide (e ≠ .granted k)

/-- Grants and resets. -/
def renewals (log : List Event) : Nat :=
  log.countP fun
    | .granted _ | .reset => true
    | .refused | .dropped _ => false

/-- At no time a guard has outlived more generations than can be told apart. -/
def ShortLived (log : List Event) : Prop :=
  ∀ earlier, earlier <+: log → ∀ k, Alive k earlier → renewals (since k earlier) < 2 ^ 64

/-! ### One event -/

/-- What an event says about the state before it and the one after it. -/
inductive Turned (s : State) : Event → State → Prop
  | granted (hfree : s.permit.held = false) :
      Turned s (.granted s.guards.length) ⟨s.permit.grant, s.guards ++ [some s.permit.nextGuard]⟩
  | refused (hheld : s.permit.held = true) : Turned s .refused s
  | reset : Turned s .reset { s with permit := s.permit.reset }
  | dropped {k g} (hk : s.peek k = some g) : Turned s (.dropped k) ⟨s.permit.release g, s.guards.set k none⟩

variable {log : List Event} {s s' : State} {e : Event} {j k : Nat} {g : Guard}

theorem perform_try (s : State) : s.perform .try =
    if s.permit.held then (.nothing, s)
    else (.granted s.guards.length s.permit.nextGuard, ⟨s.permit.grant, s.guards ++ [some s.permit.nextGuard]⟩) := by
  cases hheld : s.permit.held <;>
    simp [State.perform, State.grant, Outflow.Permit.tryAcquire, hheld, State.numberIfGranted, State.number]

theorem perform_drop (hk : s.peek k = some g) :
    s.perform (.drop k) = (.flag true, ⟨s.permit.release g, s.guards.set k none⟩) := by
  simp [State.perform, hk]

theorem turned_perform {step : Step} (he : step.event? (s.perform step).1 = some e) :
    Turned s e (s.perform step).2 := by
  cases step with
  | «try» =>
    rw [perform_try] at he ⊢
    cases hheld : s.permit.held with
    | false =>
      simp only [hheld, Bool.false_eq_true, if_false, Step.event?, Option.some.injEq] at he
      subst he
      exact .granted hheld
    | true =>
      simp only [hheld, if_true, Step.event?, Option.some.injEq] at he
      subst he
      exact .refused hheld
  | reset =>
    simp only [State.perform, Step.event?, Option.some.injEq] at he ⊢
    subst he
    exact .reset
  | drop k =>
    cases hk : s.peek k with
    | none => simp [State.perform, hk, Step.event?] at he
    | some g =>
      rw [perform_drop hk] at he ⊢
      simp only [Step.event?, Option.some.injEq] at he
      subst he
      exact .dropped hk
  | acquire wait during | current k | unknown => simp [Step.event?] at he

/-- Each attempt, each reset and each drop of a guard that is still there is an event. -/
theorem isSome_event?_iff {step : Step} : (step.event? (s.perform step).1).isSome = true ↔
    step = .try ∨ step = .reset ∨ ∃ k g, step = .drop k ∧ s.peek k = some g := by
  cases step with
  | «try» =>
    rw [perform_try]
    cases s.permit.held <;> simp [Step.event?]
  | reset => simp [Step.event?]
  | drop k => cases hk : s.peek k <;> simp [State.perform, hk, Step.event?]
  | acquire wait during | current k | unknown => simp [Step.event?]

theorem peek_append_singleton (g : Guard) :
    State.peek ⟨s.permit, s.guards ++ [some g]⟩ k = if k = s.guards.length then some g else s.peek k := by
  simp only [State.peek, List.getElem?_append, List.getElem?_singleton]
  grind

theorem peek_set_none (p : Outflow.Permit) :
    State.peek ⟨p, s.guards.set k none⟩ j = if j = k then none else s.peek j := by
  simp only [State.peek, List.getElem?_set]
  grind

/-! ### The events after a grant -/

theorem since_concat (k : Nat) (log : List Event) (e : Event) :
    since k (log ++ [e]) = if e = .granted k then [] else since k log ++ [e] := by
  simp [since, List.rtakeWhile_concat]

theorem renewals_concat (log : List Event) (e : Event) : renewals (log ++ [e]) = renewals log + renewals [e] := by
  simp [renewals]

theorem renewals_eq_zero : renewals log = 0 ↔ (∀ j, .granted j ∉ log) ∧ .reset ∉ log := by
  simp only [renewals, List.countP_eq_zero]
  constructor
  · intro h
    exact ⟨fun j hj => h _ hj rfl, fun hr => h _ hr rfl⟩
  · rintro ⟨hgranted, hreset⟩ (j | _ | _ | j) he
    · exact absurd he (hgranted j)
    · simp
    · exact absurd he hreset
    · simp

/-- Only one guard can be the last one granted. -/
theorem eq_of_renewals_eq_zero (hj : .granted j ∈ log) (hk : .granted k ∈ log) (hj0 : renewals (since j log) = 0)
    (hk0 : renewals (since k log) = 0) : j = k := by
  induction log using List.reverseRecOn with
  | nil => simp at hj
  | append_singleton log e ih =>
    have hlast {i} (hi0 : renewals (since i (log ++ [e])) = 0) :
        e = .granted i ∨ renewals (since i log) = 0 ∧ renewals [e] = 0 := by
      rw [since_concat] at hi0
      split at hi0
      · next he => exact .inl he
      · rw [renewals_concat] at hi0
        exact .inr (by omega)
    rcases hlast hj0 with rfl | ⟨hj0, he⟩
    · rcases hlast hk0 with hek | ⟨-, he⟩
      · exact Event.granted.inj hek
      · simp [renewals] at he
    · rcases hlast hk0 with rfl | ⟨hk0, -⟩
      · simp [renewals] at he
      · have hmem {i} (hi : Event.granted i ∈ log ++ [e]) : .granted i ∈ log := by
          rcases List.mem_append.1 hi with hi | hi
          · exact hi
          · obtain rfl := List.mem_singleton.1 hi
            simp [renewals] at he
        exact ih (hmem hj) (hmem hk) hj0 hk0

theorem shortLived_of_prefix {earlier : List Event} (h : ShortLived log) (hle : earlier <+: log) :
    ShortLived earlier := fun _ hle' => h _ (hle'.trans hle)

theorem shortLived_of_length (h : log.length < 2 ^ 64) : ShortLived log := by
  intro earlier hle k _
  have hsince : (since k earlier).length ≤ earlier.length := (List.rtakeWhile_suffix _ _).length_le
  have hcount : renewals (since k earlier) ≤ (since k earlier).length := List.countP_le_length
  have hlength := hle.length_le
  omega

/-! ### Every history -/

/-- The generation of a guard that is alive is as many generations behind that of the permit as there were grants and
resets since its own, and the permit is held while there were none. -/
structure Slotted (log : List Event) (s : State) : Prop where
  alive : ∀ k, (∃ g, s.peek k = some g) ↔ Alive k log
  unborn : ∀ k, s.guards.length ≤ k → .granted k ∉ log ∧ .dropped k ∉ log
  behind : ∀ k g, s.peek k = some g → g.generation + UInt64.ofNat (renewals (since k log)) = s.permit.generation
  held : s.permit.held = true ↔ ∃ k, Alive k log ∧ renewals (since k log) = 0

/-- A guard that is alive is current exactly if nothing was granted or reset since. -/
theorem Slotted.isCurrent_iff (h : Slotted log s) (hk : s.peek k = some g) (hfew : renewals (since k log) < 2 ^ 64) :
    s.permit.isCurrent g = true ↔ renewals (since k log) = 0 := by
  rw [Outflow.Permit.isCurrent_iff]
  have hbehind := h.behind k g hk
  constructor
  · rintro ⟨-, hgen⟩
    have hnat := congrArg UInt64.toNat (hbehind.trans hgen)
    rw [UInt64.toNat_add, UInt64.toNat_ofNat'] at hnat
    have := g.generation.toNat_lt
    omega
  · intro hzero
    refine ⟨h.held.2 ⟨k, (h.alive k).1 ⟨g, hk⟩, hzero⟩, ?_⟩
    rw [← hbehind, hzero]
    simp

theorem ofNat_renewals_concat (x : UInt64) (log : List Event) (e : Event) :
    x + UInt64.ofNat (renewals (log ++ [e])) = x + UInt64.ofNat (renewals log) + UInt64.ofNat (renewals [e]) := by
  rw [renewals_concat, UInt64.ofNat_add, UInt64.add_assoc]

theorem slotted_granted (h : Slotted log s) :
    Slotted (log ++ [.granted s.guards.length]) ⟨s.permit.grant, s.guards ++ [some s.permit.nextGuard]⟩ := by
  have hnew := h.unborn _ (Nat.le_refl _)
  have hpeek (k : Nat) : State.peek ⟨s.permit.grant, s.guards ++ [some s.permit.nextGuard]⟩ k
      = if k = s.guards.length then some s.permit.nextGuard else s.peek k := peek_append_singleton _
  refine ⟨fun k => ?_, fun k hk => ?_, fun k g hk => ?_, ?_⟩
  · rw [hpeek]
    split
    · next heq => simp [Alive, heq, hnew.2]
    · next hne => simp [h.alive k, Alive, hne]
  · have hold := h.unborn k (by simp at hk; omega)
    have hne : k ≠ s.guards.length := by simp at hk; omega
    simp [hold, hne]
  · rw [hpeek] at hk
    split at hk
    · next heq =>
      obtain rfl := Option.some.inj hk
      simp [since_concat, heq, renewals, Outflow.Permit.grant, Outflow.Permit.nextGuard]
    · next hne =>
      rw [since_concat, if_neg (by simpa using Ne.symm hne), ofNat_renewals_concat, h.behind k g hk]
      rfl
  · simp only [Outflow.Permit.grant, true_iff]
    exact ⟨s.guards.length, by simp [Alive, hnew.2], by simp [since_concat, renewals]⟩

theorem slotted_reset (h : Slotted log s) : Slotted (log ++ [.reset]) { s with permit := s.permit.reset } := by
  have hsince (k : Nat) : since k (log ++ [.reset]) = since k log ++ [.reset] := by simp [since_concat]
  refine ⟨fun k => (h.alive k).trans ?_, fun k hk => ?_, fun k g hk => ?_, ?_⟩
  · simp [Alive]
  · simpa using h.unborn k hk
  · rw [hsince, ofNat_renewals_concat, h.behind k g hk]
    rfl
  · simp [hsince, Outflow.Permit.reset, renewals]

theorem slotted_refused (h : Slotted log s) : Slotted (log ++ [.refused]) s := by
  have hsince (k : Nat) : renewals (since k (log ++ [.refused])) = renewals (since k log) := by
    simp [since_concat, renewals]
  refine ⟨fun k => (h.alive k).trans ?_, fun k hk => ?_, fun k g hk => ?_, ?_⟩
  · simp [Alive]
  · simpa using h.unborn k hk
  · rw [hsince, h.behind k g hk]
  · simpa [hsince, Alive] using h.held

theorem slotted_dropped (h : Slotted log s) (hk : s.peek k = some g) (hfew : renewals (since k log) < 2 ^ 64) :
    Slotted (log ++ [.dropped k]) ⟨s.permit.release g, s.guards.set k none⟩ := by
  have hpeek (j : Nat) : State.peek ⟨s.permit.release g, s.guards.set k none⟩ j
      = if j = k then none else s.peek j := peek_set_none _
  have hsince (j : Nat) : renewals (since j (log ++ [.dropped k])) = renewals (since j log) := by
    simp [since_concat, renewals]
  have halive (j : Nat) : Alive j (log ++ [.dropped k]) ↔ j ≠ k ∧ Alive j log := by
    simp [Alive]
    tauto
  have hkalive := (h.alive k).1 ⟨g, hk⟩
  have hcurrent := h.isCurrent_iff hk hfew
  refine ⟨fun j => ?_, fun j hj => ?_, fun j g' hj => ?_, ?_⟩
  · rw [hpeek, halive, ← h.alive]
    grind
  · have hold := h.unborn j (by simpa using hj)
    have hne : j ≠ k := by
      rintro rfl
      exact hold.1 hkalive.1
    simp [hold, hne]
  · rw [hpeek] at hj
    have hj : s.peek j = some g' := by grind
    rw [hsince, h.behind j g' hj, Outflow.Permit.generation_release]
  · simp only [hsince, halive]
    cases hc : s.permit.isCurrent g with
    | true =>
      have hzero := hcurrent.1 hc
      simp only [Outflow.Permit.release, hc, if_true, Bool.false_eq_true, false_iff, not_exists]
      rintro j ⟨⟨hne, hj⟩, hjzero⟩
      exact hne (eq_of_renewals_eq_zero hj.1 hkalive.1 hjzero hzero)
    | false =>
      have hpos : renewals (since k log) ≠ 0 := by simpa [hc] using hcurrent
      simp only [Outflow.Permit.release, hc, Bool.false_eq_true, if_false, h.held]
      constructor
      · rintro ⟨j, hj, hjzero⟩
        exact ⟨j, ⟨fun heq => hpos (heq ▸ hjzero), hj⟩, hjzero⟩
      · rintro ⟨j, ⟨-, hj⟩, hjzero⟩
        exact ⟨j, hj, hjzero⟩

theorem slotted_turned (h : Slotted log s) (hfew : ∀ k, Alive k log → renewals (since k log) < 2 ^ 64)
    (hturn : Turned s e s') : Slotted (log ++ [e]) s' := by
  cases hturn with
  | granted hfree => exact slotted_granted h
  | refused hheld => exact slotted_refused h
  | reset => exact slotted_reset h
  | dropped hk => exact slotted_dropped h hk (hfew _ ((h.alive _).1 ⟨_, hk⟩))

theorem slotted_history (h : History log s) (hfew : ShortLived log) : Slotted log s := by
  induction h with
  | start => constructor <;> simp [State.peek, Alive]
  | @snoc log s a e h he ih =>
    have hfew' := shortLived_of_prefix hfew (List.prefix_append _ _)
    exact slotted_turned (ih hfew') (hfew' _ (List.prefix_refl _)) (turned_perform he)

/-- The permit has one slot. At most one guard is current, and the permit is held exactly if one is: the guard that was
granted last, unless it was dropped or the permit was reset. An attempt succeeds exactly if there is none, and the drop
of another guard changes nothing else. -/
theorem single_slot (h : History log s) (hfew : ShortLived log) :
    (∀ j k, s.Current j → s.Current k → j = k) ∧
    (s.permit.held = true ↔ ∃ k, s.Current k) ∧
    (∀ k, s.Current k ↔ .granted k ∈ log ∧ (∀ j, .granted j ∉ since k log) ∧ .dropped k ∉ log ∧
      .reset ∉ since k log) ∧
    ((∃ k g, (s.perform .try).1 = .granted k g) ↔ ¬∃ k, s.Current k) ∧
    (∀ k g, s.peek k = some g → ¬s.Current k →
      (s.perform (.drop k)).2 = { s with guards := s.guards.set k none }) := by
  have hslot := slotted_history h hfew
  have hcur (k : Nat) : s.Current k ↔ Alive k log ∧ renewals (since k log) = 0 := by
    constructor
    · rintro ⟨g, hk, hc⟩
      have halive := (hslot.alive k).1 ⟨g, hk⟩
      exact ⟨halive, (hslot.isCurrent_iff hk (hfew _ (List.prefix_refl _) k halive)).1 hc⟩
    · rintro ⟨halive, hzero⟩
      obtain ⟨g, hk⟩ := (hslot.alive k).2 halive
      exact ⟨g, hk, (hslot.isCurrent_iff hk (by omega)).2 hzero⟩
  have hheld : s.permit.held = true ↔ ∃ k, s.Current k := by simpa only [hcur] using hslot.held
  refine ⟨fun j k hj hk => ?_, hheld, fun k => ?_, ?_, fun k g hk hstale => ?_⟩
  · rw [hcur] at hj hk
    exact eq_of_renewals_eq_zero hj.1.1 hk.1.1 hj.2 hk.2
  · rw [hcur, renewals_eq_zero, Alive]
    tauto
  · rw [← hheld, perform_try]
    cases s.permit.held <;> simp
  · have hnot : s.permit.isCurrent g = false := by
      by_contra hc
      exact hstale ⟨g, hk, by simpa using hc⟩
    rw [perform_drop hk, Outflow.Permit.release, hnot]
    rfl

/-- Two guards are stale after resets. One of them is dropped, and the third guard is still the current one. -/
theorem single_slot_stale_dropped : ∃ log s,
    log = [.granted 0, .reset, .granted 1, .reset, .granted 2, .dropped 0, .refused] ∧ History log s ∧
    ShortLived log ∧ s.permit.held = true ∧ (∀ k, s.Current k → k = 2) ∧ ¬s.Current 1 ∧
    ¬∃ k g, (s.perform .try).1 = .granted k g := by
  have h : History [.granted 0, .reset, .granted 1, .reset, .granted 2, .dropped 0, .refused]
      ⟨{ held := true, generation := 5 }, [none, some ⟨3⟩, some ⟨5⟩]⟩ :=
    ((((((History.start.snoc (a := .try) rfl).snoc (a := .reset) rfl).snoc (a := .try) rfl).snoc
      (a := .reset) rfl).snoc (a := .try) rfl).snoc (a := .drop 0) rfl).snoc (a := .try) rfl
  have hfew : ShortLived [.granted 0, .reset, .granted 1, .reset, .granted 2, .dropped 0, .refused] :=
    shortLived_of_length (by decide)
  obtain ⟨hone, hheld, hlast, htry, -⟩ := single_slot h hfew
  have hsince : since 2 [.granted 0, .reset, .granted 1, .reset, .granted 2, .dropped 0, .refused]
      = [.dropped 0, .refused] := by decide +kernel
  have htwo := (hlast 2).2 ⟨by decide, by simp [hsince], by decide, by simp [hsince]⟩
  refine ⟨_, _, rfl, h, hfew, hheld.2 ⟨2, htwo⟩, fun k hk => hone k 2 hk htwo, fun h1 => ?_, fun hgrant => ?_⟩
  · exact absurd (hone 1 2 h1 htwo) (by decide)
  · exact htry.1 hgrant ⟨2, htwo⟩

end Outflow.Trial.Permit
