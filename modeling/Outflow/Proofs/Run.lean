import Outflow.Proofs.Census

/-! Runs, step by step, and what every run keeps to. -/
namespace Outflow

def Action.thread : Action → Option ThreadId
  | call t _ | run t | expire t | resume t | complete t _ _ => some t
  | abandon _ | transportPending _ => none

namespace System

/-- One step that was done, with what was around it. -/
structure Move where
  before : System
  action : Action
  after : System
  signal : Option Signal

/-- The moves from `start` to a state, the first one first. -/
inductive Run (start : System) : List Move → System → Prop
  | nil : Run start [] start
  | snoc {moves s a s' sig} (run : Run start moves s) (h : s.perform a = some (s', sig)) :
      Run start (moves ++ [⟨s, a, s', sig⟩]) s'

variable {start s s' : System} {moves : List Move} {a : Action} {sig : Option Signal}

/-- What holds at the start and is kept by the allowed moves holds in every state of a run of such moves. -/
theorem Run.invariant {P : System → Prop} (run : Run start moves s) (allowed : Move → Prop) (hstart : P start)
    (hstep : ∀ s a s' sig, Step s a s' sig → allowed ⟨s, a, s', sig⟩ → P s → P s')
    (hall : ∀ m ∈ moves, allowed m) : P s := by
  induction run with
  | nil => exact hstart
  | snoc run h ih =>
    simp only [List.forall_mem_append, List.forall_mem_singleton] at hall
    exact hstep _ _ _ _ (step_perform h) hall.2 (ih hall.1)

/-- Does the actions one after another, if each can be done. -/
def follow (s : System) : List Action → Option (List Move × System)
  | [] => some ([], s)
  | a :: rest => do
    let (s', sig) ← s.perform a
    let (moves, last) ← s'.follow rest
    return (⟨s, a, s', sig⟩ :: moves, last)

theorem Run.cons {first : Move} (h : start.perform first.action = some (first.after, first.signal))
    (hfirst : first.before = start) (run : Run first.after moves s) : Run start (first :: moves) s := by
  induction run with
  | nil =>
    obtain ⟨before, action, after, signal⟩ := first
    subst hfirst
    exact Run.nil.snoc h
  | snoc run hlast ih => exact ih.snoc hlast

theorem Run.of_follow {actions : List Action} (h : s.follow actions = some (moves, s')) : Run s moves s' := by
  induction actions generalizing s moves with
  | nil =>
    cases h
    exact .nil
  | cons a rest ih =>
    simp only [follow, Option.bind_eq_bind, Option.bind_eq_some_iff, Prod.exists, Option.pure_def, Option.some.injEq,
      Prod.mk.injEq] at h
    obtain ⟨mid, sig, hfirst, others, last, hrest, rfl, rfl⟩ := h
    exact .cons hfirst rfl (ih hrest)

theorem Run.append {others : List Move} {mid : System} (run : Run start moves mid) (later : Run mid others s) :
    Run start (moves ++ others) s := by
  induction later with
  | nil => simpa using run
  | snoc _ h ih =>
    rw [← List.append_assoc]
    exact ih.snoc h

/-- The moves before one of a run lead to where it was made. -/
theorem Run.split {before after : List Move} {m : Move} (run : Run start moves s)
    (hmoves : moves = before ++ m :: after) :
    Run start before m.before ∧ m.before.perform m.action = some (m.after, m.signal) := by
  induction run generalizing after with
  | nil => simp at hmoves
  | @snoc earlier s a s' sig run h ih =>
    rcases after.eq_nil_or_concat with rfl | ⟨after, last, rfl⟩
    · obtain ⟨rfl, hlast⟩ := List.append_inj' hmoves rfl
      obtain rfl := List.singleton_inj.1 hlast
      exact ⟨run, h⟩
    · rw [List.concat_eq_append, ← List.cons_append, ← List.append_assoc] at hmoves
      exact ih (List.append_inj' hmoves rfl).1

/-- The moves after one of a run lead on from where it led. -/
theorem Run.rest {before after : List Move} {m : Move} (run : Run start moves s)
    (hmoves : moves = before ++ m :: after) : Run m.after after s := by
  induction run generalizing after with
  | nil => simp at hmoves
  | @snoc earlier s a s' sig run h ih =>
    rcases after.eq_nil_or_concat with rfl | ⟨after, last, rfl⟩
    · obtain rfl := List.singleton_inj.1 (List.append_inj' hmoves rfl).2
      exact .nil
    · rw [List.concat_eq_append, ← List.cons_append, ← List.append_assoc] at hmoves
      obtain ⟨hearlier, hlast⟩ := List.append_inj' hmoves rfl
      obtain rfl := List.singleton_inj.1 hlast
      rw [List.concat_eq_append]
      exact (ih hearlier).snoc h

theorem Run.eq_start (run : Run start [] s) : s = start := by
  generalize hnil : ([] : List Move) = moves at run
  cases run with
  | nil => rfl
  | snoc => simp at hnil

/-- The first move of a run starts where the run does. -/
theorem Run.uncons {first : Move} (run : Run start (first :: moves) s) :
    first.before = start ∧ first.before.perform first.action = some (first.after, first.signal) ∧
      Run first.after moves s := by
  have hfirst : first :: moves = [] ++ first :: moves := rfl
  obtain ⟨begun, hperform⟩ := run.split hfirst
  exact ⟨begun.eq_start, hperform, run.rest hfirst⟩

/-- The last move of a run leads to its end. -/
theorem Run.unsnoc {last : Move} (run : Run start (moves ++ [last]) s) :
    Run start moves last.before ∧ last.before.perform last.action = some (last.after, last.signal) ∧
      last.after = s := by
  generalize hall : moves ++ [last] = all at run
  cases run with
  | nil => simp at hall
  | snoc run h =>
    obtain ⟨rfl, hlast⟩ := List.append_inj' hall rfl
    obtain rfl := List.singleton_inj.1 hlast
    exact ⟨run, h, rfl⟩

/-- A run that can be followed, and what is found at its end. -/
theorem Run.exists_of_follow {P : List Move → System → Prop} [∀ moves s, Decidable (P moves s)] (start : System)
    (actions : List Action) (h : (start.follow actions).any (fun r => decide (P r.1 r.2)) = true) :
    ∃ moves s, Run start moves s ∧ P moves s := by
  obtain ⟨⟨moves, s⟩, hfollow, hp⟩ := (Option.any_eq_true _ _).1 h
  exact ⟨moves, s, .of_follow hfollow, of_decide_eq_true hp⟩

theorem countP_snoc (p : Move → Bool) (moves : List Move) (m : Move) :
    (moves ++ [m]).countP p = moves.countP p + (p m).toNat := by
  rw [List.countP_append, List.countP_singleton]
  cases p m <;> rfl

/-! ### Numbers -/

/-- All numbers in use were given out before. -/
structure Numbered (s : System) : Prop where
  outstanding : ∀ w, s.nextWrite ≤ w → s.outstanding.find? w = none
  answers : ∀ w, s.nextWrite ≤ w → s.answers.find? w = none
  markers : ∀ m, s.markers.next ≤ m → s.markers.issuing.find? m = none

theorem Numbered.lt_nextWrite (hnum : s.Numbered) {w : WriteId} {h : Handed} (hw : s.outstanding.find? w = some h) :
    w < s.nextWrite := by
  by_contra hge
  simp [hnum.outstanding w (Nat.le_of_not_lt hge)] at hw

theorem numbered_fresh (config : Config) : (fresh config).Numbered := by
  constructor <;> simp [fresh]

theorem numbered_step (hnum : s.Numbered) (h : Step s a s' sig) : s'.Numbered := by
  obtain ⟨ho, ha, hm⟩ := hnum
  cases h <;> constructor <;> first
    | assumption
    | simp [find?_disown, Markers.fresh, Markers.enter, Markers.exit, Table.find?_set, Table.find?_erase]
      grind

theorem Run.numbered (run : Run start moves s) (hnum : start.Numbered) : s.Numbered :=
  run.invariant (fun _ => True) hnum (fun _ _ _ _ h _ hnum => numbered_step hnum h) (by simp)

/-- What each step balances a run balances. -/
theorem Run.ledger {β : Type} {k : Tally β} {paid due : Move → List β}
    (hstep : ∀ {s a s' sig}, s.Numbered → Step s a s' sig →
      ↑(paid ⟨s, a, s', sig⟩) + s'.tally k = ↑(due ⟨s, a, s', sig⟩) + s.tally k)
    (run : Run start moves s) (hnum : start.Numbered) :
    ↑(moves.flatMap paid) + s.tally k = ↑(moves.flatMap due) + start.tally k := by
  induction run with
  | nil => rfl
  | snoc run h ih =>
    have hlast := hstep (run.numbered hnum) (step_perform h)
    simp only [List.flatMap_append, List.flatMap_singleton, ← Multiset.coe_add]
    rw [add_assoc, hlast, add_left_comm, ih]
    abel

theorem numbered_run {config : Config} (run : Run (fresh config) moves s) : s.Numbered :=
  run.numbered (numbered_fresh config)

end System

end Outflow
