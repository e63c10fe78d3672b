import Outflow.Proofs.Report

/-! The writes of a connection in the order in which they went to the transport, and what was accepted of each. -/
namespace Outflow.System

variable {config : Config} {s s' : System} {moves : List Move} {a : Action} {sig : Option Signal} {w : WriteId}

/-- What the transport says that it has accepted of write `w`. -/
def Move.acceptedOf (w : WriteId) (m : Move) : List UInt8 := if m.action.ends w then m.confirmed else []

def acceptedOf (moves : List Move) (w : WriteId) : List UInt8 := moves.flatMap (Move.acceptedOf w)

/-- What it has accepted of the first `n` writes, one write after the other. -/
def reported (moves : List Move) (n : Nat) : List UInt8 := (List.range n).flatMap (acceptedOf moves)

/-- What is at the transport of write `w`. -/
def unanswered (s : System) (w : WriteId) : List UInt8 := (s.outstanding.find? w).elim [] fun h => h.write.unsent

/-- What was accepted of write `w`, or will be if it is accepted whole. -/
def portion (moves : List Move) (s : System) (w : WriteId) : List UInt8 := acceptedOf moves w ++ s.unanswered w

/-- All writes one after the other, if those at the transport are accepted whole. -/
def stream (moves : List Move) (s : System) : List UInt8 := (List.range s.nextWrite).flatMap (portion moves s)

/-- What a step does to the writes at the transport. -/
inductive Shipped (s : System) (a : Action) (s' : System) : Prop
  | aside (ha : ∀ w, a.ends w = false) (hnext : s'.nextWrite = s.nextWrite)
      (hout : ∀ w, (s'.outstanding.find? w).map Handed.write = (s.outstanding.find? w).map Handed.write)
  | handed (h : Handed) (ha : ∀ w, a.ends w = false) (hnext : s'.nextWrite = s.nextWrite + 1)
      (hout : s'.outstanding = s.outstanding.set s.nextWrite h)
  | ended (w : WriteId) (h : Handed) (ha : ∀ v, a.ends v = decide (w = v)) (hw : s.outstanding.find? w = some h)
      (hnext : s'.nextWrite = s.nextWrite) (hout : s'.outstanding = s.outstanding.erase w)

theorem shipped_step (h : Step s a s' sig) : Shipped s a s' := by
  cases h with
  | driven _ _ | carried _ _ | tripBegun _ _ => exact .handed _ (fun _ => rfl) rfl rfl
  | strayEnded _ hw | tripEnded _ hw | chainStale _ hw _ | chainQuiet _ hw _ | chainTold _ hw _ | chainGoesOn _ hw _
  | chainFailed _ hw _ | strayForgotten hw | tripForgotten hw | chainForgotten hw =>
    exact .ended _ _ (fun _ => rfl) hw rfl rfl
  | @tripExpired t rest w sweep hst hans =>
    refine .aside (fun _ => rfl) rfl fun v => ?_
    simp only [setStore_eq, frame_setConn, find?_disown, frame_setStack]
    split
    · rw [Option.map_map]
      refine Option.map_congr fun h _ => ?_
      cases h <;> rfl
    · rfl
  | _ => exact .aside (fun _ => rfl) rfl fun _ => rfl

/-- Nothing was accepted of a write that is at the transport, or not there yet. -/
def Unreported (moves : List Move) (s : System) : Prop :=
  ∀ w, s.nextWrite ≤ w ∨ (s.outstanding.find? w).isSome = true → acceptedOf moves w = []

theorem acceptedOf_snoc (moves : List Move) (m : Move) (w : WriteId) :
    acceptedOf (moves ++ [m]) w = acceptedOf moves w ++ m.acceptedOf w := by
  simp [acceptedOf]

theorem Move.acceptedOf_of_not_ends {m : Move} (h : m.action.ends w = false) : m.acceptedOf w = [] := by
  simp [Move.acceptedOf, h]

theorem unreported_step (hnum : s.Numbered) (hun : Unreported moves s) (h : Shipped s a s') :
    Unreported (moves ++ [⟨s, a, s', sig⟩]) s' := by
  intro w hw
  rw [acceptedOf_snoc]
  cases h with
  | aside ha hnext hout =>
    have hsome : (s'.outstanding.find? w).isSome = (s.outstanding.find? w).isSome := by
      rw [← Option.isSome_map (f := Handed.write), hout, Option.isSome_map]
    rw [hnext, hsome] at hw
    rw [hun w hw, Move.acceptedOf_of_not_ends (ha w), List.append_nil]
  | handed h ha hnext hout =>
    have hbefore : s.nextWrite ≤ w ∨ (s.outstanding.find? w).isSome = true := by
      rw [hnext, hout, Table.find?_set] at hw
      split at hw
      · next heq => exact .inl heq.ge
      · exact hw.imp_left Nat.le_of_succ_le
    rw [hun w hbefore, Move.acceptedOf_of_not_ends (ha w), List.append_nil]
  | ended v h ha hv hnext hout =>
    have hlt := hnum.lt_nextWrite hv
    rw [hnext, hout, Table.find?_erase] at hw
    have hne : v ≠ w := by
      rintro rfl
      simp only [if_true, Option.isSome_none, Bool.false_eq_true, or_false] at hw
      exact absurd hlt (Nat.not_lt.2 hw)
    rw [if_neg hne.symm] at hw
    rw [hun w hw, Move.acceptedOf_of_not_ends (by simp [ha, hne]), List.append_nil]

theorem unreported_run (run : Run (fresh config) moves s) : Unreported moves s := by
  induction run with
  | nil => exact fun _ _ => rfl
  | snoc run h ih => exact unreported_step (numbered_run run) ih (shipped_step (step_perform h))

/-! ### The stream -/

theorem portion_eq (ha : a.ends w = false)
    (hout : (s'.outstanding.find? w).map Handed.write = (s.outstanding.find? w).map Handed.write) :
    portion (moves ++ [⟨s, a, s', sig⟩]) s' w = portion moves s w := by
  have hsame : s'.unanswered w = s.unanswered w := by
    have hmap (T : Table Handed) : (T.find? w).elim [] (fun h => h.write.unsent)
        = ((T.find? w).map Handed.write).elim [] Write.unsent := by cases T.find? w <;> rfl
    rw [unanswered, unanswered, hmap, hmap, hout]
  rw [portion, portion, acceptedOf_snoc, Move.acceptedOf_of_not_ends ha, List.append_nil, hsame]

theorem stream_aside (ha : ∀ w, a.ends w = false) (hnext : s'.nextWrite = s.nextWrite)
    (hout : ∀ w, (s'.outstanding.find? w).map Handed.write = (s.outstanding.find? w).map Handed.write) :
    stream (moves ++ [⟨s, a, s', sig⟩]) s' = stream moves s := by
  rw [stream, stream, hnext]
  exact List.flatMap_congr fun w _ => portion_eq (ha w) (hout w)

/-- What is handed over comes last. -/
theorem stream_handed (hun : Unreported moves s) {h : Handed} (ha : ∀ w, a.ends w = false)
    (hnext : s'.nextWrite = s.nextWrite + 1) (hout : s'.outstanding = s.outstanding.set s.nextWrite h) :
    stream (moves ++ [⟨s, a, s', sig⟩]) s' = stream moves s ++ h.write.unsent := by
  have hnew : portion (moves ++ [⟨s, a, s', sig⟩]) s' s.nextWrite = h.write.unsent := by
    rw [portion, acceptedOf_snoc, hun _ (.inl le_rfl), Move.acceptedOf_of_not_ends (ha _), unanswered, hout,
      Table.find?_set, if_pos rfl]
    rfl
  rw [stream, stream, hnext, List.range_succ, List.flatMap_append, List.flatMap_singleton, hnew]
  congr 1
  refine List.flatMap_congr fun w hw => portion_eq (ha w) ?_
  rw [hout, Table.find?_set, if_neg (List.mem_range.1 hw).ne]

/-- A write that ends gives back what was not accepted of it. It is the last one, or it gives nothing back. -/
theorem stream_ended (hun : Unreported moves s) {t : ThreadId} {outcome : Outcome} {h : Handed}
    (hw : s.outstanding.find? w = some h) (hnext : s'.nextWrite = s.nextWrite)
    (hout : s'.outstanding = s.outstanding.erase w)
    (hlast : w + 1 = s.nextWrite ∨ h.write.unsent.drop outcome.count = []) :
    stream (moves ++ [⟨s, .complete t w outcome, s', sig⟩]) s' ++ h.write.unsent.drop outcome.count
      = stream moves s := by
  have hother {v : WriteId} (hv : v ≠ w) :
      portion (moves ++ [⟨s, .complete t w outcome, s', sig⟩]) s' v = portion moves s v := by
    refine portion_eq (decide_eq_false hv.symm) ?_
    rw [hout, Table.find?_erase, if_neg hv]
  have hbefore : portion moves s w = h.write.unsent := by
    rw [portion, hun w (.inr (by simp [hw])), unanswered, hw]
    rfl
  have hafter : portion (moves ++ [⟨s, .complete t w outcome, s', sig⟩]) s' w
      = h.write.unsent.take outcome.count := by
    have hends : Move.acceptedOf w ⟨s, .complete t w outcome, s', sig⟩ = h.write.unsent.take outcome.count := by
      simp [Move.acceptedOf, Action.ends, Move.confirmed, confirmedBy_complete hw]
    rw [portion, acceptedOf_snoc, hun w (.inr (by simp [hw])), hends, unanswered, hout, Table.find?_erase, if_pos rfl]
    simp
  rcases hlast with hlast | hnil
  · rw [stream, stream, hnext, ← hlast, List.range_succ, List.flatMap_append, List.flatMap_append,
      List.flatMap_singleton, List.flatMap_singleton, hbefore, hafter, List.append_assoc, List.take_append_drop]
    congr 1
    exact List.flatMap_congr fun v hv => hother (List.mem_range.1 hv).ne
  · rw [hnil, List.append_nil, stream, stream, hnext]
    refine List.flatMap_congr fun v _ => ?_
    by_cases hv : v = w
    · have hall := List.take_append_drop outcome.count h.write.unsent
      rw [hnil, List.append_nil] at hall
      rw [hv, hafter, hbefore, hall]
    · exact hother hv

end Outflow.System
