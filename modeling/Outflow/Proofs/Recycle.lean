import Outflow.Proofs.Exclusion
import Outflow.Proofs.Numbering

/-! A recycled connection does what a new one does, whatever becomes of the writes that it left behind. -/
namespace Outflow

namespace Permit

variable {p p' : Permit} {g : Guard} {G G' : Multiset Guard} {a : Action}

/-- Grants and resets since that of a guard, as the generations tell. -/
def since (p : Permit) (g : Guard) : Nat := (p.generation - g.generation).toNat

theorem since_eq (p : Permit) (g : Guard) :
    p.since g = (2 ^ 64 - g.generation.toNat + p.generation.toNat) % 2 ^ 64 := UInt64.toNat_sub _ _

theorem since_pos_iff : 0 < p.since g ↔ p.generation ≠ g.generation := by
  have hp := p.generation.toNat_lt
  have hg := g.generation.toNat_lt
  rw [since_eq, ne_eq, ← UInt64.toNat_inj]
  omega

theorem isCurrent_eq_false_of_since (h : 0 < p.since g) : p.isCurrent g = false := by
  simp [isCurrent, since_pos_iff.1 h]

theorem generation_traded (h : Traded a p G p' G') :
    p'.generation = p.generation ∨ p'.generation = p.generation + 1 := by
  cases h with
  | kept hp hG => exact .inl (hp ▸ rfl)
  | granted hfree hp hG => exact .inr (hp ▸ rfl)
  | dropped g hp hG => exact .inl (hp ▸ generation_release p g)
  | probed hfree hp hG => exact .inr (hp ▸ generation_release p.grant p.nextGuard)
  | reset t ha hp hG => exact .inr (hp ▸ rfl)

/-- The count goes on with each grant and each reset, as long as it does not begin again. -/
theorem since_traded (h : Traded a p G p' G') (hfew : p.since g + p.renewals p' < 2 ^ 64) :
    p'.since g = p.since g + p.renewals p' := by
  rcases generation_traded h with hsame | hnext
  · simp [since, renewals, hsame]
  · have hrenewals : p.renewals p' = 1 := by rw [renewals, hnext, if_neg (generation_add_one_ne _)]
    rw [hrenewals] at hfew ⊢
    have hp := p.generation.toNat_lt
    have hg := g.generation.toNat_lt
    have hadd : p'.generation.toNat = (p.generation.toNat + 1) % 2 ^ 64 := by rw [hnext, UInt64.toNat_add]; rfl
    rw [since_eq] at hfew ⊢
    rw [since_eq]
    omega

end Permit

theorem Connection.Settled.config {c c' : Connection} {f : Flight} {isInline : Bool} {outcome : Outcome}
    {write : Write} {v : Verdict} (h : Settled c f isInline outcome write c' v) : c'.config = c.config := by
  cases h <;> rfl

/-- An action on a write that has a number below `first`. -/
def Action.isBefore (first : WriteId) : Action → Bool
  | complete _ w _ | abandon w => decide (w < first)
  | _ => false

/-- The same action where `first` is the number of the first write. -/
def Action.countFrom (first : WriteId) : Action → Action
  | complete t w outcome => complete t (w - first) outcome
  | abandon w => abandon (w - first)
  | a => a

theorem Action.shift_countFrom {d : Lead} {a : Action} (h : a.isBefore d.writes = false) :
    (a.countFrom d.writes).shift d = a := by
  cases a with
  | complete t w outcome | abandon w =>
    simp only [isBefore, decide_eq_false_iff_not, Nat.not_lt] at h
    simp [countFrom, shift, Nat.sub_add_cancel h]
  | _ => rfl

def Signal.countFrom (first : WriteId) : Signal → Signal
  | handed w => handed (w - first)
  | sig => sig

theorem Signal.countFrom_shift (d : Lead) (sig : Signal) :
    (sig.shift d).countFrom d.writes = sig.countFrom 0 := by
  cases sig <;> simp [shift, countFrom]

/-- What the outside can see of a connection and its transport, which has the `written` ones. -/
structure View where
  bufferedBytes : Nat
  writePending : Bool
  error : Option Error
  interest : Bool
  hasData : Bool
  written : WriteId → Option Write

namespace System

variable {config : Config} {s s' f : System} {moves : List Move} {a : Action} {sig : Option Signal} {w : WriteId}

/-- Writes are counted from `first`. -/
def view (s : System) (first : WriteId) : View where
  bufferedBytes := s.conn.store.bufferedBytes
  writePending := s.conn.permit.held
  error := s.conn.error
  interest := s.conn.interest
  hasData := s.hasData
  written w := (s.outstanding.find? (w + first)).map Handed.write

/-- An action, and what came of it if it could be done. -/
structure Attempt where
  before : System
  action : Action
  turn : Option Turn

namespace Attempt

def after (x : Attempt) : System := (x.turn.map Prod.fst).getD x.before

/-- What the outside gets to know: whether the action was done, what it told, and what can be seen after it. -/
def sight (first : WriteId) (x : Attempt) : Option (Option Signal) × View :=
  (x.turn.map fun turn => turn.2.map (Signal.countFrom first), x.after.view first)

def renewals (x : Attempt) : Nat := x.before.conn.permit.renewals x.after.conn.permit

end Attempt

/-- Tries one action after another. -/
def attempts (s : System) : List Action → List Attempt
  | [] => []
  | a :: rest =>
    let x : Attempt := ⟨s, a, s.perform a⟩
    x :: x.after.attempts rest

/-- Grants and resets while write `w` is at the transport. -/
def renewalsDuring (w : WriteId) (xs : List Attempt) : Nat :=
  ((xs.filter fun x => (x.before.outstanding.find? w).isSome).map Attempt.renewals).sum

/-! ### Writes from before -/

theorem config_step (h : Step s a s' sig) : s'.conn.config = s.conn.config := by
  cases h with
  | addQueued hout hsrc herr hheld hroom =>
    rw [Connection.queue?_eq_ok hroom]
    rfl
  | chainQuiet hout hw hset | chainTold hout hw hset | chainGoesOn hout hw hset | chainFailed hout hw hset =>
    exact hset.config
  | _ => rfl

theorem config_run (run : Run (fresh config) moves s) : s.conn.config = config := by
  induction run with
  | nil => rfl
  | snoc run h ih => exact (config_step (step_perform h)).trans ih

/-- The writes of chains that have a number were there before. -/
theorem chain_step (h : Step s a s' sig) (hw : w < s.nextWrite) {write : Write} {flight : Flight}
    (hchain : s'.outstanding.find? w = some (.chain write flight)) :
    s.outstanding.find? w = some (.chain write flight) := by
  cases h with
  | driven _ _ | carried _ _ | tripBegun _ _ =>
    simp only [frame_launch, frame_handOver, Table.find?_set, frame_setStack] at hchain
    rwa [if_neg (Nat.ne_of_lt hw)] at hchain
  | tripExpired _ _ =>
    simp only [setStore_eq, frame_setConn, find?_disown, frame_setStack] at hchain
    split at hchain
    · obtain ⟨handed, hfind, hdisowned⟩ := Option.map_eq_some_iff.1 hchain
      cases handed <;> simp_all [Handed.disowned]
    · exact hchain
  | strayEnded _ _ | tripEnded _ _ | chainStale _ _ _ | chainQuiet _ _ _ | chainTold _ _ _ | chainGoesOn _ _ _
  | chainFailed _ _ _ | strayForgotten _ | tripForgotten _ | chainForgotten _ =>
    exact Table.find?_of_erase _ _ hchain
  | _ => exact hchain

theorem renewalsDuring_cons {rest : List Action} {handed : Handed} (h : s.perform a = some (s', sig))
    (hw : s.outstanding.find? w = some handed) : renewalsDuring w (s.attempts (a :: rest))
      = s.conn.permit.renewals s'.conn.permit + renewalsDuring w (s'.attempts rest) := by
  simp [attempts, renewalsDuring, Attempt.renewals, Attempt.after, h, hw]

/-- No stale guard comes into force again. -/
def Bygone (first : WriteId) (s : System) (actions : List Action) : Prop :=
  ∀ w < first, ∀ write flight, s.outstanding.find? w = some (.chain write flight) →
    0 < s.conn.permit.since flight.guard ∧
    s.conn.permit.since flight.guard + renewalsDuring w (s.attempts actions) < 2 ^ 64

variable {d : Lead} {rest : List Action}

theorem Bygone.stale (h : Bygone d.writes s rest) (hw : w < d.writes) {write : Write} {flight : Flight}
    (hchain : s.outstanding.find? w = some (.chain write flight)) : s.conn.permit.isCurrent flight.guard = false :=
  Permit.isCurrent_eq_false_of_since (h w hw write flight hchain).1

theorem bygone_step (hnum : s.Numbered) (hahead : Ahead d s f) (hby : Bygone d.writes s (a :: rest))
    (h : s.perform a = some (s', sig)) : Bygone d.writes s' rest := by
  intro w hw write flight hchain
  have hbefore : w < s.nextWrite := Nat.lt_of_lt_of_le hw (hahead.nextWrite ▸ Nat.le_add_left _ _)
  have hstep := step_perform h
  have hfind := chain_step hstep hbefore hchain
  obtain ⟨hpos, hfew⟩ := hby w hw write flight hfind
  rw [renewalsDuring_cons h hfind] at hfew
  have hsince : s'.conn.permit.since flight.guard = _ :=
    Permit.since_traded (traded_step hnum hstep) (by omega)
  omega

theorem bygone_refused (hby : Bygone d.writes s (a :: rest)) (h : s.perform a = none) : Bygone d.writes s rest := by
  intro w hw write flight hchain
  obtain ⟨hpos, hfew⟩ := hby w hw write flight hchain
  have hsum : renewalsDuring w (s.attempts (a :: rest)) = renewalsDuring w (s.attempts rest) := by
    simp [attempts, renewalsDuring, Attempt.renewals, Attempt.after, h, hchain, Permit.renewals]
  rw [hsum] at hfew
  exact ⟨hpos, hfew⟩

theorem ne_of_before (hw : w < d.writes) (v : WriteId) : v + d.writes ≠ w :=
  (Nat.lt_of_lt_of_le hw (Nat.le_add_left _ _)).ne'

theorem Ahead.endWrite_before (h : Ahead d s f) (hw : w < d.writes) : Ahead d (s.endWrite w) f := by
  refine { h with outstanding := fun v => ?_ }
  rw [← h.outstanding v]
  exact (Table.find?_erase _ _ _).trans (if_neg (ne_of_before hw v))

theorem Ahead.setAnswer_before (h : Ahead d s f) (hw : w < d.writes) (answer : Answer) :
    Ahead d (s.setAnswers (s.answers.set w answer)) f := by
  refine { h with answers := fun v => ?_ }
  rw [← h.answers v]
  exact (Table.find?_set _ _ _ _).trans (if_neg (ne_of_before hw v))

/-- The end of a write from before shows nowhere. -/
theorem before_step (hahead : Ahead d s f) (hby : Bygone d.writes s (a :: rest)) (ha : a.isBefore d.writes = true)
    (h : s.perform a = some (s', sig)) :
    Ahead d s' f ∧ sig = none ∧ s'.conn = s.conn ∧ s'.thread = s.thread := by
  have hbefore {v : WriteId} (hv : decide (v < d.writes) = true) : v < d.writes := of_decide_eq_true hv
  cases step_perform h with
  | strayEnded hout hfind | strayForgotten hfind => exact ⟨hahead.endWrite_before (hbefore ha), rfl, rfl, rfl⟩
  | tripEnded hout hfind | tripForgotten hfind =>
    exact ⟨(hahead.endWrite_before (hbefore ha)).setAnswer_before (hbefore ha) _, rfl, rfl, rfl⟩
  | chainStale hout hfind hset => exact ⟨hahead.endWrite_before (hbefore ha), rfl, rfl, rfl⟩
  | chainForgotten hfind =>
    have hkept := Connection.release_of_not_current (hby.stale (hbefore ha) hfind)
    rw [hkept]
    exact ⟨hahead.endWrite_before (hbefore ha), rfl, rfl, rfl⟩
  | chainQuiet hout hfind hset | chainTold hout hfind hset | chainGoesOn hout hfind hset
  | chainFailed hout hfind hset =>
    have hcurrent := hset.isCurrent (by simp)
    simp [hby.stale (hbefore ha) hfind] at hcurrent
  | _ => simp [Action.isBefore] at ha

/-- What is seen of a system that has counted further is the same. -/
theorem Ahead.view (h : Ahead d s f) : s.view d.writes = f.view 0 := by
  have hwritten : (fun w => (s.outstanding.find? (w + d.writes)).map Handed.write)
      = fun w => (f.outstanding.find? (w + 0)).map Handed.write := by
    funext w
    rw [h.outstanding w, Option.map_map]
    refine Option.map_congr fun handed _ => ?_
    cases handed <;> rfl
  simp only [System.view, hwritten, h.hasData, h.conn]
  rfl

/-- Turns that are alike look the same. -/
theorem sight_alike (h : Ahead d s f) {x y : Option Turn} (hrel : Option.Rel (Alike d) x y) (a b : Action) :
    Attempt.sight d.writes ⟨s, a, x⟩ = Attempt.sight 0 ⟨f, b, y⟩ ∧
    Ahead d (Attempt.after ⟨s, a, x⟩) (Attempt.after ⟨f, b, y⟩) := by
  cases hrel with
  | none => exact ⟨congrArg (Prod.mk none) h.view, h⟩
  | @some x y halike =>
    obtain ⟨hafter, htold⟩ := halike
    refine ⟨Prod.ext ?_ hafter.view, hafter⟩
    simp [Attempt.sight, htold, Function.comp_def, Signal.countFrom_shift]

theorem before_attempt (hahead : Ahead d s f) (hby : Bygone d.writes s (a :: rest))
    (ha : a.isBefore d.writes = true) :
    Ahead d (Attempt.after ⟨s, a, s.perform a⟩) f ∧ (∀ turn ∈ s.perform a, turn.2 = none) ∧
      (Attempt.after ⟨s, a, s.perform a⟩).conn = s.conn ∧ (Attempt.after ⟨s, a, s.perform a⟩).thread = s.thread := by
  cases hp : s.perform a with
  | none => exact ⟨hahead, by simp, rfl, rfl⟩
  | some turn =>
    obtain ⟨hafter, hsig, hconn, hthread⟩ := before_step hahead hby ha hp
    exact ⟨hafter, by simpa using hsig, hconn, hthread⟩

/-- Action by action the two systems look the same, and the ends of writes from before do not show. -/
theorem attempts_alike (later : List Action) (hnum : s.Numbered) (hahead : Ahead d s f)
    (hby : Bygone d.writes s later) :
    ((s.attempts later).filter fun x => !x.action.isBefore d.writes).map (Attempt.sight d.writes)
      = (f.attempts ((later.filter fun a => !a.isBefore d.writes).map (Action.countFrom d.writes))).map
        (Attempt.sight 0) ∧
    ∀ x ∈ s.attempts later, x.action.isBefore d.writes = true → (∀ turn ∈ x.turn, turn.2 = none) ∧
      x.after.conn = x.before.conn ∧ x.after.thread = x.before.thread ∧
      x.after.view d.writes = x.before.view d.writes := by
  induction later generalizing s f with
  | nil => simp [attempts]
  | cons a rest ih =>
    have hnext : Numbered (Attempt.after ⟨s, a, s.perform a⟩) ∧
        Bygone d.writes (Attempt.after ⟨s, a, s.perform a⟩) rest := by
      cases hp : s.perform a with
      | none => exact ⟨hnum, bygone_refused hby hp⟩
      | some turn => exact ⟨numbered_step hnum (step_perform hp), bygone_step hnum hahead hby hp⟩
    cases ha : a.isBefore d.writes with
    | true =>
      obtain ⟨hafter, hsame⟩ := before_attempt hahead hby ha
      obtain ⟨hsights, hbefore⟩ := ih hnext.1 hafter hnext.2
      simp only [attempts, List.filter_cons, ha, Bool.not_true, Bool.false_eq_true, if_false, List.forall_mem_cons]
      exact ⟨hsights, fun _ => ⟨hsame.1, hsame.2.1, hsame.2.2, hafter.view.trans hahead.view.symm⟩, hbefore⟩
    | false =>
      have hrel := hahead.perform (a.countFrom d.writes)
      rw [Action.shift_countFrom ha] at hrel
      obtain ⟨hsight, hafter⟩ := sight_alike hahead hrel a (a.countFrom d.writes)
      obtain ⟨hsights, hbefore⟩ := ih hnext.1 hafter hnext.2
      simp only [attempts, List.filter_cons, ha, Bool.not_false, if_true, List.map_cons, List.forall_mem_cons, hsight,
        hsights]
      exact ⟨trivial, fun hb => absurd hb (by simp), hbefore⟩

/-- A recycled connection is a new one, with higher counts. -/
theorem ahead_recycle (run : Run (fresh config) moves s) (hidle : ∀ t, (s.thread t).isIdle = true) :
    Ahead ⟨s.nextWrite, s.markers.next, s.conn.permit.generation + 1⟩ (s.setConn s.conn.recycle)
      ((fresh config).setTransportPending s.transportPending) := by
  obtain ⟨hout, hans, hmarkers⟩ := numbered_run run
  have hsound := (sound_run run).store
  have hstore : s.conn.store.discard.1.ensurePrimary = Store.empty config.bufferSize := by
    rw [Store.ensurePrimary_discard hsound.wellFormed, hsound.size]
  refine ⟨?_, fun t => ?_, fun w => hout _ (Nat.le_add_left _ _), fun w => hans _ (Nat.le_add_left _ _),
    (Nat.zero_add _).symm, (Nat.zero_add _).symm, fun m => hmarkers _ (Nat.le_add_left _ _), rfl⟩
  · simp [Connection.recycle, hstore, config_run run, Permit.reset, fresh, Connection.fresh, Connection.shift,
      Permit.shift, setTransportPending]
  · exact Thread.eq_of_isIdle (hidle t)

theorem isOutside_of_isIdle {th : Thread} (h : th.isIdle = true) : th.isOutside = true := by
  rw [Thread.eq_of_isIdle h]
  rfl

/-- A connection that is recycled while nobody is inside it behaves as a new one of the same configuration: whatever
actions follow, they are done or refused alike, tell the same and lead to the same sights. The ends of writes from
before may come at any point, and change nothing. Fewer than 2^64 grants and resets lie between the grant for such a
write and its end. -/
theorem recycle_fresh (run : Run (fresh config) moves s) (hidle : ∀ t, (s.thread t).isIdle = true) (t : ThreadId)
    (later : List Action)
    (hfew : ∀ w write flight, s.outstanding.find? w = some (.chain write flight) →
      s.conn.permit.since flight.guard + renewalsDuring w (s.attempts (.call t .recycle :: later)) < 2 ^ 64) :
    ∃ s', s.perform (.call t .recycle) = some (s', some (.replied .done)) ∧
      s'.view s.nextWrite = ((fresh config).setTransportPending s.transportPending).view 0 ∧
      ((s'.attempts later).filter fun x => !x.action.isBefore s.nextWrite).map (Attempt.sight s.nextWrite)
        = (((fresh config).setTransportPending s.transportPending).attempts
          ((later.filter fun a => !a.isBefore s.nextWrite).map (Action.countFrom s.nextWrite))).map
          (Attempt.sight 0) ∧
      ∀ x ∈ s'.attempts later, x.action.isBefore s.nextWrite = true → (∀ turn ∈ x.turn, turn.2 = none) ∧
        x.after.conn = x.before.conn ∧ x.after.thread = x.before.thread ∧
        x.after.view s.nextWrite = x.before.view s.nextWrite := by
  have hrecycle : s.perform (.call t .recycle) = some (s.setConn s.conn.recycle, some (.replied .done)) := by
    simp only [perform, isOutside_of_isIdle (hidle t), if_true]
    rfl
  have hahead := ahead_recycle run hidle
  have hnum : (s.setConn s.conn.recycle).Numbered := numbered_step (numbered_run run) (step_perform hrecycle)
  have hrenewals : s.conn.permit.renewals (s.setConn s.conn.recycle).conn.permit = 1 :=
    if_neg (Permit.generation_add_one_ne _)
  have hby : Bygone s.nextWrite (s.setConn s.conn.recycle) later := by
    intro w hw write flight hchain
    have hfind : s.outstanding.find? w = some (.chain write flight) := hchain
    have hage := hfew w write flight hfind
    rw [renewalsDuring_cons hrecycle hfind, hrenewals] at hage
    have hsince : (s.setConn s.conn.recycle).conn.permit.since flight.guard
        = s.conn.permit.since flight.guard + 1 := by
      rw [← hrenewals]
      exact Permit.since_traded (traded_step (numbered_run run) (step_perform hrecycle)) (by omega)
    omega
  obtain ⟨hsights, hbefore⟩ := attempts_alike later hnum hahead hby
  exact ⟨_, hrecycle, hahead.view, hsights, hbefore⟩

/-- One byte is at the transport and the producer waits for word of it. Then the connection is recycled, and takes a
byte of its next exchange before the transport confirms the old one. -/
theorem recycle_fresh_old_write : ∃ moves s s', Run (fresh {}) moves s ∧ s.nextWrite = 1 ∧ s.conn.interest = true ∧
    (s.outstanding.find? 0).isSome = true ∧ s.perform (.call 0 .recycle) = some (s', some (.replied .done)) ∧
    ((s'.attempts [.call 0 (.add { bytes := ⟨#[98]⟩ } .nonBlocking), .run 0, .run 0, .complete 0 0 (.ok 1), .resume 0,
        .run 0, .run 0, .complete 1 1 (.ok 1)]).filter fun x => !x.action.isBefore 1).map (Attempt.sight 1)
      = (((fresh {}).setTransportPending s.transportPending).attempts
        [.call 0 (.add { bytes := ⟨#[98]⟩ } .nonBlocking), .run 0, .run 0, .resume 0, .run 0, .run 0,
          .complete 1 0 (.ok 1)]).map (Attempt.sight 0) := by
  obtain ⟨moves, s, run, hempty, hfew, hnext, hinterest, hold⟩ := Run.exists_of_follow (fresh {})
    [.call 0 (.add { bytes := ⟨#[97]⟩ } .nonBlocking), .run 0, .run 0, .resume 0, .run 0, .run 0,
      .call 0 .registerInterest]
    (P := fun _ s => s.threads.entries.isEmpty = true ∧
      (∀ e ∈ s.outstanding.entries, ∀ g ∈ Tally.guards.ofHanded e.2, s.conn.permit.since g
        + renewalsDuring e.1 (s.attempts [.call 0 .recycle, .call 0 (.add { bytes := ⟨#[98]⟩ } .nonBlocking), .run 0,
          .run 0, .complete 0 0 (.ok 1), .resume 0, .run 0, .run 0, .complete 1 1 (.ok 1)]) < 2 ^ 64) ∧
      s.nextWrite = 1 ∧ s.conn.interest = true ∧ (s.outstanding.find? 0).isSome = true) (by decide +kernel)
  have hidle : ∀ t, (s.thread t).isIdle = true := by
    intro t
    simp [thread, Table.find?, List.isEmpty_iff.1 hempty, Thread.isIdle, Deferral.isIdle]
  obtain ⟨s', hrecycle, -, hsights, -⟩ := recycle_fresh run hidle 0
    [.call 0 (.add { bytes := ⟨#[98]⟩ } .nonBlocking), .run 0, .run 0, .complete 0 0 (.ok 1), .resume 0, .run 0,
      .run 0, .complete 1 1 (.ok 1)]
    fun w write flight hw => hfew _ ((Table.find?_eq_some_iff _).1 hw) flight.guard (List.mem_singleton_self _)
  rw [hnext] at hsights
  exact ⟨moves, s, s', run, hnext, hinterest, hold, hrecycle, hsights⟩

end System

end Outflow
