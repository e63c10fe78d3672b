import Outflow.Proofs.Arrival
import Outflow.Proofs.Filling

/-! Blocking adds cut the stream into blocks of the size of the buffer, however it is divided among the calls. -/
namespace Outflow

namespace System

variable {config : Config} {size n : Nat} {d : ThreadId → Nat} {t : ThreadId} {rest : List Frame}
  {stream acked : List UInt8} {busy : Bool} {s s' : System} {a : Action} {sig : Option Signal} {moves : List Move}

/-! ### Adds above other calls -/

/-- How many calls are in progress on a thread. -/
def callDepth (s : System) (t : ThreadId) : Nat := (s.openCalls t).length

/-- Nothing is called but blocking adds, one after another, above the calls that were in progress before. Those do not
go on. How many there are on each thread is in `d`. -/
def Move.AddsOver (d : ThreadId → Nat) (m : Move) : Prop :=
  match m.action with
  | .call _ (.add _ .blocking) => m.before.callDepth = d
  | .call _ _ => False
  | .run u | .expire u => ∀ f ∈ (m.before.thread u).stack.head?, f.isCall = true → d u < m.before.callDepth u
  | _ => True

/-- An add waits for the round trip. -/
def awaits (s : System) (d : ThreadId → Nat) (w : WriteId) : Bool :=
  s.threads.entries.any fun e => decide (e.2.awaited? = some w) && decide (d e.1 < s.callDepth e.1)

/-- How the move ends the round trip of an add. -/
def Move.roundTrip? (d : ThreadId → Nat) (m : Move) : Option TripEnd :=
  match m.action with
  | .complete _ w outcome => if m.before.awaits d w then some (.returned outcome) else none
  | .abandon w => if m.before.awaits d w then some .dropped else none
  | .expire u => if (m.before.thread u).awaited?.isSome ∧ d u < m.before.callDepth u then some .expired else none
  | _ => none

def roundTrips (d : ThreadId → Nat) (moves : List Move) : List TripEnd := moves.filterMap (Move.roundTrip? d)

/-- What the transport confirms of that round trip. -/
def Move.confirmedOver (d : ThreadId → Nat) (m : Move) : List UInt8 :=
  if (m.roundTrip? d).isSome then m.confirmed else []

def confirmedOver (d : ThreadId → Nat) (moves : List Move) : List UInt8 := moves.flatMap (Move.confirmedOver d)

/-- The move brings an add forward: it is a step of its thread, or ends the round trip that it waits for. -/
def Move.goesOn (d : ThreadId → Nat) (m : Move) : Bool :=
  match m.action with
  | .run u | .resume u => decide (d u < m.before.callDepth u)
  | _ => (m.roundTrip? d).isSome

/-- A call returns. -/
def Move.replies (m : Move) : Bool :=
  match m.signal with
  | some (.replied _) => true
  | _ => false

theorem awaits_iff {w : WriteId} :
    s.awaits d w = true ↔ ∃ t, (s.thread t).awaited? = some w ∧ d t < s.callDepth t := by
  simp only [awaits, List.any_eq_true, Bool.and_eq_true, decide_eq_true_eq]
  constructor
  · rintro ⟨⟨t, th⟩, hmem, hawaited, hdepth⟩
    have hth : s.thread t = th := by rw [thread, (Table.find?_eq_some_iff _).2 hmem, Option.getD_some]
    exact ⟨t, hth ▸ hawaited, hdepth⟩
  · rintro ⟨t, hawaited, hdepth⟩
    cases hth : s.threads.find? t with
    | none => simp [thread, hth, Thread.awaited?] at hawaited
    | some th =>
      rw [thread, hth, Option.getD_some] at hawaited
      exact ⟨(t, th), (Table.find?_eq_some_iff _).1 hth, hawaited, hdepth⟩

theorem roundTrips_snoc (d : ThreadId → Nat) (moves : List Move) (m : Move) :
    roundTrips d (moves ++ [m]) = roundTrips d moves ++ (m.roundTrip? d).toList := by
  cases hm : m.roundTrip? d <;> simp [roundTrips, hm]

theorem confirmedOver_snoc (d : ThreadId → Nat) (moves : List Move) (m : Move) :
    confirmedOver d (moves ++ [m]) = confirmedOver d moves ++ m.confirmedOver d := by
  simp [confirmedOver]

/-- While no add is in progress no round trip of one ends. -/
theorem roundTrip?_eq_none {m : Move} (hdepth : m.before.callDepth = d) : m.roundTrip? d = none := by
  have hawaits (w : WriteId) : m.before.awaits d w = false := by
    refine Bool.eq_false_iff.2 fun h => ?_
    obtain ⟨t, -, hlt⟩ := awaits_iff.1 h
    rw [hdepth] at hlt
    exact Nat.lt_irrefl _ hlt
  unfold Move.roundTrip?
  split <;> simp [hawaits, hdepth]

/-- An add is in progress on one thread only. -/
theorem eq_of_lt_callDepth {u : ThreadId} (hothers : ∀ u, u ≠ t → s.callDepth u = d u) (hlt : d u < s.callDepth u) :
    u = t := by
  by_contra hne
  rw [hothers u hne] at hlt
  exact Nat.lt_irrefl _ hlt

/-- The round trips of adds are those of the thread that an add is in progress on. -/
theorem roundTrip?_eq_tripEnd? {m : Move} (hothers : ∀ u, u ≠ t → m.before.callDepth u = d u)
    (hdepth : d t < m.before.callDepth t) : m.roundTrip? d = m.tripEnd? t := by
  have hawaits (w : WriteId) : m.before.awaits d w = true ↔ (m.before.thread t).awaited? = some w := by
    rw [awaits_iff]
    constructor
    · rintro ⟨u, hawaited, hlt⟩
      exact eq_of_lt_callDepth hothers hlt ▸ hawaited
    · exact fun hawaited => ⟨t, hawaited, hdepth⟩
  obtain ⟨before, a, after, signal⟩ := m
  cases a with
  | complete u w outcome => simp only [Move.roundTrip?, Move.tripEnd?, hawaits]
  | abandon w => simp only [Move.roundTrip?, Move.tripEnd?, hawaits]
  | expire u =>
    simp only [Move.roundTrip?, Move.tripEnd?]
    refine if_congr ?_ rfl rfl
    constructor
    · rintro ⟨hawaited, hlt⟩
      obtain rfl := eq_of_lt_callDepth hothers hlt
      exact ⟨rfl, hawaited⟩
    · rintro ⟨rfl, hawaited⟩
      exact ⟨hawaited, hdepth⟩
  | call _ _ | run _ | resume _ | transportPending _ => rfl

/-- A call returns at once, or from a step of its own. -/
theorem replied_cases {reply : Reply} (h : Step s a s' (some (.replied reply))) : (∃ u c, a = .call u c) ∨
    ∃ u f below, (a = .run u ∨ a = .expire u) ∧ (s.thread u).stack = f :: below ∧ f.isCall = true := by
  cases h with
  | addNothing _ _ | addRefused _ _ _ | addQueued _ _ _ _ _ | flushRefused _ _ | flushHeld _ _ _ | flushNothing _ _ _ _
  | registered _ _ | reset _ | recycle _ => exact .inl ⟨_, _, rfl⟩
  | answered hst | startedNothing hst _ | issued hst | addDone hst _ | refused hst | collectedLate hst _
  | sweptFlush hst _ _ _ | tripDropped hst _ | tripFailed hst _ _ => exact .inr ⟨_, _, _, .inl rfl, hst, rfl⟩
  | roomExpired hst _ | tripExpired hst _ => exact .inr ⟨_, _, _, .inr rfl, hst, rfl⟩

/-- A round trip begins with a step of the call that waits for it. -/
theorem trip_handed {w : WriteId} {buf : Buffer} (h : Step s a s' (some (.handed w)))
    (hw : s'.outstanding.find? w = some (.trip buf)) : ∃ u sweep below, a = .run u ∧
      (s.thread u).stack = .writing buf sweep :: below ∧ (s'.thread u).awaited? = some w := by
  cases h with
  | driven _ _ | carried _ _ =>
    rw [(frame_launch _ _ _ _ _).2.2.1, Table.find?_set, if_pos rfl] at hw
    cases hw
  | @tripBegun u below buf' sweep hst hbuf =>
    obtain rfl : buf' = buf := by simpa [Table.find?_set] using hw
    refine ⟨u, sweep, below, rfl, hst, ?_⟩
    rw [thread_handOver_self]
    simp [Thread.awaited?]

/-- As long as no call begins or returns, as many are in progress on each thread. -/
theorem callDepth_kept (h : Step s a s' sig) (hcall : ∀ u c, a ≠ .call u c)
    (hsig : ∀ reply, sig ≠ some (.replied reply)) : s'.callDepth = s.callDepth := by
  funext u
  cases served_step h with
  | aside _ _ hcalls _ => simp only [callDepth, hcalls]
  | begun ha _ _ _ | atOnce ha _ _ _ => exact absurd ha (hcall _ _)
  | @goesOn v f f' below _ _ hf hcalls _ =>
    by_cases hu : u = v
    · subst hu
      simp [callDepth, hcalls, hf]
    · simp [callDepth, hcalls, hu]
  | ended _ hreply _ _ _ => exact absurd hreply (hsig _)

/-- No call begins with the action, and none goes on. -/
structure Spares (s : System) (a : Action) : Prop where
  call : ∀ u c, a ≠ .call u c
  head : ∀ u, a = .run u ∨ a = .expire u → ∀ f ∈ (s.thread u).stack.head?, f.isCall = false

theorem Spares.not_replied (h : s.Spares a) (hstep : Step s a s' sig) (reply : Reply) :
    sig ≠ some (.replied reply) := by
  rintro rfl
  obtain ⟨u, c, ha⟩ | ⟨u, f, below, ha, hst, hf⟩ := replied_cases hstep
  · exact h.call u c ha
  · simp [h.head u ha f (by simp [hst])] at hf

theorem Spares.not_handed (h : s.Spares a) (hstep : Step s a s' sig) {w : WriteId} {buf : Buffer}
    (hsig : sig = some (.handed w)) : s'.outstanding.find? w ≠ some (.trip buf) := by
  subst hsig
  intro hw
  obtain ⟨u, sweep, below, ha, hst, -⟩ := trip_handed hstep hw
  cases h.head u (.inl ha) (.writing buf sweep) (by simp [hst])

theorem Spares.leavesTo (h : s.Spares a) (t : ThreadId) : Move.LeavesTo t ⟨s, a, s', sig⟩ := by
  cases a with
  | call u c => exact h.call u c rfl
  | run u => exact .inr (h.head u (.inl rfl))
  | expire u => exact .inr (h.head u (.inr rfl))
  | resume _ | complete _ _ _ | abandon _ | transportPending _ => trivial

/-! ### One step -/

/-- How far the blocking adds have come with the stream. None of them is in progress, or one. The last parameters tell
which it is, and bound the steps that are left of the add and of writing out what is stored. -/
inductive Adding (size : Nat) (d : ThreadId → Nat) (stream acked : List UInt8) (s : System) : Bool → Nat → Prop
  | between (p : Primary) (hdepth : s.callDepth = d) (h : Blocked size stream acked s.conn.store p) :
      Adding size d stream acked s false (9 * p.unsent.length)
  | amid (t : ThreadId) (rest : List Frame) (n : Nat) (hrest : (rest.filter Frame.isCall).length = d t)
      (hothers : ∀ u, u ≠ t → s.callDepth u = d u) (h : Filling size t rest stream acked s n) :
      Adding size d stream acked s true n

/-- What a move brings, if the adds have come so far with `stream`. -/
structure Brings (size : Nat) (d : ThreadId → Nat) (stream acked : List UInt8) (m : Move) (busy : Bool) (n : Nat)
    (busy' : Bool) (n' : Nat) : Prop where
  adding : Adding size d (stream ++ m.given) (acked ++ m.confirmedOver d) m.after busy' n'
  keeps : m.before.KeepsRest m.after
  left : n' + (m.goesOn d).toNat ≤ n + 9 * m.given.length + 2 * m.isCall.toNat
  answers : busy'.toNat + m.replies.toNat = busy.toNat + m.isCall.toNat
  reply : ∀ reply, m.signal = some (.replied reply) → reply = .done
  hands : ∀ w buf, m.signal = some (.handed w) → m.after.outstanding.find? w = some (.trip buf) →
    RestOfBlock size (stream ++ m.given) (acked ++ m.confirmedOver d) buf.unsent

theorem Filling.callDepth_eq (hfill : Filling size t rest stream acked s n) :
    s.callDepth t = (rest.filter Frame.isCall).length + 1 := by
  cases hfill with
  | adding _ _ hst _ _ _ _ | collecting _ _ hst _ _ _ _ | sweeping _ _ hst _ _ _ _ | writing _ _ hst _ _ _ _
  | swept _ _ hst _ _ _ _ =>
    rw [callDepth, openCalls, hst]
    rfl
  | waiting _ _ _ inside hst _ _ _ _ _ _ _ | answered _ _ _ inside _ _ hst _ _ _ _ _ _ _ _ =>
    rw [callDepth, openCalls, hst]
    cases inside <;> rfl

theorem Filling.lt_callDepth (hfill : Filling size t rest stream acked s n)
    (hrest : (rest.filter Frame.isCall).length = d t) : d t < s.callDepth t := by
  rw [hfill.callDepth_eq, hrest]
  exact Nat.lt_succ_self _

theorem replies_eq_false {m : Move} (h : ∀ reply, m.signal ≠ some (.replied reply)) : m.replies = false := by
  unfold Move.replies
  split
  · next reply hreply => exact absurd hreply (h reply)
  · rfl

/-- The step of an add is a move that brings it forward. -/
theorem Advance.brings (h : Advance size t rest stream acked s' n sig) (hstep : Step s a s' sig)
    (hkeeps : s.KeepsRest s') (ha : a = .run t ∨ a = .resume t) (hrest : (rest.filter Frame.isCall).length = d t)
    (hothers : ∀ u, u ≠ t → s.callDepth u = d u) (hdepth : d t < s.callDepth t) :
    ∃ busy' n', Brings size d stream acked ⟨s, a, s', sig⟩ true n busy' n' := by
  have hgoes : Move.goesOn d ⟨s, a, s', sig⟩ = true := by
    obtain rfl | rfl := ha <;> simpa [Move.goesOn] using hdepth
  have hcall : Move.isCall ⟨s, a, s', sig⟩ = false := by
    obtain rfl | rfl := ha <;> rfl
  have hgiven : Move.given ⟨s, a, s', sig⟩ = [] := by
    obtain rfl | rfl := ha <;> rfl
  have hacked : Move.confirmedOver d ⟨s, a, s', sig⟩ = [] := by
    obtain rfl | rfl := ha <;> rfl
  have hothers' (u : ThreadId) (hu : u ≠ t) : s'.callDepth u = d u := by
    have hthread : s'.thread u = s.thread u := by
      refine thread_step hstep ?_
      obtain rfl | rfl := ha <;> simpa [Action.thread] using hu.symm
    rw [callDepth, openCalls, hthread]
    exact hothers u hu
  cases h with
  | @goesOn _ n' h hlt hsig =>
    refine ⟨true, n', ?_, hkeeps, ?_, ?_, fun reply hreply => absurd hreply (hsig reply), ?_⟩
    · rw [hgiven, hacked, List.append_nil, List.append_nil]
      exact .amid t rest n' hrest hothers' h
    · simp only [hgoes, hgiven, hcall, Bool.toNat_true, Bool.toNat_false, List.length_nil]
      omega
    · rw [replies_eq_false hsig, hcall]
    · rintro w buf rfl hw
      obtain ⟨u, sweep, below, hu, -, hawaited⟩ := trip_handed hstep hw
      obtain rfl : u = t := by
        obtain rfl | rfl := ha <;> cases hu
        rfl
      rw [hgiven, hacked, List.append_nil, List.append_nil]
      exact h.restOfBlock hawaited hw
  | @ends p hst h hlt =>
    have hdepth' : s'.callDepth = d := by
      funext u
      by_cases hu : u = t
      · subst hu
        rw [callDepth, openCalls, hst, hrest]
      · exact hothers' u hu
    refine ⟨false, 9 * p.unsent.length, ?_, hkeeps, ?_, ?_, ?_, ?_⟩
    · rw [hgiven, hacked, List.append_nil, List.append_nil]
      exact .between p hdepth' h
    · simp only [hgoes, hgiven, hcall, Bool.toNat_true, Bool.toNat_false, List.length_nil]
      omega
    · rw [hcall]
      rfl
    · rintro reply hreply
      cases hreply
      rfl
    · simp

theorem Move.goesOn_of_ne {m : Move} (h : ∀ u, d u < m.before.callDepth u → m.action ≠ .run u ∧ m.action ≠ .resume u) :
    m.goesOn d = (m.roundTrip? d).isSome := by
  obtain ⟨before, a, after, signal⟩ := m
  cases a with
  | run u => exact decide_eq_false fun hlt => (h u hlt).1 rfl
  | resume u => exact decide_eq_false fun hlt => (h u hlt).2 rfl
  | call _ _ | expire _ | complete _ _ _ | abandon _ | transportPending _ => rfl

theorem Spares.isCall_eq_false {m : Move} (h : m.before.Spares m.action) : m.isCall = false ∧ m.given = [] := by
  obtain ⟨before, a, after, signal⟩ := m
  cases a with
  | call u c => exact absurd rfl (h.call u c)
  | run _ | expire _ | resume _ | complete _ _ _ | abandon _ | transportPending _ => exact ⟨rfl, rfl⟩

/-- A move that no call goes on in counts only if it ends the round trip that an add waits for. -/
theorem Spares.brings {m : Move} {n' : Nat} (h : m.before.Spares m.action)
    (hstep : Step m.before m.action m.after m.signal) (hconn : m.after.conn = m.before.conn)
    (hgoes : m.goesOn d = (m.roundTrip? d).isSome)
    (hadding : Adding size d stream (acked ++ m.confirmedOver d) m.after busy n')
    (hle : n' + (m.roundTrip? d).isSome.toNat ≤ n) : Brings size d stream acked m busy n busy n' := by
  obtain ⟨hcall, hgiven⟩ := h.isCall_eq_false
  refine ⟨?_, by rw [KeepsRest, hconn], by rw [hgoes]; omega, ?_, fun reply hreply => ?_, fun w buf hsig hw => ?_⟩
  · rwa [hgiven, List.append_nil]
  · rw [replies_eq_false (h.not_replied hstep), hcall]
  · exact absurd hreply (h.not_replied hstep reply)
  · exact absurd hw (h.not_handed hstep hsig)

/-- Between the adds nothing counts but calls. -/
theorem Blocked.passed {m : Move} {p : Primary} (hdepth : m.before.callDepth = d)
    (hblocked : Blocked size stream acked m.before.conn.store p) (hfree : m.before.conn.permit.held = false)
    (h : Step m.before m.action m.after m.signal) (hspares : m.before.Spares m.action) :
    Brings size d stream acked m false (9 * p.unsent.length) false (9 * p.unsent.length) := by
  -- Seen from a thread that has no part in the move, nothing happens.
  obtain ⟨t, ht⟩ : ∃ t, m.action.thread ≠ some t := by
    cases m.action.thread with
    | none => exact ⟨0, by simp⟩
    | some u => exact ⟨u + 1, by simp⟩
  have haside := aside_step hfree h (hspares.leavesTo t) (fun ha => ht (by simp [ha, Action.thread]))
    (fun ha => ht (by simp [ha, Action.thread])) fun ha => ht (by simp [ha, Action.thread])
  have hnone := roundTrip?_eq_none hdepth
  have hgoes : m.goesOn d = (m.roundTrip? d).isSome :=
    Move.goesOn_of_ne fun u hlt => absurd hlt (by simp [hdepth])
  refine hspares.brings h haside.conn hgoes ?_ (by simp [hnone])
  simp only [Move.confirmedOver, hnone, Option.isSome_none, Bool.false_eq_true, if_false, List.append_nil]
  exact .between p ((callDepth_kept h hspares.call (hspares.not_replied h)).trans hdepth) (haside.conn ▸ hblocked)

/-- An add in progress stays where it is, unless its round trip ends. -/
theorem Filling.passed {m : Move} (hfill : Filling size t rest stream acked m.before n)
    (hrest : (rest.filter Frame.isCall).length = d t) (hothers : ∀ u, u ≠ t → m.before.callDepth u = d u)
    (hnum : m.before.Numbered) (hfree : m.before.conn.permit.held = false)
    (h : Step m.before m.action m.after m.signal) (hspares : m.before.Spares m.action) (hrun : m.action ≠ .run t)
    (hresume : m.action ≠ .resume t) (hexpire : m.action ≠ .expire t)
    (hconfirms : ∀ e ∈ m.roundTrip? d, e.confirms = true) :
    ∃ n', Brings size d stream acked m true n true n' := by
  have hdepth := hfill.lt_callDepth hrest
  have htrip := roundTrip?_eq_tripEnd? hothers hdepth
  have hgoes : m.goesOn d = (m.roundTrip? d).isSome := by
    refine Move.goesOn_of_ne fun u hlt => ?_
    obtain rfl := eq_of_lt_callDepth hothers hlt
    exact ⟨hrun, hresume⟩
  have haside := aside_step hfree h (hspares.leavesTo t) hrun hexpire hresume
  obtain ⟨n', hfill', hle⟩ := hfill.aside hnum haside h hexpire (htrip ▸ hconfirms)
  have hkept := callDepth_kept h hspares.call (hspares.not_replied h)
  have hacked : m.confirmedOver d = m.confirmedTo t := by rw [Move.confirmedOver, Move.confirmedTo, htrip]
  refine ⟨n', hspares.brings h haside.conn hgoes ?_ (htrip ▸ hle)⟩
  rw [hacked]
  exact .amid t rest n' hrest (fun u hu => (congrFun hkept u).trans (hothers u hu)) hfill'

/-- An add begins. If there is nothing to send, it is done at once. -/
theorem Blocked.called {p : Primary} {src : Chunk} (hdepth : s.callDepth = d)
    (hblocked : Blocked size stream acked s.conn.store p) (herr : s.conn.error = none)
    (h : Step s (.call t (.add src .blocking)) s' sig) : ∃ busy' n',
      Brings size d stream acked ⟨s, .call t (.add src .blocking), s', sig⟩ false (9 * p.unsent.length) busy' n' := by
  obtain ⟨hstore, hshort, hwhole, hblocks⟩ := hblocked
  have hgoes : Move.goesOn d ⟨s, .call t (.add src .blocking), s', sig⟩ = false := rfl
  have hgiven : Move.given ⟨s, .call t (.add src .blocking), s', sig⟩ = src.unsent := rfl
  have hacked : acked ++ Move.confirmedOver d ⟨s, .call t (.add src .blocking), s', sig⟩ = acked := List.append_nil _
  have hcall : Move.isCall ⟨s, .call t (.add src .blocking), s', sig⟩ = true := rfl
  cases h with
  | addNothing hout hsrc =>
    have hnil := Chunk.hasRemaining_eq_false_iff.1 hsrc
    refine ⟨false, 9 * p.unsent.length, ?_, rfl, ?_, rfl, ?_, by simp⟩
    · rw [hacked, hgiven, hnil, List.append_nil]
      exact .between p hdepth ⟨hstore, hshort, hwhole, hblocks⟩
    · simp [hgoes, Nat.add_assoc]
    · rintro reply hreply
      cases hreply
      rfl
  | addRefused hout hsrc hsome => cases herr.symm.trans hsome
  | addBlocking hout hsrc _ =>
    have hothers (u : ThreadId) (hu : u ≠ t) : (s.push t (.adding src)).callDepth u = d u := by
      rw [callDepth, openCalls_push _ _ rfl, Function.update_of_ne hu, ← hdepth]
      rfl
    refine ⟨true, 9 * (p.unsent.length + src.unsent.length) + 1 + min 1 src.unsent.length, ?_, rfl, ?_, rfl, by simp,
      by simp⟩
    · rw [hacked, hgiven]
      refine .amid t (s.thread t).stack _ (congrFun hdepth t) hothers (.adding p src (by simp) hstore hshort ?_ hblocks)
      rw [← List.append_assoc, hwhole]
    · simp only [hgoes, hgiven, hcall, Bool.toNat_true, Bool.toNat_false]
      omega

/-- Other calls than blocking adds do not begin, and no call goes on that was in progress before. -/
theorem Move.AddsOver.spares {m : Move} (h : m.AddsOver d) (hcall : ∀ u c, m.action ≠ .call u c)
    (hown : ∀ u, m.action = .run u ∨ m.action = .expire u → m.before.callDepth u ≤ d u) :
    m.before.Spares m.action := by
  refine ⟨hcall, fun u ha f hf => Bool.eq_false_iff.2 fun hcalls => ?_⟩
  have hlt : d u < m.before.callDepth u := by
    obtain ⟨before, a, after, signal⟩ := m
    obtain rfl | rfl := ha <;> exact h f hf hcalls
  exact absurd hlt (Nat.not_lt.2 (hown u ha))

/-- What a move brings while nothing is called but blocking adds. -/
theorem adding_step {m : Move} (hsize : 0 < size) (hnum : m.before.Numbered) (hsound : m.before.conn.store.Sound size)
    (herr : m.before.conn.error = none) (hfree : m.before.conn.permit.held = false)
    (hadding : Adding size d stream acked m.before busy n) (h : m.before.perform m.action = some (m.after, m.signal))
    (hadds : m.AddsOver d) (hconfirms : ∀ e ∈ m.roundTrip? d, e.confirms = true) :
    ∃ busy' n', Brings size d stream acked m busy n busy' n' := by
  have hstep := step_perform h
  by_cases hcalls : ∃ u c, m.action = .call u c
  · obtain ⟨u, c, ha⟩ := hcalls
    obtain ⟨before, a, after, signal⟩ := m
    subst ha
    cases c with
    | add src mode =>
      cases mode with
      | blocking =>
        have hdepth : before.callDepth = d := hadds
        cases hadding with
        | between p _ hblocked => exact hblocked.called hdepth herr hstep
        | amid t rest n hrest hothers hfill =>
          exact absurd (congrFun hdepth t) (hfill.lt_callDepth hrest).ne'
      | nonBlocking => exact hadds.elim
    | flush _ | registerInterest | reset | recycle => exact hadds.elim
  have hcall (u : ThreadId) (c : Call) : m.action ≠ .call u c := fun ha => hcalls ⟨u, c, ha⟩
  cases hadding with
  | between p hdepth hblocked =>
    exact ⟨false, _, hblocked.passed hdepth hfree hstep (hadds.spares hcall fun u _ => (congrFun hdepth u).le)⟩
  | amid t rest n hrest hothers hfill =>
    have hdepth := hfill.lt_callDepth hrest
    by_cases hown : m.action = .run t ∨ m.action = .resume t
    · obtain ⟨hkeeps, hadvance⟩ := hfill.advanced hsize hnum hsound herr hfree h hown
      exact hadvance.brings hstep hkeeps hown hrest hothers hdepth
    obtain ⟨hrun, hresume⟩ := not_or.1 hown
    -- Time would end the round trip with a failure.
    have hexpire : m.action ≠ .expire t := by
      intro ha
      obtain ⟨before, a, after, signal⟩ := m
      subst ha
      have hend : Move.roundTrip? d ⟨before, .expire t, after, signal⟩ = some .expired :=
        if_pos ⟨hfill.awaits_of_expire h, hdepth⟩
      cases hconfirms _ hend
    have hspares : m.before.Spares m.action := by
      refine hadds.spares hcall fun u ha => (hothers u ?_).le
      rintro rfl
      exact ha.elim hrun hexpire
    obtain ⟨n', hbrings⟩ := hfill.passed hrest hothers hnum hfree hstep hspares hrun hresume hexpire hconfirms
    exact ⟨true, n', hbrings⟩

/-! ### All adds -/

/-- All is ready for blocking adds: nothing is stored, nothing in flight, and nothing has failed. -/
structure Ready (s : System) : Prop where
  primary : ∃ p, s.conn.store.primary = some p
  empty : s.conn.store.contents = []
  free : s.conn.permit.held = false
  error : s.conn.error = none

/-- The moves from `s` on are those of blocking adds, one after another, and in each round trip of theirs the transport
accepts something. -/
structure Fills (s : System) (moves : List Move) (s' : System) : Prop where
  run : Run s moves s'
  adds : ∀ m ∈ moves, m.AddsOver s.callDepth
  confirms : ∀ e ∈ roundTrips s.callDepth moves, e.confirms = true

/-- What they come to. -/
structure Filled (size : Nat) (s : System) (moves : List Move) (s' : System) (busy : Bool) (n : Nat) : Prop where
  adding : Adding size s.callDepth (given moves) (confirmedOver s.callDepth moves) s' busy n
  keeps : s.KeepsRest s'
  left : moves.countP (Move.goesOn s.callDepth) + n ≤ 9 * (given moves).length + 2 * moves.countP Move.isCall
  answers : moves.countP Move.replies + busy.toNat = moves.countP Move.isCall
  replies : ∀ m ∈ moves, ∀ reply, m.signal = some (.replied reply) → reply = .done

/-- The other side has all blocks of `stream`, and the primary buffer what is left behind the last one. -/
structure CutUp (size : Nat) (stream acked : List UInt8) (store : Store) : Prop where
  acked : acked = stream.take (stream.length / size * size)
  overflow : store.overflow = []
  primary : ∃ p, store.primary = some p ∧ p.unsent = stream.drop (stream.length / size * size)

theorem Ready.kept (h : s.Ready) (hkeeps : s.KeepsRest s') :
    s'.conn.error = none ∧ s'.conn.permit.held = false := by
  rw [hkeeps]
  exact ⟨h.error, h.free⟩

theorem CutUp.contents_eq {store : Store} (h : CutUp size stream acked store) :
    store.contents = stream.drop (stream.length / size * size) := by
  obtain ⟨-, hoverflow, p, hp, hunsent⟩ := h
  simp [Store.contents_eq, Store.front, Store.queued, hp, hoverflow, hunsent]

/-- Between the adds only what is left behind the blocks is stored. -/
theorem Blocked.cutUp {store : Store} {p : Primary} (h : Blocked size stream acked store p) (hsize : 0 < size) :
    CutUp size stream acked store := by
  obtain ⟨hstore, hshort, hwhole, k, hk⟩ := h
  have hlen : stream.length / size * size = acked.length := by
    rw [← hwhole, List.length_append, hk, Nat.mul_add_div hsize, Nat.div_eq_of_lt hshort, Nat.add_zero, Nat.mul_comm]
  refine ⟨?_, hstore.overflow, p, hstore.primary, ?_⟩
  · rw [hlen, ← hwhole, List.take_left]
  · rw [hlen, ← hwhole, List.drop_left]

theorem Filled.cutUp (h : Filled size s moves s' busy n) (hsize : 0 < size) (hdepth : s'.callDepth = s.callDepth) :
    busy = false ∧ CutUp size (given moves) (confirmedOver s.callDepth moves) s'.conn.store := by
  cases h.adding with
  | between p _ hblocked => exact ⟨rfl, hblocked.cutUp hsize⟩
  | amid t rest n hrest hothers hfill =>
    exact absurd (congrFun hdepth t) (hfill.lt_callDepth hrest).ne'

theorem Fills.unsnoc {m : Move} (h : s.Fills (moves ++ [m]) s') : s.Fills moves m.before ∧
    m.before.perform m.action = some (m.after, m.signal) ∧ m.after = s' ∧ m.AddsOver s.callDepth ∧
    ∀ e ∈ m.roundTrip? s.callDepth, e.confirms = true := by
  obtain ⟨hrun, hadds, hconfirms⟩ := h
  obtain ⟨hrun, hperform, hafter⟩ := hrun.unsnoc
  rw [List.forall_mem_append, List.forall_mem_singleton] at hadds
  rw [roundTrips_snoc, List.forall_mem_append] at hconfirms
  exact ⟨⟨hrun, hadds.1, hconfirms.1⟩, hperform, hafter, hadds.2, fun e he => hconfirms.2 e (by simpa using he)⟩

theorem Fills.snoc {m : Move} (h : s.Fills moves m.before)
    (hperform : m.before.perform m.action = some (m.after, m.signal)) (hadds : m.AddsOver s.callDepth)
    (hconfirms : ∀ e ∈ m.roundTrip? s.callDepth, e.confirms = true) : s.Fills (moves ++ [m]) m.after := by
  refine ⟨h.run.snoc hperform, ?_, ?_⟩
  · rw [List.forall_mem_append, List.forall_mem_singleton]
    exact ⟨h.adds, hadds⟩
  · rw [roundTrips_snoc, List.forall_mem_append]
    exact ⟨h.confirms, fun e he => hconfirms e (by simpa using he)⟩

theorem Fills.split {before after : List Move} {m : Move} (h : s.Fills moves s')
    (hmoves : moves = before ++ m :: after) : s.Fills (before ++ [m]) m.after := by
  obtain ⟨hrun, hadds, hconfirms⟩ := h
  obtain ⟨hbefore, hperform⟩ := hrun.split hmoves
  rw [List.append_cons] at hmoves
  subst hmoves
  refine ⟨hbefore.snoc hperform, fun x hx => hadds x (List.mem_append_left _ hx), fun e he => hconfirms e ?_⟩
  rw [roundTrips, List.filterMap_append]
  exact List.mem_append_left _ he

theorem Filled.snoc {earlier : List Move} {m : Move} (run : Run (fresh config) earlier s) (hready : s.Ready)
    (hfilled : Filled config.bufferSize s moves m.before busy n) (hfills : s.Fills (moves ++ [m]) s') :
    ∃ busy' n', Filled config.bufferSize s (moves ++ [m]) s' busy' n' ∧
      Brings config.bufferSize s.callDepth (given moves) (confirmedOver s.callDepth moves) m busy n busy' n' := by
  obtain ⟨hbefore, hperform, rfl, hadds, hconfirms⟩ := hfills.unsnoc
  have hwhole := run.append hbefore.run
  obtain ⟨herr, hfree⟩ := hready.kept hfilled.keeps
  obtain ⟨busy', n', hbrings⟩ := adding_step config.bufferSize_pos (numbered_run hwhole) (sound_run hwhole).store herr
    hfree hfilled.adding hperform hadds hconfirms
  refine ⟨busy', n', ⟨?_, hfilled.keeps.trans hbrings.keeps, ?_, ?_, ?_⟩, hbrings⟩
  · rw [given_snoc, confirmedOver_snoc]
    exact hbrings.adding
  · have hleft := hfilled.left
    have hleft' := hbrings.left
    rw [given_snoc, countP_snoc, countP_snoc, List.length_append]
    omega
  · have hanswers := hfilled.answers
    have hanswers' := hbrings.answers
    rw [countP_snoc, countP_snoc]
    omega
  · rw [List.forall_mem_append, List.forall_mem_singleton]
    exact ⟨hfilled.replies, hbrings.reply⟩

theorem filled_run {earlier : List Move} (run : Run (fresh config) earlier s) (hready : s.Ready)
    (hfills : s.Fills moves s') : ∃ busy n, Filled config.bufferSize s moves s' busy n := by
  induction moves using List.reverseRecOn generalizing s' with
  | nil =>
    obtain rfl : s' = s := by
      generalize hnil : [] = none_made at hfills
      cases hfills.run with
      | nil => rfl
      | snoc _ _ => simp at hnil
    obtain ⟨p, hp⟩ := hready.primary
    obtain ⟨hholds, hnil⟩ := Store.holds_of_contents (sound_run run).store.wellFormed hp hready.empty
    refine ⟨false, 9 * p.unsent.length, .between p rfl ⟨hholds, ?_, ?_, Nat.dvd_zero _⟩, rfl, ?_, rfl, by simp⟩
    · rw [hnil]
      exact config.bufferSize_pos
    · simp [given, hnil, confirmedOver]
    · simp [hnil]
  | append_singleton moves m ih =>
    obtain ⟨busy, n, hfilled⟩ := ih hfills.unsnoc.1
    obtain ⟨busy', n', hfilled', -⟩ := hfilled.snoc run hready hfills
    exact ⟨busy', n', hfilled'⟩

/-- As long as an add is in progress, some move brings it forward. -/
theorem exists_goesOn {earlier : List Move} (run : Run (fresh config) earlier s) (hready : s.Ready)
    (hfills : s.Fills moves s') (hbusy : s'.callDepth ≠ s.callDepth) :
    ∃ m, m.before = s' ∧ m.goesOn s.callDepth = true ∧ s.Fills (moves ++ [m]) m.after := by
  have hwhole := run.append hfills.run
  obtain ⟨busy, n, hfilled⟩ := filled_run run hready hfills
  obtain ⟨herr, hfree⟩ := hready.kept hfilled.keeps
  cases hfilled.adding with
  | between _ hdepth _ => exact absurd hdepth hbusy
  | amid t rest n hrest hothers hfill =>
    have hdepth := hfill.lt_callDepth hrest
    obtain ⟨⟨s₁, sig, h, -⟩, -⟩ | ⟨⟨s₁, sig, h, -⟩, -⟩ | ⟨-, -, w, buf, hawaited, hw⟩ :=
      hfill.next config.bufferSize_pos (numbered_run hwhole) (sound_run hwhole).store herr hfree
    · exact ⟨⟨s', .run t, s₁, sig⟩, rfl, decide_eq_true hdepth,
        hfills.snoc h (fun _ _ _ => hdepth) (by simp [Move.roundTrip?])⟩
    · exact ⟨⟨s', .resume t, s₁, sig⟩, rfl, decide_eq_true hdepth,
        hfills.snoc h trivial (by simp [Move.roundTrip?])⟩
    · obtain ⟨u, hout⟩ := s'.exists_outside
      obtain ⟨s₁, h⟩ : ∃ s₁, s'.perform (.complete u w (.ok 1)) = some (s₁, none) := by
        simp [perform, hout, complete, hw]
      have hend : Move.roundTrip? s.callDepth ⟨s', .complete u w (.ok 1), s₁, none⟩ = some (.returned (.ok 1)) :=
        if_pos (awaits_iff.2 ⟨t, hawaited, hdepth⟩)
      refine ⟨⟨s', .complete u w (.ok 1), s₁, none⟩, rfl, ?_, hfills.snoc h trivial fun e he => ?_⟩
      · rw [Move.goesOn_of_ne (by simp), hend]
        rfl
      · cases he.symm.trans hend
        rfl

/-- Blocking adds cut what they are given into blocks of the size of the buffer. All of them return, and none is
refused: the moves that bring them forward are bounded, and one is possible as long as an add is in progress. Each
buffer that is handed to the transport is what the other side lacks of the next block. Between the adds the other side
has all blocks there are so far, and the primary buffer holds the rest. How the stream is divided among the adds, and
how much the transport accepts at a time, does not matter. -/
theorem blocks_exact {earlier : List Move} (run : Run (fresh config) earlier s) (hready : s.Ready)
    (hfills : s.Fills moves s') :
    (∀ m ∈ moves, ∀ reply, m.signal = some (.replied reply) → reply = .done) ∧
    moves.countP (Move.goesOn s.callDepth) ≤ 9 * (given moves).length + 2 * moves.countP Move.isCall ∧
    (s'.callDepth ≠ s.callDepth →
      ∃ m, m.before = s' ∧ m.goesOn s.callDepth = true ∧ s.Fills (moves ++ [m]) m.after) ∧
    (∀ before m after w buf, moves = before ++ m :: after → m.signal = some (.handed w) →
      m.after.outstanding.find? w = some (.trip buf) →
      RestOfBlock config.bufferSize (given (before ++ [m])) (confirmedOver s.callDepth (before ++ [m])) buf.unsent) ∧
    (s'.callDepth = s.callDepth →
      moves.countP Move.replies = moves.countP Move.isCall ∧
      CutUp config.bufferSize (given moves) (confirmedOver s.callDepth moves) s'.conn.store ∧
      s'.conn = { s.conn with store := s'.conn.store } ∧
      ∀ (config₂ : Config) (earlier₂ moves₂ : List Move) (s₂ s₂' : System), config₂.bufferSize = config.bufferSize →
        Run (fresh config₂) earlier₂ s₂ → s₂.Ready → s₂.Fills moves₂ s₂' → s₂'.callDepth = s₂.callDepth →
        given moves₂ = given moves → confirmedOver s₂.callDepth moves₂ = confirmedOver s.callDepth moves ∧
          s₂'.conn.store.contents = s'.conn.store.contents) := by
  obtain ⟨busy, n, hfilled⟩ := filled_run run hready hfills
  refine ⟨hfilled.replies, Nat.le_of_add_right_le hfilled.left, exists_goesOn run hready hfills, ?_, fun hdepth => ?_⟩
  · intro before m after w buf hmoves hsig hw
    have hprefix := hfills.split hmoves
    obtain ⟨busy₀, n₀, hbefore⟩ := filled_run run hready hprefix.unsnoc.1
    obtain ⟨busy₁, n₁, -, hbrings⟩ := hbefore.snoc run hready hprefix
    rw [given_snoc, confirmedOver_snoc]
    exact hbrings.hands w buf hsig hw
  · obtain ⟨rfl, hcut⟩ := hfilled.cutUp config.bufferSize_pos hdepth
    refine ⟨hfilled.answers, hcut, hfilled.keeps, ?_⟩
    intro config₂ earlier₂ moves₂ s₂ s₂' hsize run₂ hready₂ hfills₂ hdepth₂ hgiven
    obtain ⟨busy₂, n₂, hfilled₂⟩ := filled_run run₂ hready₂ hfills₂
    obtain ⟨-, hcut₂⟩ := hfilled₂.cutUp config₂.bufferSize_pos hdepth₂
    rw [hsize, hgiven] at hcut₂
    exact ⟨hcut₂.acked.trans hcut.acked.symm, hcut₂.contents_eq.trans hcut.contents_eq.symm⟩

theorem callDepth_eq_zero_iff : (s.callDepth = fun _ => 0) ↔ s.Resting := by
  rw [funext_iff]
  constructor
  · intro hdepth
    refine List.eq_nil_iff_forall_not_mem.2 fun f hf => ?_
    obtain ⟨t, ht⟩ := mem_calls_iff.1 hf
    simp [List.length_eq_zero_iff.1 (hdepth t)] at ht
  · intro hrest t
    rw [callDepth, hrest.openCalls_eq_nil]
    rfl

instance : DecidablePred (Move.AddsOver fun _ => 0)
  | ⟨_, .call _ (.add _ .blocking), _, _⟩ => decidable_of_iff (Resting _) callDepth_eq_zero_iff.symm
  | ⟨_, .call _ (.add _ .nonBlocking), _, _⟩ | ⟨_, .call _ (.flush _), _, _⟩ | ⟨_, .call _ .registerInterest, _, _⟩
  | ⟨_, .call _ .reset, _, _⟩ | ⟨_, .call _ .recycle, _, _⟩ => inferInstanceAs (Decidable False)
  | ⟨_, .run _, _, _⟩ | ⟨_, .expire _, _, _⟩ => inferInstanceAs (Decidable (∀ f ∈ _, _ = _ → _ < _))
  | ⟨_, .resume _, _, _⟩ | ⟨_, .complete _ _ _, _, _⟩ | ⟨_, .abandon _, _, _⟩ | ⟨_, .transportPending _, _, _⟩ =>
    inferInstanceAs (Decidable True)

theorem ready_fresh (config : Config) : (fresh config).Ready := ⟨⟨_, rfl⟩, rfl, rfl, rfl⟩

theorem Fills.exists_of_follow (config : Config) (actions : List Action) (stream : List UInt8) (calls : Nat)
    (h : ((fresh config).follow actions).any (fun r => decide ((∀ m ∈ r.1, m.AddsOver fun _ => 0) ∧
      (∀ e ∈ roundTrips (fun _ => 0) r.1, e.confirms = true) ∧ r.2.Resting ∧ given r.1 = stream ∧
      r.1.countP Move.isCall = calls)) = true) : ∃ moves s, (fresh config).Fills moves s ∧
        s.callDepth = (fresh config).callDepth ∧ given moves = stream ∧ moves.countP Move.isCall = calls := by
  obtain ⟨moves, s, run, hadds, hconfirms, hrest, hgiven⟩ := Run.exists_of_follow
    (P := fun moves s => (∀ m ∈ moves, m.AddsOver fun _ => 0) ∧
      (∀ e ∈ roundTrips (fun _ => 0) moves, e.confirms = true) ∧ s.Resting ∧ given moves = stream ∧
      moves.countP Move.isCall = calls) (fresh config) actions h
  exact ⟨moves, s, ⟨run, hadds, hconfirms⟩, callDepth_eq_zero_iff.2 hrest, hgiven⟩

/-- Ten bytes from two threads, three and seven at a time, and from one add. Of one block the transport accepts one
byte, then more than there are left, and each of the others at once. It gets two blocks in both cases. -/
theorem blocks_exact_divided : ∃ moves s moves₂ s₂, (fresh { bufferSize := 4 }).Fills moves s ∧
    (fresh { bufferSize := 4 }).Fills moves₂ s₂ ∧ moves.countP Move.replies = 2 ∧ moves₂.countP Move.replies = 1 ∧
    confirmedOver (fresh { bufferSize := 4 }).callDepth moves = [1, 2, 3, 4, 5, 6, 7, 8] ∧
    confirmedOver (fresh { bufferSize := 4 }).callDepth moves₂ = [1, 2, 3, 4, 5, 6, 7, 8] ∧
    s.conn.store.contents = [9, 10] ∧ s₂.conn.store.contents = [9, 10] := by
  obtain ⟨moves, s, hfills, hdepth, hgiven, hcalls⟩ := Fills.exists_of_follow { bufferSize := 4 }
    [.call 0 (.add { bytes := ⟨#[1, 2, 3]⟩ } .blocking), .run 0, .run 0,
      .call 1 (.add { bytes := ⟨#[4, 5, 6, 7, 8, 9, 10]⟩ } .blocking), .run 1, .run 1, .run 1, .run 1,
      .complete 1 0 (.ok 1), .resume 1, .run 1, .run 1, .complete 7 1 (.ok 99), .resume 1, .run 1, .run 1, .run 1,
      .run 1, .run 1, .run 1, .run 1, .resume 1, .complete 7 2 (.ok 4), .run 1, .run 1, .run 1, .run 1, .run 1]
    [1, 2, 3, 4, 5, 6, 7, 8, 9, 10] 2 (by decide +kernel)
  obtain ⟨moves₂, s₂, hfills₂, hdepth₂, hgiven₂, hcalls₂⟩ := Fills.exists_of_follow { bufferSize := 4 }
    [.call 0 (.add { bytes := ⟨#[1, 2, 3, 4, 5, 6, 7, 8, 9, 10]⟩ } .blocking), .run 0, .run 0, .run 0, .run 0,
      .complete 0 0 (.ok 4), .resume 0, .run 0, .run 0, .run 0, .run 0, .run 0, .run 0, .run 0, .complete 0 1 (.ok 4),
      .resume 0, .run 0, .run 0, .run 0, .run 0, .run 0]
    [1, 2, 3, 4, 5, 6, 7, 8, 9, 10] 1 (by decide +kernel)
  obtain ⟨-, -, -, -, hidle⟩ := blocks_exact .nil (ready_fresh _) hfills
  obtain ⟨-, -, -, -, hidle₂⟩ := blocks_exact .nil (ready_fresh _) hfills₂
  obtain ⟨hanswers, hcut, -, hsame⟩ := hidle hdepth
  obtain ⟨hanswers₂, -, -, -⟩ := hidle₂ hdepth₂
  obtain ⟨hacked, hcontents⟩ :=
    hsame _ _ moves₂ _ s₂ rfl .nil (ready_fresh _) hfills₂ hdepth₂ (hgiven₂.trans hgiven.symm)
  have hconfirmed := hcut.acked
  have hstored := hcut.contents_eq
  rw [hgiven] at hconfirmed hstored
  exact ⟨moves, s, moves₂, s₂, hfills, hfills₂, hanswers.trans hcalls, hanswers₂.trans hcalls₂, hconfirmed,
    hacked.trans hconfirmed, hstored, hcontents.trans hstored⟩

end System

end Outflow
