import Mathlib.Data.Fintype.EquivFin
import Outflow.Proofs.Numbering

/-! What is a matter of one thread only. No step touches the stack of another thread, and what another thread is amid
does not show in what a step does. So what a thread does on its own can be left out of a run. -/
namespace Outflow

/-! ### No lead at all -/

def Lead.zero : Lead := { writes := 0, markers := 0, grants := 0 }

@[simp]
theorem Guard.shift_zero (g : Guard) : g.shift .zero = g := by
  simp [shift, Lead.zero]

@[simp]
theorem Permit.shift_zero (p : Permit) : p.shift .zero = p := by
  simp [shift, Lead.zero]

@[simp]
theorem Flight.shift_zero (f : Flight) : f.shift .zero = f := by
  simp [shift]
  rfl

@[simp]
theorem Job.shift_zero (job : Job) : job.shift .zero = job := by
  simp [shift]

@[simp]
theorem Frame.shift_zero (f : Frame) : f.shift .zero = f := by
  cases f <;> simp [shift] <;> rfl

@[simp]
theorem Thread.shift_zero (th : Thread) : th.shift .zero = th := by
  obtain ⟨stack, deferral⟩ := th
  have hframe : Frame.shift .zero = id := funext Frame.shift_zero
  have hjob : Job.shift .zero = id := funext Job.shift_zero
  cases deferral <;> simp [shift, Deferral.map, hframe, hjob]

@[simp]
theorem Handed.shift_zero (h : Handed) : h.shift .zero = h := by
  cases h <;> simp [shift]

@[simp]
theorem Signal.shift_zero (sig : Signal) : sig.shift .zero = sig := by
  cases sig <;> rfl

@[simp]
theorem Connection.shift_zero (c : Connection) : c.shift .zero = c := by
  simp [shift]

@[simp]
theorem Action.shift_zero (a : Action) : a.shift .zero = a := by
  cases a <;> rfl

/-- The frames of the connection's own code that go on without waiting. -/
def Frame.isBusy : Frame → Bool
  | inTransport _ | attaching _ | notifying _ | awaitingRoom _ _ _ | awaitingChain _ | awaitingReply _ _ => false
  | _ => true

def Frame.isDriving : Frame → Bool
  | driving => true
  | _ => false

@[simp]
theorem Deferral.isIdle_idle {α : Type} : (idle : Deferral α).isIdle = true := rfl

@[simp]
theorem Deferral.isIdle_running {α : Type} (queue : List α) : (running queue).isIdle = false := rfl

/-- There are always numbers left. -/
theorem Table.exists_find?_eq_none {α : Type} (T : Table α) : ∃ key, T.find? key = none := by
  obtain ⟨key, hkey⟩ := Infinite.exists_notMem_finset (T.entries.map Prod.fst).toFinset
  refine ⟨key, Option.eq_none_iff_forall_ne_some.2 fun value hvalue => hkey ?_⟩
  exact List.mem_toFinset.2 (List.mem_map_of_mem (T.find?_eq_some_iff.1 hvalue))

namespace System

variable {config : Config} {s s' f : System} {moves : List Move} {a : Action} {sig : Option Signal} {t : ThreadId}
  {on : ThreadId → Prop}

/-! ### Threads that go to the transport -/

@[simp]
theorem thread_launch_self (s : System) (t : ThreadId) (rest : List Frame) (queue : List Job) (job : Job) :
    (s.launch t rest queue job).thread t
    = { stack := .inTransport s.nextWrite :: .driving :: rest, deferral := .running queue } := by
  have h : (s.launch t rest queue job).thread t
      = ((s.setThread t { stack := .driving :: rest, deferral := .running queue }).push t
          (.inTransport s.nextWrite)).thread t := rfl
  rw [h, thread_push_self, thread_setThread, if_pos rfl]

@[simp]
theorem thread_handOver_self (s : System) (t : ThreadId) (handed : Handed) : (s.handOver t handed).1.thread t
    = { s.thread t with stack := .inTransport s.nextWrite :: (s.thread t).stack } :=
  thread_push_self s t _

/-! ### Other threads -/

/-- Some thread is idle. -/
theorem exists_outside (s : System) : ∃ t, (s.thread t).isOutside = true := by
  obtain ⟨t, hnone⟩ := s.threads.exists_find?_eq_none
  exact ⟨t, by simp [thread, hnone, Thread.isOutside]⟩

section

variable {u : ThreadId} (hne : u ≠ t)

include hne

theorem thread_setThread_of_ne (th : Thread) : (s.setThread t th).thread u = s.thread u := by
  rw [thread_setThread, if_neg hne]

theorem thread_setStack_of_ne (stack : List Frame) : (s.setStack t stack).thread u = s.thread u :=
  thread_setThread_of_ne hne _

theorem thread_push_of_ne (frame : Frame) : (s.push t frame).thread u = s.thread u :=
  thread_setThread_of_ne hne _

theorem thread_handOver_of_ne (h : Handed) : (s.handOver t h).1.thread u = s.thread u :=
  thread_push_of_ne hne _

theorem thread_launch_of_ne (rest : List Frame) (queue : List Job) (job : Job) :
    (s.launch t rest queue job).thread u = s.thread u :=
  (thread_handOver_of_ne hne _).trans (thread_setThread_of_ne hne _)

theorem thread_begin_of_ne (starter : Starter) (g : Guard) (store : Store) (write : Write) :
    (s.begin t starter g store write).thread u = s.thread u :=
  (thread_push_of_ne hne _).trans (thread_push_of_ne hne _)

end

/-- A thread is where it was unless it does something. -/
theorem thread_step (h : Step s a s' sig) (hother : a.thread ≠ some t) : s'.thread t = s.thread t := by
  have hne {u : ThreadId} (hu : a.thread = some u) : t ≠ u := fun heq => hother (heq ▸ hu)
  cases h with
  | strayForgotten _ | tripForgotten _ | chainForgotten _ | transportPending => rfl
  | _ => simp [thread_setThread_of_ne, thread_setStack_of_ne, thread_push_of_ne, thread_handOver_of_ne,
      thread_launch_of_ne, thread_begin_of_ne, hne rfl]

/-- A thread whose innermost frame is not foreign and need not wait can only go on. -/
theorem eq_run_of_isBusy {frame : Frame} {rest : List Frame} (hst : (s.thread t).stack = frame :: rest)
    (hbusy : frame.isBusy = true) (ha : a.thread = some t) (h : Step s a s' sig) : a = .run t := by
  have hinside : (s.thread t).isOutside = false := by
    rw [Thread.isOutside, hst]
    cases frame <;> simp_all [Frame.isBusy, Frame.isForeign]
  cases h <;> simp_all [Action.thread, Frame.isBusy]

/-- What a thread is amid comes from the last thing it did. -/
theorem thread_run (run : Run (fresh config) moves s) (t : ThreadId) :
    (s.thread t = {} ∧ ∀ m ∈ moves, m.action.thread ≠ some t) ∨
    ∃ earlier m later, moves = earlier ++ m :: later ∧ m.action.thread = some t ∧ s.thread t = m.after.thread t ∧
      ∀ m' ∈ later, m'.action.thread ≠ some t := by
  induction run with
  | nil => exact .inl ⟨by simp [thread, fresh], by simp⟩
  | @snoc moves s a s' sig run h ih =>
    by_cases ha : a.thread = some t
    · exact .inr ⟨moves, _, [], rfl, ha, rfl, by simp⟩
    · have hkept := thread_step (step_perform h) ha
      obtain ⟨hnone, hmoves⟩ | ⟨earlier, m, later, rfl, hm, hlast, hlater⟩ := ih
      · exact .inl ⟨hkept.trans hnone, List.forall_mem_append.2 ⟨hmoves, List.forall_mem_singleton.2 ha⟩⟩
      · refine .inr ⟨earlier, m, later ++ [⟨s, a, s', sig⟩], by simp, hm, hkept.trans hlast, ?_⟩
        exact List.forall_mem_append.2 ⟨hlater, List.forall_mem_singleton.2 ha⟩

/-! ### Runs without a thread -/

theorem map_shift_zero {α : Type} {φ : α → α} (hφ : ∀ x, φ x = x) (x : Option α) : x.map φ = x := by
  cases x <;> simp [hφ]

/-- The systems are the same as far as the threads of `on` can see. -/
abbrev SameOn (on : ThreadId → Prop) (s f : System) : Prop := AheadOn .zero on s f

theorem SameOn.conn_eq (h : SameOn on s f) : s.conn = f.conn := h.conn.trans (Connection.shift_zero _)

theorem SameOn.thread_eq (h : SameOn on s f) (ht : on t) : s.thread t = f.thread t :=
  (h.thread t ht).trans (Thread.shift_zero _)

theorem SameOn.outstanding_eq (h : SameOn on s f) : s.outstanding.find? = f.outstanding.find? :=
  funext fun w => (h.outstanding w).trans (map_shift_zero Handed.shift_zero _)

theorem SameOn.refl (on : ThreadId → Prop) (s : System) : SameOn on s s where
  conn := (Connection.shift_zero _).symm
  thread _ _ := (Thread.shift_zero _).symm
  outstanding _ := (map_shift_zero Handed.shift_zero _).symm
  answers _ := rfl
  nextWrite := rfl
  nextMarker := rfl
  issuing _ := rfl
  transportPending := rfl

theorem SameOn.perform (h : SameOn on s f) (ha : ∀ t, a.thread = some t → on t)
    (hp : s.perform a = some (s', sig)) : ∃ f', f.perform a = some (f', sig) ∧ SameOn on s' f' := by
  have hrel := AheadOn.perform h ha
  rw [Action.shift_zero, hp] at hrel
  generalize f.perform a = y at hrel
  cases hrel with
  | @some _ turn halike =>
    obtain ⟨f', sig'⟩ := turn
    obtain ⟨hsame, hsig⟩ := halike
    obtain rfl : sig = sig' := hsig.trans (map_shift_zero Signal.shift_zero _)
    exact ⟨f', rfl, hsame⟩

/-- What a move shows outside of threads: what is done and told, the connection after it, and the writes that the
transport has. -/
def Move.shows (m : Move) : Action × Option Signal × Connection × (WriteId → Option Handed) :=
  (m.action, m.signal, m.after.conn, m.after.outstanding.find?)

/-- Threads that see the same can do the same, move by move. -/
theorem SameOn.run (h : SameOn on s f) (run : Run s moves s')
    (hon : ∀ m ∈ moves, ∀ t, m.action.thread = some t → on t) :
    ∃ others f', Run f others f' ∧ others.map Move.shows = moves.map Move.shows ∧ SameOn on s' f' := by
  induction run with
  | nil => exact ⟨[], f, .nil, rfl, h⟩
  | @snoc moves s₁ a s₂ sig run hp ih =>
    simp only [List.forall_mem_append, List.forall_mem_singleton] at hon
    obtain ⟨others, f₁, hrun, hshows, hsame⟩ := ih hon.1
    obtain ⟨f₂, hp', hsame'⟩ := hsame.perform hon.2 hp
    refine ⟨_, f₂, hrun.snoc hp', ?_, hsame'⟩
    rw [List.map_append, List.map_append, hshows]
    simp [Move.shows, hsame'.conn_eq, hsame'.outstanding_eq]

theorem Run.thread_eq (run : Run s moves s') (hmoves : ∀ m ∈ moves, m.action.thread ≠ some t) :
    s'.thread t = s.thread t := by
  induction run with
  | nil => rfl
  | snoc run h ih =>
    simp only [List.forall_mem_append, List.forall_mem_singleton] at hmoves
    exact (thread_step (step_perform h) hmoves.2).trans (ih hmoves.1)

theorem SameOn.setThread_left {on' : ThreadId → Prop} (h : SameOn on s f) {th : Thread}
    (hothers : ∀ u, on' u → u ≠ t → on u) (hth : on' t → th = f.thread t) : SameOn on' (s.setThread t th) f := by
  refine { h with thread := fun u hu => ?_ }
  rw [thread_setThread, Thread.shift_zero]
  split
  · next heq =>
    subst heq
    exact hth hu
  · next hne => exact h.thread_eq (hothers u hu hne)

/-- A thread that is elsewhere for a while, does nothing and comes back might as well have stayed. -/
theorem run_elsewhere {th : Thread} {last : System} {others : List Move} (run : Run (s.setThread t th) moves s')
    (hmoves : ∀ m ∈ moves, m.action.thread ≠ some t) (later : Run (s'.setThread t (s.thread t)) others last) :
    ∃ all f, Run s all f ∧ all.map Move.shows = (moves ++ others).map Move.shows ∧
      SameOn (fun _ => True) last f := by
  have haway : SameOn (fun u => u ≠ t) (s.setThread t th) s :=
    (SameOn.refl _ s).setThread_left (fun _ _ hne => hne) fun hne => absurd rfl hne
  obtain ⟨others₁, f₁, run₁, hshows₁, hsame₁⟩ := haway.run run fun m hm u hu heq => hmoves m hm (heq ▸ hu)
  have hkept : f₁.thread t = s.thread t := by
    refine run₁.thread_eq fun m hm hact => ?_
    have hshown : m.shows ∈ moves.map Move.shows := hshows₁ ▸ List.mem_map_of_mem hm
    obtain ⟨m', hm', heq⟩ := List.mem_map.1 hshown
    have haction : m'.action = m.action := congrArg Prod.fst heq
    exact hmoves m' hm' (haction ▸ hact)
  have hback : SameOn (fun _ => True) (s'.setThread t (s.thread t)) f₁ :=
    hsame₁.setThread_left (fun _ _ hne => hne) fun _ => hkept.symm
  obtain ⟨others₂, f₂, run₂, hshows₂, hsame₂⟩ := hback.run later fun _ _ _ _ => trivial
  refine ⟨others₁ ++ others₂, f₂, run₁.append run₂, ?_, hsame₂⟩
  rw [List.map_append, List.map_append, hshows₁, hshows₂]

/-! ### Loops -/

/-- A thread that puts writes off has one loop under way, which comes back to them. -/
def Looped (s : System) : Prop :=
  ∀ t, (s.thread t).stack.countP Frame.isDriving = if (s.thread t).deferral.isIdle then 0 else 1

theorem looped_step (hl : s.Looped) (h : Step s a s' sig) : s'.Looped := by
  intro u
  by_cases hu : a.thread = some u
  · have hloop := hl u
    cases h with
    | @carried t rest job hst hd =>
      obtain rfl : t = u := by simpa [Action.thread] using hu
      rw [hst, hd, List.countP_cons_of_neg (by simp [Frame.isDriving])] at hloop
      rw [thread_launch_self, List.countP_cons_of_neg (by simp [Frame.isDriving]), List.countP_cons_of_pos rfl, hloop]
      rfl
    | @driveDone t rest hst hd =>
      obtain rfl : t = u := by simpa [Action.thread] using hu
      rw [hst, List.countP_cons_of_pos rfl] at hloop
      split at hloop
      · cases hloop
      · simpa [thread_setThread] using hloop
    | _ => simp_all [Action.thread, begin, thread_setThread, Frame.isDriving]
  · rw [thread_step h hu]
    exact hl u

theorem looped_run (run : Run (fresh config) moves s) : s.Looped :=
  run.invariant (fun _ => True) (by simp [Looped, thread, fresh]) (fun _ _ _ _ h _ hl => looped_step hl h) (by simp)

/-- The innermost loop of a thread. -/
theorem Looped.exists_driving (hl : s.Looped) {queue : List Job} (hd : (s.thread t).deferral = .running queue) :
    ∃ above below, (s.thread t).stack = above ++ .driving :: below ∧ ∀ f ∈ above, f.isDriving = false := by
  have hloop := hl t
  rw [hd, Deferral.isIdle_running, if_neg (by simp)] at hloop
  obtain ⟨f, hf, hdrives⟩ := List.countP_pos_iff.1 (hloop.symm ▸ Nat.one_pos)
  obtain rfl : f = .driving := by cases f <;> simp_all [Frame.isDriving]
  obtain ⟨above, below, hst⟩ := List.append_of_mem hf
  refine ⟨above, below, hst, ?_⟩
  rw [hst, List.countP_append, List.countP_cons_of_pos rfl] at hloop
  simpa using List.countP_eq_zero.1 (show above.countP Frame.isDriving = 0 by omega)

theorem Looped.waiting_eq_nil (hl : s.Looped) (hst : (s.thread t).stack = []) :
    (s.thread t).deferral.waiting = [] := by
  have hloop := hl t
  cases hd : (s.thread t).deferral with
  | idle => rfl
  | running queue => simp [hst, hd] at hloop

/-- No thread is inside the connection or its transport. -/
def Idle (s : System) : Prop := ∀ t, (s.thread t).stack = []

theorem Idle.collect_eq {β : Type} (hidle : s.Idle) (hl : s.Looped) (k : Tally β) :
    s.collect k = s.outstanding.collect k.ofHanded := by
  have hnone : s.threads.collect k.ofThread = [] := by
    refine List.eq_nil_iff_forall_not_mem.2 fun x hx => ?_
    obtain ⟨t, th, ht, hx⟩ := (Table.mem_collect _ _).1 hx
    obtain rfl : s.thread t = th := by simp [thread, ht]
    simp [Tally.ofThread, hidle t, hl.waiting_eq_nil (hidle t)] at hx
  rw [collect, hnone, List.nil_append]

end System

end Outflow
