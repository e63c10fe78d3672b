import Mathlib.Data.List.Perm.Basic
import Outflow.Deferral

/-! A thread that defers jobs runs each of them once, one after another and in the order in which they were submitted,
which is breadth-first. -/
namespace Outflow.Deferral

variable {ν α : Type}

/-- What a job does while it runs. It acts, and it submits other jobs under their names, in any order. -/
inductive Body (ν α : Type)
  | done
  | act (a : α) (rest : Body ν α)
  | submit (name : ν) (body rest : Body ν α)

structure Task (ν α : Type) where
  name : ν
  body : Body ν α

/-- What a thread is seen to do. -/
inductive Event (ν α : Type)
  | submitted (name : ν)
  | started (name : ν)
  | acted (a : α)
  | returned

namespace Event

def submitted? : Event ν α → Option ν
  | submitted name => some name
  | _ => none

def started? : Event ν α → Option ν
  | started name => some name
  | _ => none

end Event

/-! ### Trees of jobs -/

namespace Body

/-- The jobs that a job submits itself, the first one first. -/
def children : Body ν α → List (Task ν α)
  | done => []
  | act _ rest => rest.children
  | submit name body rest => ⟨name, body⟩ :: rest.children

/-- All jobs that a job leads to. -/
def descendants : Body ν α → List (Task ν α)
  | done => []
  | act _ rest => rest.descendants
  | submit name body rest => ⟨name, body⟩ :: (body.descendants ++ rest.descendants)

/-- The number of levels of jobs below. -/
def height : Body ν α → Nat
  | done => 0
  | act _ rest => rest.height
  | submit _ body rest => max (body.height + 1) rest.height

/-- What is seen of a job after its start. -/
def events : Body ν α → List (Event ν α)
  | done => [.returned]
  | act a rest => .acted a :: rest.events
  | submit name _ rest => .submitted name :: rest.events

end Body

/-- The first `n` levels of the trees that begin with `jobs`, one after the other. -/
def levels : Nat → List (Task ν α) → List (Task ν α)
  | 0, _ => []
  | n + 1, jobs => jobs ++ levels n (jobs.flatMap fun job => job.body.children)

namespace Task

/-- All jobs of a tree. -/
def all (job : Task ν α) : List (Task ν α) := job :: job.body.descendants

/-- All jobs of a tree, level by level. -/
def breadthFirst (job : Task ν α) : List (Task ν α) := levels (job.body.height + 1) [job]

/-- What is seen of a job. -/
def events (job : Task ν α) : List (Event ν α) := .started job.name :: job.body.events

end Task

variable {job root : Task ν α} {jobs queue : List (Task ν α)} {body left : Body ν α} {n : Nat}

theorem Body.descendants_eq (body : Body ν α) : body.descendants = body.children.flatMap Task.all := by
  induction body with
  | done => rfl
  | act a rest ih => exact ih
  | submit name body rest _ ih => simp [descendants, children, Task.all, ih]

theorem Body.height_lt_of_mem (h : job ∈ body.children) : job.body.height < body.height := by
  induction body with
  | done => cases h
  | act a rest ih => exact ih h
  | submit name body rest _ ih =>
    rw [children, List.mem_cons] at h
    rcases h with rfl | h
    · exact Nat.lt_of_succ_le (Nat.le_max_left _ _)
    · exact Nat.lt_of_lt_of_le (ih h) (Nat.le_max_right _ _)

theorem height_children (h : ∀ job ∈ jobs, job.body.height < n + 1) :
    ∀ job ∈ jobs.flatMap (fun job => job.body.children), job.body.height < n := by
  intro job hjob
  obtain ⟨parent, hparent, hjob⟩ := List.mem_flatMap.1 hjob
  have hlt := Body.height_lt_of_mem hjob
  have hle := h parent hparent
  omega

theorem Task.all_eq : Task.all (ν := ν) (α := α) = fun job => job :: job.body.children.flatMap Task.all := by
  funext job
  rw [Task.all, Body.descendants_eq]

/-- With all levels nothing is left out, and nothing occurs more often than in the trees. -/
theorem levels_perm (h : ∀ job ∈ jobs, job.body.height < n) : (levels n jobs).Perm (jobs.flatMap Task.all) := by
  induction n generalizing jobs with
  | zero =>
    have hnil : jobs = [] := List.eq_nil_iff_forall_not_mem.2 fun job hjob => Nat.not_lt_zero _ (h job hjob)
    simp [hnil, levels]
  | succ n ih =>
    have hbelow := (ih (height_children h)).append_left jobs
    have hmerge := List.map_append_flatMap_perm jobs id fun job => job.body.children.flatMap Task.all
    rw [List.map_id, ← List.flatMap_assoc] at hmerge
    rw [levels, Task.all_eq]
    exact hbelow.trans hmerge

/-- Behind the first level comes what all the jobs submit, in the same order. -/
theorem levels_eq_append (h : ∀ job ∈ jobs, job.body.height < n) :
    levels n jobs = jobs ++ (levels n jobs).flatMap fun job => job.body.children := by
  induction n generalizing jobs with
  | zero =>
    have hnil : jobs = [] := List.eq_nil_iff_forall_not_mem.2 fun job hjob => Nat.not_lt_zero _ (h job hjob)
    simp [hnil, levels]
  | succ n ih =>
    rw [levels, List.flatMap_append, ← ih (height_children h)]

theorem Body.started_events (body : Body ν α) : body.events.filterMap Event.started? = [] := by
  induction body with
  | done => rfl
  | act a rest ih => exact ih
  | submit name body rest _ ih => exact ih

theorem Body.submitted_events (body : Body ν α) :
    body.events.filterMap Event.submitted? = body.children.map Task.name := by
  induction body with
  | done => rfl
  | act a rest ih => exact ih
  | submit name body rest _ ih => simp [events, children, Event.submitted?, ih]

theorem started_flatMap (jobs : List (Task ν α)) :
    (jobs.flatMap Task.events).filterMap Event.started? = jobs.map Task.name := by
  induction jobs with
  | nil => rfl
  | cons job jobs ih => simp [Task.events, Event.started?, Body.started_events, ih]

theorem submitted_flatMap (jobs : List (Task ν α)) :
    (jobs.flatMap Task.events).filterMap Event.submitted?
      = (jobs.flatMap fun job => job.body.children).map Task.name := by
  induction jobs with
  | nil => rfl
  | cons job jobs ih =>
    simp [Task.events, List.filterMap_cons, Event.submitted?, Body.submitted_events, ih]

/-! ### The loop -/

/-- A frame of a thread that runs jobs: the loop that works off what is deferred, or a job with the rest of its body. -/
inductive Stage (ν α : Type)
  | driving
  | inside (left : Body ν α)

structure Worker (ν α : Type) where
  stack : List (Stage ν α)
  deferral : Deferral (Task ν α) := idle

namespace Worker

variable {w w' w'' : Worker ν α} {rest below : List (Stage ν α)} {first log later : List (Event ν α)}

/-- The thread has asked which job it is to run: it is inside that one, with the loop below, or back in `rest`. -/
def drive (rest : List (Stage ν α)) : Deferral (Task ν α) × Option (Task ν α) → Worker ν α × List (Event ν α)
  | (deferral, some job) => (⟨.inside job.body :: .driving :: rest, deferral⟩, [.started job.name])
  | (deferral, none) => (⟨rest, deferral⟩, [])

/-- The next step, with what is seen of it. To submit a job from within another one is a call like any other. -/
def step (w : Worker ν α) : Option (Worker ν α × List (Event ν α)) :=
  match w.stack with
  | [] => none
  | .driving :: rest => some (drive rest w.deferral.next)
  | .inside .done :: rest => some (⟨rest, w.deferral⟩, [.returned])
  | .inside (.act a left) :: rest => some (⟨.inside left :: rest, w.deferral⟩, [.acted a])
  | .inside (.submit name body left) :: rest =>
    let (w, events) := drive (.inside left :: rest) (w.deferral.submit ⟨name, body⟩)
    some (w, .submitted name :: events)

section

variable (rest : List (Stage ν α)) (queue : List (Task ν α)) (job : Task ν α)

theorem step_driving_cons : step ⟨.driving :: rest, running (job :: queue)⟩
    = some (⟨.inside job.body :: .driving :: rest, running queue⟩, [.started job.name]) := rfl

theorem step_driving_nil : step (⟨.driving :: rest, running []⟩ : Worker ν α) = some (⟨rest, idle⟩, []) := rfl

theorem step_done (deferral : Deferral (Task ν α)) :
    step ⟨.inside .done :: rest, deferral⟩ = some (⟨rest, deferral⟩, [.returned]) := rfl

theorem step_act (deferral : Deferral (Task ν α)) (a : α) (left : Body ν α) :
    step ⟨.inside (.act a left) :: rest, deferral⟩ = some (⟨.inside left :: rest, deferral⟩, [.acted a]) := rfl

theorem step_submit_running (left : Body ν α) :
    step ⟨.inside (.submit job.name job.body left) :: rest, running queue⟩
      = some (⟨.inside left :: rest, running (queue ++ [job])⟩, [.submitted job.name]) := rfl

theorem step_submit_idle (left : Body ν α) : step ⟨.inside (.submit job.name job.body left) :: rest, idle⟩
    = some (⟨.inside job.body :: .driving :: .inside left :: rest, running []⟩,
        [.submitted job.name, .started job.name]) := rfl

end

/-- The first `n` steps, or fewer if the thread comes to its end. -/
def run : Nat → Worker ν α → Worker ν α × List (Event ν α)
  | 0, w => (w, [])
  | n + 1, w =>
    match w.step with
    | none => (w, [])
    | some (w, first) =>
      let (last, later) := run n w
      (last, first ++ later)

/-- One loop is under way above `rest`, and it runs one job at most. -/
def Flat (rest : List (Stage ν α)) (w : Worker ν α) : Prop :=
  w.stack = .driving :: rest ∨ ∃ left, w.stack = .inside left :: .driving :: rest

/-- Steps on the way of which the loop above `rest` is under way. -/
inductive Course (rest : List (Stage ν α)) : Worker ν α → List (Event ν α) → Worker ν α → Prop
  | nil {w : Worker ν α} : Course rest w [] w
  | cons {w w' w'' : Worker ν α} {first later : List (Event ν α)} (hflat : Flat rest w) (h : w.step = some (w', first))
      (course : Course rest w' later w'') : Course rest w (first ++ later) w''

theorem Course.append (course : Course rest w log w') (next : Course rest w' later w'') :
    Course rest w (log ++ later) w'' := by
  induction course with
  | nil => exact next
  | cons hflat h _ ih =>
    rw [List.append_assoc]
    exact .cons hflat h (ih next)

theorem Course.exists_run (course : Course rest w log w') :
    ∃ n, run n w = (w', log) ∧ ∀ k < n, Flat rest (run k w).1 := by
  induction course with
  | nil => exact ⟨0, rfl, by simp⟩
  | cons hflat h _ ih =>
    obtain ⟨n, hrun, hway⟩ := ih
    refine ⟨n + 1, by simp [run, h, hrun], fun k hk => ?_⟩
    cases k with
    | zero => exact hflat
    | succ k =>
      have hstay := hway k (by omega)
      simpa [run, h] using hstay

/-- There is one way to the end. -/
theorem Course.unique {below' : List (Stage ν α)} {w₁ w₂ : Worker ν α} (course : Course rest w log w₁)
    (other : Course below' w later w₂) (h₁ : w₁.step = none) (h₂ : w₂.step = none) : log = later := by
  induction course generalizing later with
  | nil =>
    cases other with
    | nil => rfl
    | cons _ h _ => cases h₁.symm.trans h
  | cons _ h _ ih =>
    cases other with
    | nil => cases h₂.symm.trans h
    | cons _ h' other =>
      obtain ⟨rfl, rfl⟩ := Prod.mk.inj (Option.some.inj (h.symm.trans h'))
      rw [ih other h₁]

/-- A job runs to its end without another one in between. What it submits joins the queue. -/
theorem course_inside (rest : List (Stage ν α)) (queue : List (Task ν α)) (left : Body ν α) :
    Course rest ⟨.inside left :: .driving :: rest, running queue⟩ left.events
      ⟨.driving :: rest, running (queue ++ left.children)⟩ := by
  induction left generalizing queue with
  | done =>
    have h := Course.cons (.inr ⟨_, rfl⟩) (step_done (.driving :: rest) (running queue)) .nil
    simpa [Body.events, Body.children] using h
  | act a left ih => exact Course.cons (.inr ⟨_, rfl⟩) (step_act _ _ a left) (ih queue)
  | submit name body left _ ih =>
    have h := Course.cons (.inr ⟨_, rfl⟩) (step_submit_running _ queue ⟨name, body⟩ left) (ih _)
    simpa [Body.events, Body.children] using h

/-- Jobs at the head of the queue run one after the other, and what they submit ends up behind the rest of it. -/
theorem course_jobs (rest : List (Stage ν α)) (jobs queue : List (Task ν α)) :
    Course rest ⟨.driving :: rest, running (jobs ++ queue)⟩ (jobs.flatMap Task.events)
      ⟨.driving :: rest, running (queue ++ jobs.flatMap fun job => job.body.children)⟩ := by
  induction jobs generalizing queue with
  | nil => simpa using Course.nil
  | cons job jobs ih =>
    have hjob := course_inside rest (jobs ++ queue) job.body
    have hothers := ih (queue ++ job.body.children)
    rw [List.append_assoc] at hjob
    have h := Course.cons (.inl rfl) (step_driving_cons rest _ job) (hjob.append hothers)
    simpa [Task.events] using h

/-- The loop works off level after level, and then it is over. -/
theorem course_levels (rest : List (Stage ν α)) (h : ∀ job ∈ jobs, job.body.height < n) :
    Course rest ⟨.driving :: rest, running jobs⟩ ((levels n jobs).flatMap Task.events) ⟨rest, idle⟩ := by
  induction n generalizing jobs with
  | zero =>
    obtain rfl : jobs = [] := List.eq_nil_iff_forall_not_mem.2 fun job hjob => Nat.not_lt_zero _ (h job hjob)
    exact Course.cons (.inl rfl) (step_driving_nil rest) .nil
  | succ n ih =>
    have hlevel := course_jobs rest jobs []
    rw [List.append_nil, List.nil_append] at hlevel
    rw [levels, List.flatMap_append]
    exact hlevel.append (ih (height_children h))

/-- A loop that has just begun with `root` comes back once the whole tree is worked off. -/
theorem course_root (rest : List (Stage ν α)) (root : Task ν α) :
    ∃ log, Course rest ⟨.inside root.body :: .driving :: rest, running []⟩ log ⟨rest, idle⟩ ∧
      .started root.name :: log = root.breadthFirst.flatMap Task.events := by
  have hheight : ∀ job ∈ root.body.children, job.body.height < root.body.height := fun _ => Body.height_lt_of_mem
  have hbelow := course_levels rest hheight
  refine ⟨_, (course_inside rest [] root.body).append hbelow, ?_⟩
  simp [Task.breadthFirst, levels, Task.events]

/-- A call that submits `root` while no loop is under way runs every job of its tree once, level by level and in the
order in which they were submitted. None starts before the one before it has returned, and one loop does it all, however
high the tree is. The call comes back after the last job, and no loop is under way then. -/
theorem jobs_breadth_first (root : Task ν α) (left : Body ν α) (below : List (Stage ν α)) :
    ∃ n log, run n ⟨.inside (.submit root.name root.body left) :: below, idle⟩
        = (⟨.inside left :: below, idle⟩, .submitted root.name :: log) ∧
      log = root.breadthFirst.flatMap Task.events ∧
      root.breadthFirst.Perm root.all ∧
      log.filterMap Event.started? = root.name :: log.filterMap Event.submitted? ∧
      ∀ k, 0 < k → k < n → Flat (.inside left :: below)
        (run k ⟨.inside (.submit root.name root.body left) :: below, idle⟩).1 := by
  obtain ⟨log, hcourse, hlog⟩ := course_root (.inside left :: below) root
  obtain ⟨n, hrun, hway⟩ := hcourse.exists_run
  have hheight : ∀ job ∈ [root], job.body.height < root.body.height + 1 := by simp
  refine ⟨n + 1, .started root.name :: log, ?_, hlog, ?_, ?_, ?_⟩
  · simp [run, step_submit_idle, hrun]
  · have hall := levels_perm hheight
    rwa [List.flatMap_singleton] at hall
  · rw [hlog, started_flatMap, submitted_flatMap]
    exact congrArg (List.map Task.name) (levels_eq_append hheight)
  · intro k hpos hk
    obtain ⟨k, rfl⟩ := Nat.exists_eq_add_of_lt hpos
    rw [Nat.zero_add]
    have hflat := hway k (by omega)
    simpa [run, step_submit_idle] using hflat

/-- The first child submits a job of its own, which has to wait until the second child has run. -/
example :
    let root : Body Nat Unit := .submit 1 (.submit 3 .done .done) (.act () (.submit 2 .done .done))
    (run 20 ⟨[.inside (.submit 0 root .done)], idle⟩).2.filterMap Event.started? = [0, 1, 2, 3] := rfl

end Worker

end Outflow.Deferral
