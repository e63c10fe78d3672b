import Outflow.Proofs.BreadthFirst
import Outflow.Proofs.Locality

/-! The writes that a thread of a system defers are jobs that its loop runs. Whatever foreign code does meanwhile, they
go to the transport one after another, in the order of a tree that is worked off level by level. -/
namespace Outflow

/-- The frames by which a loop goes on. -/
def Frame.isOfLoop : Frame → Bool
  | inTransport _ | driving | carrying _ => true
  | _ => false

def Handed.job? : Handed → Option Job
  | chain write flight => some { write, flight }
  | trip _ | stray _ => none

namespace System

variable {s s' : System} {moves : List Move} {m first : Move} {t : ThreadId} {root : Job} {below : List Frame}
  {th : Thread} {w : Deferral.Worker Job Action}

/-- The write of a chain that goes to the transport. -/
def Move.launched? (m : Move) : Option Job :=
  match m.signal with
  | some (.handed w) => (m.after.outstanding.find? w).bind Handed.job?
  | _ => none

/-- What is seen of the jobs of thread `t`. A job hands its write to the transport, and it is over when the transport
returns to the loop. All that the thread does before are acts of the job, unless a write is submitted. -/
def Move.jobEvents (t : ThreadId) (m : Move) : List (Deferral.Event Job Action) :=
  if m.action.thread = some t then
    match (m.before.thread t).stack, m.action with
    | .carrying job :: _, _ => .submitted job :: (m.launched?.map .started).toList
    | .driving :: _, _ => (m.launched?.map .started).toList
    | .inTransport _ :: .driving :: _, .resume _ => [.returned]
    | _, a => [.acted a]
  else []

/-- What a thread can do in a step of its own. All cases but the last two concern its loop. -/
inductive OwnStep (t : ThreadId) (m : Move) : Prop
  | begun {job : Job} {rest : List Frame} {w : WriteId}
      (hbefore : m.before.thread t = { stack := .carrying job :: rest })
      (hafter : m.after.thread t = { stack := .inTransport w :: .driving :: rest, deferral := .running [] })
      (hlaunched : m.launched? = some job)
  | deferred {job : Job} {rest : List Frame} {queue : List Job}
      (hbefore : m.before.thread t = { stack := .carrying job :: rest, deferral := .running queue })
      (hafter : m.after.thread t = { stack := rest, deferral := .running (queue ++ [job]) })
      (hlaunched : m.launched? = none)
  | next {job : Job} {rest : List Frame} {queue : List Job} {w : WriteId}
      (hbefore : m.before.thread t = { stack := .driving :: rest, deferral := .running (job :: queue) })
      (hafter : m.after.thread t = { stack := .inTransport w :: .driving :: rest, deferral := .running queue })
      (hlaunched : m.launched? = some job)
  | ended {rest : List Frame} (hst : (m.before.thread t).stack = .driving :: rest)
      (hwaiting : (m.before.thread t).deferral.waiting = []) (hafter : m.after.thread t = { stack := rest })
      (hlaunched : m.launched? = none)
  | returned {w : WriteId} {rest : List Frame} (ha : m.action = .resume t)
      (hst : (m.before.thread t).stack = .inTransport w :: rest)
      (hafter : m.after.thread t = ⟨rest, (m.before.thread t).deferral⟩)
  | pushed (frames : List Frame) (ha : m.action ≠ .resume t) (hout : (m.before.thread t).isOutside = true)
      (hafter : m.after.thread t = ⟨frames ++ (m.before.thread t).stack, (m.before.thread t).deferral⟩)
      (hframes : ∀ f ∈ frames, f.isDriving = false)
  | replaced {frame : Frame} {rest : List Frame} (frames : List Frame)
      (hst : (m.before.thread t).stack = frame :: rest) (hframe : frame.isOfLoop = false)
      (hafter : m.after.thread t = ⟨frames ++ rest, (m.before.thread t).deferral⟩)
      (hframes : ∀ f ∈ frames, f.isDriving = false)

theorem launched?_launch {a : Action} (s : System) (t : ThreadId) (rest : List Frame) (queue : List Job) (job : Job) :
    Move.launched? ⟨s, a, s.launch t rest queue job, some (.handed s.nextWrite)⟩ = some job := by
  simp [Move.launched?, Table.find?_set, Handed.job?]

theorem thread_begin_self (s : System) (t : ThreadId) (starter : Starter) (g : Guard) (store : Store) (write : Write) :
    (s.begin t starter g store write).thread t
      = { s.thread t with
          stack := .carrying { write, flight := { guard := g, marker := s.markers.fresh.2 } }
            :: .issuing s.markers.fresh.2 starter :: (s.thread t).stack } := by
  simp [begin]

theorem own_step {a : Action} {sig : Option Signal} (h : Step s a s' sig) (ha : a.thread = some t) :
    OwnStep t ⟨s, a, s', sig⟩ := by
  cases h with
  | carried hst hd =>
    obtain rfl := Option.some.inj ha
    exact .begun (by rw [← hst, ← hd]) (thread_launch_self _ _ _ _ _) (launched?_launch _ _ _ _ _)
  | deferred hst hd =>
    obtain rfl := Option.some.inj ha
    exact .deferred (by rw [← hst, ← hd]) (by rw [thread_setThread, if_pos rfl]) rfl
  | driven hst hd =>
    obtain rfl := Option.some.inj ha
    exact .next (by rw [← hst, ← hd]) (thread_launch_self _ _ _ _ _) (launched?_launch _ _ _ _ _)
  | driveDone hst hd =>
    obtain rfl := Option.some.inj ha
    exact .ended hst hd (by rw [thread_setThread, if_pos rfl]) rfl
  | transportReturned hst =>
    obtain rfl := Option.some.inj ha
    exact .returned rfl hst (thread_setStack_self _ _ _)
  | addNothing hout _ | addRefused hout _ _ | addQueued hout _ _ _ _ | flushRefused hout _ | flushHeld hout _ _
  | flushNothing hout _ _ _ | registered hout _ | reset hout | recycle hout | strayEnded hout _ | tripEnded hout _
  | chainStale hout _ _ | chainQuiet hout _ _ =>
    obtain rfl := Option.some.inj ha
    exact .pushed [] (by simp) hout rfl (by simp)
  | addBlocking hout _ _ | addGranted hout _ _ _ | addFull hout _ _ _ _ | flushAwaits hout _ _
  | flushCollects hout _ _ | chainTold hout _ _ | chainGoesOn hout _ _ | chainFailed hout _ _ =>
    obtain rfl := Option.some.inj ha
    exact .pushed [_] (by simp) hout (thread_push_self _ _ _) (by simp [Frame.isDriving])
  | registeredFree hout _ =>
    obtain rfl := Option.some.inj ha
    exact .pushed [.telling .writable, .answering .done] (by simp) hout (by simp) (by simp [Frame.isDriving])
  | flushBegun hout _ _ _ =>
    obtain rfl := Option.some.inj ha
    exact .pushed [_, _] (by simp) hout (thread_begin_self _ _ _ _ _ _) (by simp [Frame.isDriving])
  | @started t rest starter g store write hst htake =>
    obtain rfl := Option.some.inj ha
    have hafter := thread_begin_self (s.setStack t rest) t starter g store write
    rw [thread_setStack_self] at hafter
    exact .replaced [_, _] hst rfl hafter (by simp [Frame.isDriving])
  | @tripBegun t rest buf sweep hst hbuf =>
    obtain rfl := Option.some.inj ha
    have hafter := thread_handOver_self (s.setStack t (.awaitingReply s.nextWrite sweep :: rest)) t (.trip buf)
    rw [thread_setStack_self] at hafter
    exact .replaced [_, _] hst rfl hafter (by simp [Frame.isDriving])
  | answered hst | issued hst | startedNothing hst _ | addDone hst _ | refused hst | collectedLate hst _
  | roomExpired hst _ | sweptFlush hst _ _ _ | tripDropped hst _ | tripFailed hst _ _ | tripExpired hst _
  | notified hst =>
    obtain rfl := Option.some.inj ha
    exact .replaced [] hst rfl (thread_setStack_self s _ _) (by simp)
  | absorbed hst _ _ | filledBehind hst _ _ _ | filled hst _ _ _ | roomMade hst _ | admittedLate hst _ | admitted hst _
  | chainAwaited hst _ | yielded hst | collected hst _ | sweptChunk hst _ | sweptPrimary hst _ _ | sweptAdd hst _ _ _
  | tripsDone hst _ | tripDone hst _ _ | chainExpired hst _ | attached hst | told hst | toldFailure hst =>
    obtain rfl := Option.some.inj ha
    exact .replaced [_] hst rfl (thread_setStack_self s _ _) (by simp [Frame.isDriving])
  | strayForgotten _ | tripForgotten _ | chainForgotten _ | transportPending => cases ha

theorem Move.jobEvents_carrying {rest : List Frame} (ha : m.action.thread = some t)
    (hst : (m.before.thread t).stack = .carrying root :: rest) :
    m.jobEvents t = .submitted root :: (m.launched?.map .started).toList := by
  simp [jobEvents, ha, hst]

theorem Move.jobEvents_driving {rest : List Frame} (ha : m.action.thread = some t)
    (hst : (m.before.thread t).stack = .driving :: rest) : m.jobEvents t = (m.launched?.map .started).toList := by
  simp [jobEvents, ha, hst]

/-- The way back to the loop apart, what a thread does above it is an act. -/
theorem Move.jobEvents_above {frame : Frame} {rest : List Frame} (ha : m.action.thread = some t)
    (hst : (m.before.thread t).stack = frame :: rest) (hdriving : frame ≠ .driving)
    (hcarrying : ∀ job, frame ≠ .carrying job)
    (hback : m.action = .resume t → ∀ w below, frame :: rest ≠ .inTransport w :: .driving :: below) :
    m.jobEvents t = [.acted m.action] := by
  simp only [jobEvents, ha, if_true]
  split
  · next job _ hst' => exact absurd (List.cons.inj (hst.symm.trans hst')).1 (hcarrying job)
  · next hst' => exact absurd (List.cons.inj (hst.symm.trans hst')).1 hdriving
  · next u hst' hresume =>
    rw [hresume] at ha
    obtain rfl := Option.some.inj ha
    exact absurd (hst.symm.trans hst') (hback hresume _ _)
  · rfl

theorem Move.jobEvents_of_not_isOfLoop {frame : Frame} {rest : List Frame} (ha : m.action.thread = some t)
    (hst : (m.before.thread t).stack = frame :: rest) (hframe : frame.isOfLoop = false) :
    m.jobEvents t = [.acted m.action] := by
  refine Move.jobEvents_above ha hst ?_ ?_ ?_
  · rintro rfl
    cases hframe
  · rintro job rfl
    cases hframe
  · intro _ w below heq
    obtain rfl := (List.cons.inj heq).1
    cases hframe

theorem Move.jobEvents_of_isOutside (ha : m.action.thread = some t) (hresume : m.action ≠ .resume t)
    (hout : (m.before.thread t).isOutside = true) (hne : (m.before.thread t).stack ≠ []) :
    m.jobEvents t = [.acted m.action] := by
  obtain ⟨frame, rest, hst⟩ := List.exists_cons_of_ne_nil hne
  rw [Thread.isOutside, hst] at hout
  refine Move.jobEvents_above ha hst ?_ ?_ fun h => absurd h hresume
  · rintro rfl
    cases hout
  · rintro job rfl
    cases hout

/-! ### One step above a loop -/

/-- A loop above `below` is under way: it is between two writes, or the transport has one of them, and whatever is above
does not loop itself. -/
inductive Looping (below : List Frame) : Thread → Prop
  | between (queue : List Job) : Looping below ⟨.driving :: below, .running queue⟩
  | inside (above : List Frame) (w : WriteId) (queue : List Job) (habove : ∀ f ∈ above, f.isDriving = false) :
      Looping below ⟨above ++ .inTransport w :: .driving :: below, .running queue⟩

/-- What a thread can do then. -/
inductive LoopStep (below : List Frame) (t : ThreadId) (m : Move) : Prop
  | next {job : Job} {queue : List Job} {w : WriteId}
      (hbefore : m.before.thread t = ⟨.driving :: below, .running (job :: queue)⟩)
      (hafter : m.after.thread t = ⟨.inTransport w :: .driving :: below, .running queue⟩)
      (hevents : m.jobEvents t = [.started job])
  | ended (hbefore : m.before.thread t = ⟨.driving :: below, .running []⟩)
      (hafter : m.after.thread t = { stack := below }) (hevents : m.jobEvents t = [])
  | returned {w : WriteId} {queue : List Job}
      (hbefore : m.before.thread t = ⟨.inTransport w :: .driving :: below, .running queue⟩)
      (hafter : m.after.thread t = ⟨.driving :: below, .running queue⟩) (hevents : m.jobEvents t = [.returned])
  | submitted {job : Job} {above : List Frame} {w : WriteId} {queue : List Job}
      (hbefore : m.before.thread t = ⟨.carrying job :: above ++ .inTransport w :: .driving :: below, .running queue⟩)
      (hafter : m.after.thread t = ⟨above ++ .inTransport w :: .driving :: below, .running (queue ++ [job])⟩)
      (habove : ∀ f ∈ above, f.isDriving = false) (hevents : m.jobEvents t = [.submitted job])
  | acted {above later : List Frame} {w : WriteId} {queue : List Job}
      (hbefore : m.before.thread t = ⟨above ++ .inTransport w :: .driving :: below, .running queue⟩)
      (hafter : m.after.thread t = ⟨later ++ .inTransport w :: .driving :: below, .running queue⟩)
      (hlater : ∀ f ∈ later, f.isDriving = false) (hevents : m.jobEvents t = [.acted m.action])

/-- Between two writes the loop takes the next one, or it is over. -/
theorem loop_step_between {queue : List Job} (hown : OwnStep t m) (ha : m.action.thread = some t)
    (hbefore : m.before.thread t = ⟨.driving :: below, .running queue⟩) : LoopStep below t m := by
  have hstack : (m.before.thread t).stack = .driving :: below := by rw [hbefore]
  have hevents := Move.jobEvents_driving ha hstack
  cases hown with
  | begun hbefore' | deferred hbefore' => simp [hbefore'] at hstack
  | @next job rest queue' v hbefore' hafter hlaunched =>
    obtain ⟨rfl, rfl⟩ : rest = below ∧ job :: queue' = queue := by simpa [hbefore'] using hbefore
    rw [hlaunched] at hevents
    exact .next hbefore hafter hevents
  | @ended rest hst hwaiting hafter hlaunched =>
    obtain rfl : rest = below := by simpa [hst] using hstack
    obtain rfl : queue = [] := by simpa [hbefore] using hwaiting
    rw [hlaunched] at hevents
    exact .ended hbefore hafter hevents
  | returned _ hst => simp [hst] at hstack
  | pushed _ _ hout => simp [Thread.isOutside, hstack, Frame.isForeign] at hout
  | @replaced frame rest frames hst hframe =>
    obtain rfl : frame = .driving := (List.cons.inj (hst.symm.trans hstack)).1
    cases hframe

theorem not_driving_of_above {above rest : List Frame} {w : WriteId}
    (habove : ∀ f ∈ above, f.isDriving = false) : .driving :: rest ≠ above ++ .inTransport w :: .driving :: below := by
  intro heq
  cases above with
  | nil => cases heq
  | cons f above =>
    obtain rfl := (List.cons.inj heq).1
    cases habove _ List.mem_cons_self

/-- Above the loop a thread submits a write, returns to the loop, or does something else. -/
theorem loop_step_inside {above : List Frame} {u : WriteId} {queue : List Job} (hown : OwnStep t m)
    (ha : m.action.thread = some t)
    (hbefore : m.before.thread t = ⟨above ++ .inTransport u :: .driving :: below, .running queue⟩)
    (habove : ∀ f ∈ above, f.isDriving = false) : LoopStep below t m := by
  have hstack : (m.before.thread t).stack = above ++ .inTransport u :: .driving :: below := by rw [hbefore]
  have hdeferral : (m.before.thread t).deferral = .running queue := by rw [hbefore]
  have htail : ∀ f ∈ above.tail, f.isDriving = false := fun f hf => habove f (List.mem_of_mem_tail hf)
  cases hown with
  | begun hbefore' => simp [hbefore'] at hdeferral
  | @deferred job rest queue' hbefore' hafter hlaunched =>
    have hcarrying : (m.before.thread t).stack = .carrying job :: rest := by rw [hbefore']
    have hevents := Move.jobEvents_carrying ha hcarrying
    rw [hlaunched] at hevents
    obtain rfl : queue' = queue := by simpa [hbefore'] using hdeferral
    rw [hbefore'] at hstack
    cases above with
    | nil => cases hstack
    | cons f above =>
      obtain ⟨rfl, rfl⟩ := List.cons.inj hstack
      exact .submitted hbefore hafter htail hevents
  | next hbefore' =>
    rw [hbefore'] at hstack
    exact absurd hstack (not_driving_of_above habove)
  | ended hst => exact absurd (hst.symm.trans hstack) (not_driving_of_above habove)
  | @returned v rest hresume hst hafter =>
    rw [hdeferral] at hafter
    cases above with
    | nil =>
      obtain ⟨-, rfl⟩ := List.cons.inj (hst.symm.trans hstack)
      exact .returned hbefore hafter (by simp [Move.jobEvents, hst, hresume, Action.thread])
    | cons f above =>
      obtain ⟨rfl, rfl⟩ := List.cons.inj (hst.symm.trans hstack)
      -- A blocking call that is made above the loop has a round trip of its own.
      refine .acted hbefore hafter htail (Move.jobEvents_above ha hst (by simp) (by simp) fun _ w below' heq => ?_)
      exact not_driving_of_above htail (List.cons.inj heq).2.symm
  | pushed frames hresume hout hafter hframes =>
    rw [hdeferral, hstack, ← List.append_assoc] at hafter
    have hevents := Move.jobEvents_of_isOutside ha hresume hout (by simp [hstack])
    exact .acted hbefore hafter (List.forall_mem_append.2 ⟨hframes, habove⟩) hevents
  | @replaced frame rest frames hst hframe hafter hframes =>
    rw [hdeferral] at hafter
    have hevents := Move.jobEvents_of_not_isOfLoop ha hst hframe
    cases above with
    | nil =>
      obtain rfl := (List.cons.inj (hst.symm.trans hstack)).1
      cases hframe
    | cons f above =>
      obtain rfl : rest = above ++ .inTransport u :: .driving :: below := (List.cons.inj (hst.symm.trans hstack)).2
      rw [← List.append_assoc] at hafter
      exact .acted hbefore hafter (List.forall_mem_append.2 ⟨hframes, htail⟩) hevents

theorem loop_step (hown : OwnStep t m) (ha : m.action.thread = some t) (hloop : Looping below (m.before.thread t)) :
    LoopStep below t m := by
  generalize hbefore : m.before.thread t = th at hloop
  cases hloop with
  | between queue => exact loop_step_between hown ha hbefore
  | inside above u queue habove => exact loop_step_inside hown ha hbefore habove

/-- A loop that is under way goes on, or it is over. -/
theorem LoopStep.looping (h : LoopStep below t m) :
    Looping below (m.after.thread t) ∨ m.after.thread t = { stack := below } := by
  cases h with
  | next _ hafter => exact .inl (hafter ▸ .inside [] _ _ (by simp))
  | ended _ hafter => exact .inr hafter
  | returned _ hafter => exact .inl (hafter ▸ .between _)
  | submitted _ hafter habove => exact .inl (hafter ▸ .inside _ _ _ habove)
  | acted _ hafter hlater => exact .inl (hafter ▸ .inside _ _ _ hlater)

/-! ### The loop as a loop over jobs -/

/-- A thread and one that runs jobs are at the same point of their loops, or behind these. The jobs in the queue are the
writes that wait, and of the job that is running the rest is ahead. -/
inductive Mirrors (below : List Frame) : Thread → Deferral.Worker Job Action → Prop
  | between (queue : List (Deferral.Task Job Action)) :
      Mirrors below ⟨.driving :: below, .running (queue.map Deferral.Task.name)⟩ ⟨[.driving], .running queue⟩
  | inside (above : List Frame) (w : WriteId) (left : Deferral.Body Job Action)
      (queue : List (Deferral.Task Job Action)) :
      Mirrors below ⟨above ++ .inTransport w :: .driving :: below, .running (queue.map Deferral.Task.name)⟩
        ⟨[.inside left, .driving], .running queue⟩
  | ended : Mirrors below { stack := below } ⟨[], .idle⟩

theorem Mirrors.eq_between {queue : List Job} (h : Mirrors below ⟨.driving :: below, .running queue⟩ w) :
    ∃ tasks, tasks.map Deferral.Task.name = queue ∧ w = ⟨[.driving], .running tasks⟩ := by
  generalize hth : (⟨.driving :: below, .running queue⟩ : Thread) = th at h
  cases h with
  | between tasks => exact ⟨tasks, by simpa using hth.symm, rfl⟩
  | inside above v left tasks =>
    have hlength := congrArg (fun th : Thread => th.stack.length) hth
    simp only [List.length_append, List.length_cons] at hlength
    omega
  | ended => cases hth

theorem Mirrors.eq_inside (above : List Frame) {v : WriteId} {queue : List Job}
    (h : Mirrors below ⟨above ++ .inTransport v :: .driving :: below, .running queue⟩ w) :
    ∃ left tasks, tasks.map Deferral.Task.name = queue ∧ w = ⟨[.inside left, .driving], .running tasks⟩ := by
  generalize hth : (⟨above ++ .inTransport v :: .driving :: below, .running queue⟩ : Thread) = th at h
  cases h with
  | between tasks =>
    have hlength := congrArg (fun th : Thread => th.stack.length) hth
    simp only [List.length_append, List.length_cons] at hlength
    omega
  | inside above' v' left tasks => exact ⟨left, tasks, by simpa using (congrArg Thread.deferral hth).symm, rfl⟩
  | ended => cases congrArg Thread.deferral hth

theorem Mirrors.eq_ended (h : Mirrors below { stack := below } w) : w = ⟨[], .idle⟩ := by
  generalize hth : ({ stack := below } : Thread) = th at h
  cases h with
  | between | inside => cases congrArg Thread.deferral hth
  | ended => rfl

/-- Backwards along a step the body of a job becomes known: the job that is running did one thing more before. -/
theorem LoopStep.exists_mirror (h : LoopStep below t m) (hmirror : Mirrors below (m.after.thread t) w) :
    ∃ v, Mirrors below (m.before.thread t) v ∧ v.Flat [] ∧ v.step = some (w, m.jobEvents t) := by
  cases h with
  | @next job queue u hbefore hafter hevents =>
    rw [hafter] at hmirror
    obtain ⟨left, tasks, rfl, rfl⟩ := hmirror.eq_inside []
    rw [hevents, hbefore]
    exact ⟨_, .between (⟨job, left⟩ :: tasks), .inl rfl, rfl⟩
  | ended hbefore hafter hevents =>
    rw [hafter] at hmirror
    obtain rfl := hmirror.eq_ended
    rw [hevents, hbefore]
    exact ⟨_, .between [], .inl rfl, rfl⟩
  | @returned u queue hbefore hafter hevents =>
    rw [hafter] at hmirror
    obtain ⟨tasks, rfl, rfl⟩ := hmirror.eq_between
    rw [hevents, hbefore]
    exact ⟨_, .inside [] u .done tasks, .inr ⟨_, rfl⟩, rfl⟩
  | @submitted job above u queue hbefore hafter habove hevents =>
    rw [hafter] at hmirror
    obtain ⟨left, tasks, htasks, rfl⟩ := hmirror.eq_inside _
    obtain ⟨tasks, last, rfl, rfl, hlast⟩ := List.map_eq_append_iff.1 htasks
    obtain ⟨⟨name, body⟩, rfl, rfl⟩ := List.map_eq_singleton_iff.1 hlast
    rw [hevents, hbefore]
    exact ⟨_, .inside _ u (.submit name body left) tasks, .inr ⟨_, rfl⟩, rfl⟩
  | @acted above later u queue hbefore hafter hlater hevents =>
    rw [hafter] at hmirror
    obtain ⟨left, tasks, rfl, rfl⟩ := hmirror.eq_inside _
    rw [hevents, hbefore]
    exact ⟨_, .inside _ u (.act m.action left) tasks, .inr ⟨_, rfl⟩, rfl⟩

/-! ### Runs of a loop -/

theorem Move.jobEvents_elsewhere (hother : m.action.thread ≠ some t) : m.jobEvents t = [] := if_neg hother

theorem Looping.stack_ne (h : Looping below th) : th.stack ≠ below := by
  intro heq
  have hlength := congrArg List.length heq
  cases h with
  | between => simp at hlength
  | inside above =>
    simp only [List.length_append, List.length_cons] at hlength
    omega

/-- Whatever the other threads do meanwhile, a loop that comes back was one over jobs. -/
theorem exists_course (run : Run s moves s') (hloop : Looping below (s.thread t))
    (hway : ∀ m ∈ moves, (m.before.thread t).stack ≠ below) (hend : (s'.thread t).stack = below) :
    s'.thread t = { stack := below } ∧
      ∃ w, Mirrors below (s.thread t) w ∧ w.Course [] (moves.flatMap (Move.jobEvents t)) ⟨[], .idle⟩ := by
  -- What a job does is known once it is over, so that its body is put together from the end.
  induction moves generalizing s with
  | nil =>
    obtain rfl := run.eq_start
    exact absurd hend hloop.stack_ne
  | cons m moves ih =>
    obtain ⟨rfl, hperform, run⟩ := run.uncons
    rw [List.forall_mem_cons] at hway
    have hstep := step_perform hperform
    by_cases ha : m.action.thread = some t
    · have hmove := loop_step (own_step hstep ha) ha hloop
      rcases hmove.looping with hloop | hover
      · obtain ⟨hlast, w, hmirror, hcourse⟩ := ih run hloop hway.2
        obtain ⟨v, hmirror, hflat, hv⟩ := hmove.exists_mirror hmirror
        exact ⟨hlast, v, hmirror, .cons hflat hv hcourse⟩
      · -- The loop is over, so that this was the last move.
        cases moves with
        | nil =>
          obtain rfl := run.eq_start
          have hmirror : Mirrors below (m.after.thread t) ⟨[], .idle⟩ := hover ▸ .ended
          obtain ⟨v, hmirror, hflat, hv⟩ := hmove.exists_mirror hmirror
          exact ⟨hover, v, hmirror, .cons hflat hv .nil⟩
        | cons next moves =>
          obtain ⟨hnext, -⟩ := run.uncons
          refine absurd ?_ (hway.2 next List.mem_cons_self)
          rw [hnext, hover]
    · rw [List.flatMap_cons, Move.jobEvents_elsewhere ha, List.nil_append, ← thread_step hstep ha]
      rw [← thread_step hstep ha] at hloop
      exact ih run hloop hway.2

/-- A write that a thread takes to the transport while no loop is under way, and all that are submitted by the time the
thread is back, go there in the order of a tree of jobs that is worked off level by level, each one after the one before
it has returned. No queue is left. -/
theorem deferred_breadth_first (run : Run s (first :: moves) s') (ha : first.action.thread = some t)
    (hth : s.thread t = { stack := .carrying root :: below })
    (hway : ∀ m ∈ moves, (m.before.thread t).stack ≠ below) (hend : (s'.thread t).stack = below) :
    (s'.thread t).deferral = .idle ∧
    ∃ body, (first :: moves).flatMap (Move.jobEvents t)
      = .submitted root :: (Deferral.Task.breadthFirst ⟨root, body⟩).flatMap Deferral.Task.events := by
  obtain ⟨rfl, hperform, run⟩ := run.uncons
  have hown := own_step (step_perform hperform) ha
  have hstack : (first.before.thread t).stack = .carrying root :: below := by rw [hth]
  have hevents := Move.jobEvents_carrying ha hstack
  cases hown with
  | @begun job rest w hbefore hafter hlaunched =>
    obtain ⟨rfl, rfl⟩ : job = root ∧ rest = below := by simpa [hbefore] using hstack
    have hloop : Looping rest (first.after.thread t) := hafter ▸ .inside [] w [] (by simp)
    obtain ⟨hlast, v, hmirror, hcourse⟩ := exists_course run hloop hway hend
    rw [hafter] at hmirror
    obtain ⟨body, tasks, htasks, rfl⟩ := hmirror.eq_inside []
    obtain rfl := List.map_eq_nil_iff.1 htasks
    obtain ⟨log, hroot, hlog⟩ := Deferral.Worker.course_root [] ⟨job, body⟩
    refine ⟨by rw [hlast], body, ?_⟩
    rw [List.flatMap_cons, hevents, hlaunched, ← hlog, hcourse.unique hroot rfl rfl]
    rfl
  | deferred hbefore => cases hth.symm.trans hbefore
  | next hbefore => cases hth.symm.trans hbefore
  | ended hst => cases hst.symm.trans hstack
  | returned _ hst => cases hst.symm.trans hstack
  | pushed _ _ hout =>
    rw [Thread.isOutside, hstack] at hout
    cases hout
  | replaced _ hst hframe =>
    obtain rfl := (List.cons.inj (hst.symm.trans hstack)).1
    cases hframe

end System

end Outflow
