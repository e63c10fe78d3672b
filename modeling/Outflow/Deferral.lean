/-!
Jobs of one thread that run one after another instead of inside each other. A job that is submitted while another one
runs waits until that one has returned.
-/

namespace Outflow

/-- Either no job runs on the thread, or one runs and `queue` waits behind it. -/
inductive Deferral (α : Type)
  | idle
  | running (queue : List α)

namespace Deferral

variable {α : Type}

instance : Inhabited (Deferral α) := ⟨idle⟩

def isIdle : Deferral α → Bool
  | idle => true
  | running _ => false

def waiting : Deferral α → List α
  | idle => []
  | running queue => queue

/-- Gives the job back if it has to run now. -/
def submit (job : α) : Deferral α → Deferral α × Option α
  | idle => (running [], some job)
  | running queue => (running (queue ++ [job]), none)

/-- Called when the running job has returned. -/
def next : Deferral α → Deferral α × Option α
  | running (job :: queue) => (running queue, some job)
  | running [] => (idle, none)
  | idle => (idle, none)

end Deferral

end Outflow
