import Outflow.Config

/-!
Trials of settings. A setting that is refused leaves the others as they were.
-/

namespace Outflow.Trial.Config

inductive Step
  | bufferSize (size : Nat)
  | timeout (secs nanos : Nat)
  | maxBuffered (limit : Option Nat)
  | get

def perform (c : Outflow.Config) : Step → Except Fault Outflow.Config
  | .bufferSize size => c.withBufferSize size
  | .timeout secs nanos => do
    let timeout ← Duration.make secs nanos
    return { c with timeout }
  | .maxBuffered limit => .ok { c with maxBuffered := limit }
  | .get => .ok c

/-- The settings after each step, and why it was refused if it was. -/
def run (c : Outflow.Config) : List Step → List (Outflow.Config × Option Fault)
  | [] => []
  | step :: steps =>
    match perform c step with
    | .ok c => (c, none) :: run c steps
    | .error f => (c, some f) :: run c steps

end Outflow.Trial.Config
