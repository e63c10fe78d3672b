import Outflow.Error

/-!
Trials of failures, which go back and forth between those of a connection and those of a transport.
-/

namespace Outflow.Trial.Error

inductive Value
  | error (err : Outflow.Error)
  | io (err : IoError)

inductive Step
  | toIo
  | ofIo
  | other
  | copy
  | event
  | unknown

/-- What there is to say about a step beside the value. -/
inductive Remark
  | skipped
  | event (error writable : Bool)

def perform : Value → Step → Value × Option Remark
  | .error err, .toIo => (.io err.toIo, none)
  | .io err, .ofIo => (.error (.ofIo err), none)
  | .error err, .other => (.error (.ofError err), none)
  | .io err, .other => (.error (.ofIo err), none)
  | .error err, .copy => (.error err, none)
  | .error err, .event => (.error err, some (.event (Event.error err).isError Event.writable.isError))
  | value, _ => (value, some .skipped)

/-- The value after each step. -/
def run (value : Value) : List Step → List (Value × Option Remark)
  | [] => []
  | step :: steps =>
    let (value, remark) := perform value step
    (value, remark) :: run value steps

end Outflow.Trial.Error
