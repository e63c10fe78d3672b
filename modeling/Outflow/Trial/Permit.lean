import Outflow.Permit

/-!
Trials of a permit, whose guards are numbered in the order in which they were granted.
-/

namespace Outflow.Trial.Permit

/-- A wait of no length does not wait. Steps in `during` happen on another thread while a longer one lasts, or after it
if nobody has to wait. -/
inductive Step
  | try
  | acquire (wait : Bool) (during : List Step)
  | drop (guard : Nat)
  | current (guard : Nat)
  | reset
  | unknown

inductive Result
  | nothing
  | granted (number : Nat) (guard : Guard)
  | flag (value : Bool)
  | noSlot
  | unknown
  | acquired (got : Result) (during : List Result)

structure State where
  permit : Outflow.Permit := {}
  guards : List (Option Guard) := []

namespace State

def peek (s : State) (guard : Nat) : Option Guard := s.guards[guard]?.join

def number (s : State) (g : Guard) : Result × State :=
  (.granted s.guards.length g, { s with guards := s.guards ++ [some g] })

/-- Grants the permit without a number for the guard yet. -/
def grant (s : State) : State × Option Guard :=
  match s.permit.tryAcquire with
  | some (permit, g) => ({ s with permit }, some g)
  | none => (s, none)

def numberIfGranted (s : State) : Option Guard → Result × State
  | some g => s.number g
  | none => (.nothing, s)

mutual

def perform (s : State) : Step → Result × State
  | .try =>
    let (s, got) := s.grant
    s.numberIfGranted got
  | .acquire wait during =>
    let (s, got) := s.grant
    if during.isEmpty then s.numberIfGranted got
    else
      let (s, got, results) := s.meanwhile wait got during
      let (got, s) := s.numberIfGranted got
      (.acquired got results, s)
  | .drop guard =>
    match s.peek guard with
    | some g => (.flag true, { permit := s.permit.release g, guards := s.guards.set guard none })
    | none => (.flag false, s)
  | .current guard =>
    match s.peek guard with
    | some g => (.flag (s.permit.isCurrent g), s)
    | none => (.noSlot, s)
  | .reset => (.nothing, { s with permit := s.permit.reset })
  | .unknown => (.unknown, s)

/-- Steps on another thread. One that waits for the permit meanwhile gets it as soon as it is free. -/
def meanwhile (s : State) (wait : Bool) (got : Option Guard) : List Step → State × Option Guard × List Result
  | [] => (s, got, [])
  | step :: steps =>
    let (result, s) := s.perform step
    let (s, got) := if wait && got.isNone then s.grant else (s, got)
    let (s, got, results) := s.meanwhile wait got steps
    (s, got, result :: results)

end

end State

/-- Each step with its result and the permit after it. -/
def run (s : State) : List Step → List (Result × Outflow.Permit)
  | [] => []
  | step :: steps =>
    let (result, s) := s.perform step
    (result, s.permit) :: run s steps

end Outflow.Trial.Permit
