import Outflow.Marker

/-!
Trials of markers. Several numbers can stand for one marker. Guards are numbered in the order of entry.
-/

namespace Outflow.Trial.Marker

/-- With `elsewhere` it is done by a thread that is used for nothing else. -/
inductive Step
  | new
  | share (marker : Nat)
  | enter (marker : Nat) (elsewhere : Bool)
  | exit (guard : Nat)
  | isInline (marker : Nat) (elsewhere : Bool)
  | unknown

inductive Result
  | number (value : Nat)
  | flag (value : Bool)
  | noSlot
  | unknown

/-- Thread 0 is the one that does what is not done elsewhere. -/
structure State where
  markers : Markers := {}
  numbered : List MarkerId := []
  guards : List (Option MarkerId) := []
  nextThread : ThreadId := 1

namespace State

def thread (s : State) (elsewhere : Bool) : State × ThreadId :=
  if elsewhere then ({ s with nextThread := s.nextThread + 1 }, s.nextThread) else (s, 0)

def number (s : State) (m : MarkerId) : Result × State :=
  (.number s.numbered.length, { s with numbered := s.numbered ++ [m] })

/-- Which of the numbered markers the first thread is inside of. -/
def inline (s : State) : List Bool := s.numbered.map fun m => s.markers.isInline m 0

end State

def perform (s : State) : Step → Result × State
  | .new =>
    let (markers, m) := s.markers.fresh
    { s with markers }.number m
  | .share marker =>
    match s.numbered[marker]? with
    | some m => s.number m
    | none => (.noSlot, s)
  | .enter marker elsewhere =>
    match s.numbered[marker]? with
    | none => (.noSlot, s)
    | some m =>
      let (s, t) := s.thread elsewhere
      (.number s.guards.length, { s with markers := s.markers.enter m t, guards := s.guards ++ [some m] })
  | .exit guard =>
    match s.guards[guard]?.join with
    | some m => (.flag true, { s with markers := s.markers.exit m, guards := s.guards.set guard none })
    | none => (.flag false, s)
  | .isInline marker elsewhere =>
    match s.numbered[marker]? with
    | none => (.noSlot, s)
    | some m =>
      let (s, t) := s.thread elsewhere
      (.flag (s.markers.isInline m t), s)
  | .unknown => (.unknown, s)

/-- Each step with its result and the markers that the first thread is inside of after it. -/
def run (s : State) : List Step → List (Result × List Bool)
  | [] => []
  | step :: steps =>
    let (result, s) := perform s step
    (result, s.inline) :: run s steps

end Outflow.Trial.Marker
