import Outflow.System.Basic
import Outflow.Transport.Descriptor
import Outflow.Transport.Inline

/-!
Descriptions of what is done with a connection: calls of its producer, how its transport answers, and what is done
from inside the transport and the notifier. The second half is what a run of such a description shows.
-/

namespace Outflow.Scenario

/-- How a write ends. -/
inductive Ending
  | count (count : Int)
  | atMost (count : Int)
  | failure (cause : IoError)
  | all
  | drop
  | park

mutual

/-- Something to do, under the name it was asked for. Steps in `during` happen while the step has to wait, or after it
if it never does. -/
inductive Step
  | mk (name : String) (deed : Deed) (during : List Step)

inductive Deed
  | add (data : Chunk) (mode : Mode) (times : Nat)
  | flush (mode : Mode)
  | registerInterest
  | reset
  | recycle
  | hasData
  | storedError
  | debug
  | config
  | setFallback (cue : Cue)
  | setAuto (auto : Bool)
  | setPending (pending : Bool)
  | complete (ending : Ending) (index : Nat) (elsewhere wait : Bool)
  | drain
  | closePeer
  | read
  | stats
  | unknown

/-- What the transport does with one write: steps before, the ending on this thread or `elsewhere`, steps after. -/
inductive Cue
  | mk (ending : Ending) (elsewhere : Bool) (before after : List Step)

end

def Step.name : Step → String
  | .mk name _ _ => name

def Step.deed : Step → Deed
  | .mk _ deed _ => deed

def Step.during : Step → List Step
  | .mk _ _ during => during

def Cue.ending : Cue → Ending
  | .mk ending _ _ _ => ending

def Cue.elsewhere : Cue → Bool
  | .mk _ elsewhere _ _ => elsewhere

def Cue.before : Cue → List Step
  | .mk _ _ before _ => before

def Cue.after : Cue → List Step
  | .mk _ _ _ after => after

/-- A transport that keeps writes until they are completed, or with `auto` completes them at once. -/
structure Mock where
  auto : Bool := false
  queue : List WriteId := []
  issued : Nat := 0
  gathering : Nat := 0
  inFlight : Nat := 0
  maxInFlight : Nat := 0
  written : Record := {}

/-- The transport under a connection, with what it remembers. -/
inductive Medium
  | scripted (parked : List WriteId) (written : Record)
  | mock (mock : Mock)
  | inline (writer : Writer)
  | descriptor (descriptor : Descriptor) (queue : List WriteId)

structure Setup where
  config : Config
  medium : Medium
  cues : List Cue
  fallback : Cue
  onEvent : List (List Step)
  recording : Bool
  quiet : Bool
  quietOffers : Bool
  steps : List Step

/-- What the mock transport knows of a write before it ends. -/
structure MockWrite where
  buffers : Nat
  bytes : Record

/-- Counts of the transport. -/
structure Stats where
  issued : Nat
  gathering : Nat
  written : Option Record
  mock : Option Mock

/-- The result of a step. -/
inductive Result
  | nothing
  | flag (value : Bool)
  | number (value : Nat)
  | text (value : String)
  | bytes (value : ByteArray)
  | settings (config : Config)
  | failed (err : Error)
  | fault (f : Fault)
  | absent
  | ended (remaining : Nat) (gather : Bool) (mock : Option MockWrite)
  | stats (stats : Stats)
  | unknown
  | during (result : Result) (results : List Result)

/-- What happened during a step. -/
inductive Entry
  | write (write : Write) (timeout : Duration)
  | offer (slices : List Chunk)
  | attach (err : Error)
  | event (event : Event)
  | step (name : String) (result : Result)

/-- The state that can be seen between steps. -/
structure Snapshot where
  buffered : Nat
  chunks : Nat
  lent : Bool
  held : Bool
  interest : Bool
  hasData : Bool
  error : Option Error
  parked : Nat

structure Report where
  result : Result
  log : List Entry
  snapshot : Snapshot

/-- Events that the notifier recorded. -/
structure Tally where
  writable : Nat := 0
  errors : Nat := 0
  attached : Nat := 0

end Outflow.Scenario
