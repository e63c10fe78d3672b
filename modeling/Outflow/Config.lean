import Outflow.Fault

/-!
Settings of a connection.
-/

namespace Outflow

/-- A length of time, with less than a second in `nanos`. -/
structure Duration where
  secs : Nat
  nanos : Nat := 0
  deriving DecidableEq

namespace Duration

def nanosPerSec : Nat := 1000000000

/-- The number of seconds has 64 bits. -/
def maxSecs : Nat := 18446744073709551615

/-- Whole seconds among `nanos` count as seconds. -/
def make (secs nanos : Nat) : Except Fault Duration :=
  if secs + nanos / nanosPerSec ≤ maxSecs then
    .ok { secs := secs + nanos / nanosPerSec, nanos := nanos % nanosPerSec }
  else .error .durationOverflow

def ofMillis (millis : Nat) : Duration := { secs := millis / 1000, nanos := millis % 1000 * 1000000 }

def toMillis (d : Duration) : Nat := d.secs * 1000 + d.nanos / 1000000

end Duration

/-- `timeout` bounds each wait. Beyond `maxBuffered` queued bytes a caller waits instead of queuing more. -/
structure Config where
  bufferSize : Nat := 8192
  timeout : Duration := { secs := 20 }
  maxBuffered : Option Nat := some 1048576
  bufferSize_pos : 0 < bufferSize := by decide
  deriving DecidableEq

namespace Config

def withBufferSize (c : Config) (size : Nat) : Except Fault Config :=
  if h : 0 < size then .ok { c with bufferSize := size, bufferSize_pos := h }
  else .error .emptyBufferSize

end Config

end Outflow
