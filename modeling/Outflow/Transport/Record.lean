import Outflow.Connection

/-!
The bytes that the far end of a transport has got so far.
-/

namespace Outflow

/-- Kept as pieces, the latest first, each with the number of its bytes that count. -/
structure Record where
  pieces : List (Chunk × Nat) := []
  size : Nat := 0

namespace Record

/-- Adds the first `count` unsent bytes of the buffers. Buffers behind these are not looked at. -/
def add (r : Record) : Nat → List Buffer → Record
  | _, [] => r
  | count, b :: rest =>
    if count = 0 then r
    else
      let step := min count b.remaining
      { pieces := (b.toChunk, step) :: r.pieces, size := r.size + step : Record }.add (count - step) rest

def toByteArray (r : Record) : ByteArray :=
  r.pieces.reverse.foldl (fun bytes (c, count) => bytes ++ c.bytes.extract c.pos (c.pos + count)) .empty

/-- All that a write carries. -/
def ofWrite (write : Write) : Record := ({} : Record).add write.remaining write.buffers

/-- Adds what an outcome says was written of `write`. -/
def addOutcome (r : Record) (write : Write) : Outcome → Record
  | .ok count => r.add count.toNat write.buffers
  | .error _ => r

end Record

end Outflow
