import Outflow.Transport.Descriptor
import Outflow.Transport.Inline
import Outflow.Trial.Buffers

/-!
Trials of a transport without a connection. It reports a count, and never changes the buffers that it was given.
-/

namespace Outflow.Trial.Transport

inductive Medium
  | inline (writer : Writer)
  | descriptor (descriptor : Descriptor)

inductive Step
  | write (bufs : List BufferSpec) (chunks : Nat) (single : Bool)
  | closePeer
  | read

/-- Writes on a writer also tell what it was offered, how often, and how much it has taken so far. -/
inductive Result
  | nothing
  | bytes (value : ByteArray)
  | written (outcome : Outcome) (bufs : List Buffer) (offers : Option (List (List Chunk) × Nat))

/-- Chunks of one byte each. -/
def filler (count : Nat) : List Buffer := List.replicate count (.chunk { bytes := ⟨#[0x78]⟩ })

/-- The buffers of a write that ends with `chunks` chunks of filler. A single write is given the first buffer only. -/
def buffers (specs : List BufferSpec) (chunks : Nat) (single : Bool) : Except Fault (List Buffer) := do
  let bufs ← specs.mapM BufferSpec.make
  let bufs := bufs ++ filler chunks
  return if single then bufs.take 1 else bufs

def write (m : Medium) (bufs : List Buffer) : Result × Medium :=
  match m with
  | .inline writer =>
    let attempt := writer.write bufs
    let offers := List.replicate attempt.offers (slices bufs)
    (.written attempt.outcome bufs (some (offers, attempt.writer.sink.size)), .inline attempt.writer)
  | .descriptor d =>
    let (outcome, d) := d.write bufs
    (.written outcome bufs none, .descriptor d)

def read : Medium → Result × Medium
  | .descriptor d =>
    match d.read with
    | (some bytes, d) => (.bytes bytes, .descriptor d)
    | (none, d) => (.nothing, .descriptor d)
  | m => (.nothing, m)

def closePeer : Medium → Medium
  | .descriptor d => .descriptor d.closePeer
  | m => m

def perform (m : Medium) : Step → Except Fault (Result × Medium)
  | .write specs chunks single => return write m (← buffers specs chunks single)
  | .closePeer => return (.nothing, closePeer m)
  | .read => return read m

/-- The result of each step, and the transport after the last one. There is no result at all if one of the buffers
cannot be made. -/
def run (m : Medium) : List Step → Except Fault (List Result × Medium)
  | [] => return ([], m)
  | step :: steps => do
    let (result, m) ← perform m step
    let (results, m) ← run m steps
    return (result :: results, m)

end Outflow.Trial.Transport
