import Outflow.Store

/-!
Trials of single buffers: how they are made, and what can be done to a row of them.
-/

namespace Outflow.Trial

/-- A buffer by its data, of which the first `sent` bytes are done with. A `capacity` makes it a primary buffer. -/
structure BufferSpec where
  data : Chunk
  capacity : Option Nat
  sent : Nat

def BufferSpec.make (spec : BufferSpec) : Except Fault Buffer :=
  match spec.capacity with
  | some capacity => do
    let p ← Primary.withCapacity capacity
    Buffer.advance spec.sent (.primary (p.transfer spec.data).1)
  | none => Buffer.advance spec.sent (.chunk spec.data)

namespace Buffers

inductive Deed
  | advance (count : Nat)
  | copy (count : Nat)
  | transfer (src : Chunk)
  | clear
  | intoPrimary

/-- The first two concern the whole row, the others one buffer of it. -/
inductive Step
  | remainingIn
  | slices
  | at (index : Nat) (deed : Deed)
  | unknown

inductive Result
  | nothing
  | number (value : Nat)
  | slices (value : List Chunk)
  | bytes (value : Chunk)
  | fault (f : Fault)
  | chunk
  | noSlot
  | unknown

/-- What is done to one buffer leaves that buffer, changed or not, or takes it out of the row. -/
def Deed.apply (b : Buffer) : Deed → Result × Option Buffer
  | .advance count =>
    match b.advance count with
    | .ok b => (.nothing, some b)
    | .error f => (.fault f, some b)
  | .copy count =>
    match b.copy count with
    | .ok (bytes, b) => (.bytes bytes, some b)
    | .error f => (.fault f, some b)
  | .transfer src =>
    match b with
    | .primary p =>
      let (p, count) := p.transfer src
      (.number count, some (.primary p))
    | .chunk _ => (.chunk, some b)
  | .clear =>
    match b with
    | .primary p => (.nothing, some (.primary p.clear))
    | .chunk _ => (.chunk, some b)
  | .intoPrimary =>
    match b.toPrimary? with
    | some p => (.number p.capacity, none)
    | none => (.nothing, none)

def perform (bufs : List Buffer) : Step → Result × List Buffer
  | .remainingIn => (.number (Outflow.remainingIn bufs), bufs)
  | .slices => (.slices (Outflow.slices bufs), bufs)
  | .unknown => (.unknown, bufs)
  | .at index deed =>
    match bufs[index]? with
    | none => (.noSlot, bufs)
    | some b =>
      match deed.apply b with
      | (result, some b) => (result, bufs.set index b)
      | (result, none) => (result, bufs.eraseIdx index)

/-- Each step with its result and the row after it. -/
def run (bufs : List Buffer) : List Step → List (Result × List Buffer)
  | [] => []
  | step :: steps =>
    let (result, bufs) := perform bufs step
    (result, bufs) :: run bufs steps

end Buffers

end Outflow.Trial
