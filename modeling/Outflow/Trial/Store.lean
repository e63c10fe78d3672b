import Outflow.Trial.Buffers

/-!
Trials of a store, with numbered slots for the buffers outside of it. A buffer leaves its slot when it is given back.
-/

namespace Outflow.Trial.Store

inductive Step
  | append (src : Chunk)
  | push (src : Chunk)
  | transfer (src : Chunk)
  | make (spec : BufferSpec)
  | requeue (slots : List Nat)
  | drain (slots : List Nat)
  | takeOverflow
  | takePrimary
  | advance (slot count : Nat)
  | reclaim (slot : Nat)
  | unload (slot : Nat)
  | restore (slot : Nat)
  | ensure
  | discard
  | unknown

inductive Result
  | nothing
  | number (value : Nat)
  | put (slot : Nat) (b : Buffer)
  | puts (values : List (Nat × Buffer))
  | buffer (b : Buffer)
  | bytes (c : Chunk)
  | primary (p : Primary)
  | chunk
  | fault (f : Fault)
  | noSlot
  | unknown

structure State where
  store : Outflow.Store
  slots : List (Option Buffer) := []

namespace State

def peek (s : State) (slot : Nat) : Option Buffer := s.slots[slot]?.join

def empty (s : State) (slot : Nat) : State := { s with slots := s.slots.set slot none }

def put (s : State) (b : Buffer) : State × Nat × Buffer :=
  ({ s with slots := s.slots ++ [some b] }, s.slots.length, b)

def putAll (s : State) (bufs : List Buffer) : State × List (Nat × Buffer) :=
  ({ s with slots := s.slots ++ bufs.map some }, (List.range' s.slots.length bufs.length).zip bufs)

/-- Takes the chunks out of their slots. Up to an empty slot they are gone even though nothing comes of it. -/
def takeChunks (s : State) : List Nat → State × Option (List Chunk)
  | [] => (s, some [])
  | slot :: rest =>
    match s.peek slot with
    | none => (s, none)
    | some (.primary _) => s.takeChunks rest
    | some (.chunk c) =>
      let (s, chunks) := (s.empty slot).takeChunks rest
      (s, chunks.map (c :: ·))

/-- Takes the buffers out of their slots, as above. -/
def takeBuffers (s : State) : List Nat → State × Option (List Buffer)
  | [] => (s, some [])
  | slot :: rest =>
    match s.peek slot with
    | none => (s, none)
    | some b =>
      let (s, bufs) := (s.empty slot).takeBuffers rest
      (s, bufs.map (b :: ·))

end State

/-- Uses up the primary buffer of a slot. A chunk is dropped. -/
def withPrimary (s : State) (slot : Nat) (use : State → Primary → Result × State) : Result × State :=
  match s.peek slot with
  | none => (.noSlot, s)
  | some (.chunk _) => (.chunk, s.empty slot)
  | some (.primary p) => use (s.empty slot) p

def perform (s : State) : Step → Result × State
  | .append src => (.nothing, { s with store := s.store.append src })
  | .push src => (.nothing, { s with store := s.store.pushOverflow src })
  | .transfer src =>
    let (store, count) := s.store.transfer src
    (.number count, { s with store })
  | .make spec =>
    match spec.make with
    | .error f => (.fault f, s)
    | .ok b =>
      let (s, slot, b) := s.put b
      (.put slot b, s)
  | .requeue slots =>
    match s.takeChunks slots with
    | (s, none) => (.noSlot, s)
    | (s, some chunks) => (.nothing, { s with store := s.store.requeueFront chunks })
  | .drain slots =>
    match s.takeBuffers slots with
    | (s, none) => (.noSlot, s)
    | (s, some bufs) =>
      let (store, bufs) := s.store.drain bufs
      let (s, puts) := { s with store }.putAll bufs
      (.puts puts, s)
  | .takeOverflow =>
    let (store, chunks) := s.store.takeOverflow
    let (s, puts) := { s with store }.putAll (chunks.map .chunk)
    (.puts puts, s)
  | .takePrimary =>
    match s.store.takePrimaryIfPending with
    | (store, some p) =>
      let (s, slot, b) := { s with store }.put (.primary p)
      (.put slot b, s)
    | (store, none) => (.nothing, { s with store })
  | .advance slot count =>
    match s.peek slot with
    | none => (.noSlot, s)
    | some b =>
      match b.advance count with
      | .ok b => (.buffer b, { s with slots := s.slots.set slot (some b) })
      | .error f => (.fault f, s)
  | .reclaim slot =>
    match s.peek slot with
    | none => (.noSlot, s)
    | some b => (.nothing, { s.empty slot with store := s.store.reclaim b })
  | .unload slot =>
    withPrimary s slot fun s p =>
      match s.store.unload p with
      | (store, some c) => (.bytes c, { s with store })
      | (store, none) => (.nothing, { s with store })
  | .restore slot => withPrimary s slot fun s p => (.nothing, { s with store := s.store.restorePrimary p })
  | .ensure =>
    let store := s.store.ensurePrimary
    match store.primary with
    | some p => (.primary p, { s with store })
    | none => (.nothing, { s with store })
  | .discard =>
    let (store, count) := s.store.discard
    (.number count, { s with store })
  | .unknown => (.unknown, s)

/-- Each step with its result and the store after it. -/
def steps (s : State) : List Step → List (Result × Outflow.Store)
  | [] => []
  | step :: rest =>
    let (result, s) := perform s step
    (result, s.store) :: steps s rest

def run (capacity : Nat) (steps : List Step) : Except Fault (List (Result × Outflow.Store)) := do
  let store ← Outflow.Store.withCapacity capacity
  return Store.steps { store } steps

end Outflow.Trial.Store
