import Outflow.Buffer

/-!
What a connection holds until it is handed to the transport: the primary buffer, and a queue of chunks behind it.
`contents` is the stream that a store stands for.
-/

namespace Outflow

/-- The primary buffer is absent while it is lent to a write. The queue is kept back to front, so that queueing a chunk
costs the same however many wait, and the number of its bytes is kept beside it. -/
structure Store where
  capacity : Nat
  primary : Option Primary
  backlog : List Chunk := []
  overflowLen : Nat := 0
  deriving DecidableEq

namespace Store

/-- An empty store whose primary buffers have the given capacity. -/
def empty (capacity : Nat) : Store := { capacity, primary := some { capacity } }

def withCapacity (capacity : Nat) : Except Fault Store := do
  let primary ← Primary.withCapacity capacity
  return { capacity, primary := some primary }

/-- The queued chunks, front to back. -/
def overflow (s : Store) : List Chunk := s.backlog.reverse

/-- The unsent bytes of the primary buffer, then those of the chunks front to back. -/
def contents (s : Store) : List UInt8 :=
  (s.primary.map Primary.unsent).getD [] ++ s.overflow.flatMap Chunk.unsent

def hasPending (s : Store) : Bool := !s.backlog.isEmpty

def primaryIsLent (s : Store) : Bool := s.primary.isNone

/-- Whether the primary buffer is lent or holds unsent bytes. -/
def primaryPending (s : Store) : Bool := s.primary.all Primary.hasRemaining

/-- Whether a chain of writes has more to send than it carries. -/
def hasFollowUp (s : Store) : Bool := s.hasPending || s.primary.any Primary.hasRemaining

def chunks (s : Store) : Nat := s.backlog.length

/-- Unsent bytes held here. A lent buffer counts as empty. -/
def bufferedBytes (s : Store) : Nat := (s.primary.map Primary.remaining).getD 0 + s.overflowLen

/-- Fills the primary buffer as far as it goes. A lent one takes nothing. -/
def transfer (s : Store) (src : Chunk) : Store × Nat :=
  match s.primary with
  | some p =>
    let (p, count) := p.transfer src
    ({ s with primary := some p }, count)
  | none => (s, 0)

/-- Queues `src` as a chunk of its own. -/
def pushOverflow (s : Store) (src : Chunk) : Store :=
  if src.hasRemaining then
    { s with backlog := src :: s.backlog, overflowLen := s.overflowLen + src.remaining }
  else s

/-- Once a chunk is queued everything else queues too, so the primary buffer never holds newer bytes than a chunk. -/
def append (s : Store) (src : Chunk) : Store :=
  if s.hasPending then s.pushOverflow src
  else
    let (s, count) := s.transfer src
    s.pushOverflow (src.drop count)

/-- Puts `chunks` before the queue, in their order. -/
def requeueFront (s : Store) (chunks : List Chunk) : Store :=
  { s with
    backlog := s.backlog ++ chunks.reverse
    overflowLen := Chunk.total chunks + s.overflowLen }

def takeOverflow (s : Store) : Store × List Chunk :=
  ({ s with backlog := [], overflowLen := 0 }, s.overflow)

def takePrimaryIfPending (s : Store) : Store × Option Primary :=
  match s.primary with
  | some p => if p.hasRemaining then ({ s with primary := none }, some p) else (s, none)
  | none => (s, none)

/-- A buffer that was put in its place meanwhile stays. -/
def restorePrimary (s : Store) (p : Primary) : Store :=
  match s.primary with
  | some _ => s
  | none => { s with primary := some p }

/-- Takes back what a write carried. A primary buffer that was sent completely can be filled again. -/
def reclaim (s : Store) : Buffer → Store
  | .primary p => s.restorePrimary (if p.hasRemaining then p else p.clear)
  | .chunk _ => s

/-- Takes a primary buffer back empty, and gives its unsent bytes away as a chunk. -/
def unload (s : Store) (p : Primary) : Store × Option Chunk :=
  (s.restorePrimary p.clear, if p.hasRemaining then some p.toChunk else none)

/-- Takes back what came of a buffer, and gives its unsent bytes away as a chunk. -/
def salvage (s : Store) : Option Buffer → Store × Option Chunk
  | some (.primary p) => s.unload p
  | some (.chunk c) => (s, if c.hasRemaining then some c else none)
  | none => (s, none)

/-- Replaces a primary buffer that never came back. -/
def ensurePrimary (s : Store) : Store :=
  match s.primary with
  | some _ => s
  | none => { s with primary := some { capacity := s.capacity } }

/-- All buffers for the next gathering write: what `leftovers` still hold, then the primary buffer, then the queue. -/
def drain (s : Store) (leftovers : List Buffer) : Store × List Buffer :=
  let (s, held) := s.takePrimaryIfPending
  let s := (leftovers.filter fun b => !b.hasRemaining).foldl reclaim s
  let (s, queued) := s.takeOverflow
  (s, leftovers.filter Buffer.hasRemaining ++ (held.toList.map .primary ++ queued.map .chunk))

/-- Drops what was not sent, and says how much that was. -/
def discard (s : Store) : Store × Nat :=
  ({ s with primary := s.primary.map Primary.clear, backlog := [], overflowLen := 0 }, s.bufferedBytes)

theorem hasPending_eq (s : Store) : s.hasPending = !s.overflow.isEmpty := by
  simp [hasPending, overflow]

theorem chunks_eq (s : Store) : s.chunks = s.overflow.length := by
  simp [chunks, overflow]

@[simp]
theorem overflow_empty (capacity : Nat) : (empty capacity).overflow = [] := rfl

@[simp]
theorem overflow_pushOverflow (s : Store) (src : Chunk) :
    (s.pushOverflow src).overflow = if src.hasRemaining then s.overflow ++ [src] else s.overflow := by
  unfold pushOverflow
  split <;> simp [overflow]

@[simp]
theorem overflow_requeueFront (s : Store) (chunks : List Chunk) :
    (s.requeueFront chunks).overflow = chunks ++ s.overflow := by
  simp [requeueFront, overflow]

@[simp]
theorem overflow_takeOverflow (s : Store) : s.takeOverflow.1.overflow = [] := rfl

@[simp]
theorem takeOverflow_snd (s : Store) : s.takeOverflow.2 = s.overflow := rfl

@[simp]
theorem overflow_discard (s : Store) : s.discard.1.overflow = [] := rfl

end Store

end Outflow
