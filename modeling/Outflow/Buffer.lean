import Outflow.Fault

/-!
The buffers that a write is made of. Both kinds are bytes behind a cursor: the primary buffer of a connection, which
is filled and reused, and chunks, which are never changed. `unsent` is what lies behind the cursor.
-/

namespace Outflow

/-- Bytes of which the first `pos` are done with. -/
structure Chunk where
  bytes : ByteArray
  pos : Nat := 0

namespace Chunk

theorem eq_iff {c d : Chunk} : c = d ↔ c.bytes.data = d.bytes.data ∧ c.pos = d.pos := by
  cases c
  cases d
  simp [ByteArray.ext_iff]

instance : DecidableEq Chunk := fun _ _ => decidable_of_iff _ eq_iff.symm

def remaining (c : Chunk) : Nat := c.bytes.size - c.pos

def hasRemaining (c : Chunk) : Bool := c.pos < c.bytes.size

/-- The bytes behind the cursor. -/
def unsent (c : Chunk) : List UInt8 := c.bytes.data.toList.drop c.pos

/-- Leaves out the next `count` bytes. -/
def drop (c : Chunk) (count : Nat) : Chunk := { c with pos := c.pos + count }

def advance (c : Chunk) (count : Nat) : Except Fault Chunk :=
  if count ≤ c.remaining then .ok (c.drop count)
  else .error (.chunkOverrun count c.remaining)

@[simp]
theorem length_unsent (c : Chunk) : c.unsent.length = c.remaining := by
  simp [unsent, remaining]

@[simp]
theorem unsent_drop (c : Chunk) (count : Nat) : (c.drop count).unsent = c.unsent.drop count := by
  simp [unsent, drop]

theorem hasRemaining_iff (c : Chunk) : c.hasRemaining = true ↔ 0 < c.remaining := by
  simp only [hasRemaining, remaining, decide_eq_true_eq]
  omega

/-- The bytes behind the cursors of all of `chunks`. -/
def total : List Chunk → Nat
  | [] => 0
  | c :: chunks => c.remaining + total chunks

end Chunk

/-- The fixed-size buffer of a connection. It is filled at the end of `filled` and sent from `pos` on. -/
structure Primary where
  capacity : Nat
  filled : ByteArray := .empty
  pos : Nat := 0

namespace Primary

theorem eq_iff {p q : Primary} :
    p = q ↔ p.capacity = q.capacity ∧ p.filled.data = q.filled.data ∧ p.pos = q.pos := by
  cases p
  cases q
  simp [ByteArray.ext_iff]

instance : DecidableEq Primary := fun _ _ => decidable_of_iff _ eq_iff.symm

/-- The most bytes that there can be room for, since a distance between two of them is a signed word. -/
def maxCapacity : Nat := 9223372036854775807

def withCapacity (capacity : Nat) : Except Fault Primary :=
  if capacity = 0 then .error .emptyCapacity
  else if maxCapacity < capacity then .error .capacityOverflow
  else .ok { capacity }

theorem withCapacity_eq_ok_iff {capacity : Nat} {p : Primary} :
    withCapacity capacity = .ok p ↔ 0 < capacity ∧ capacity ≤ maxCapacity ∧ p = { capacity } := by
  unfold withCapacity
  grind

/-- The cursor stays within what was filled, and that within the capacity. -/
def WellFormed (p : Primary) : Prop := p.pos ≤ p.filled.size ∧ p.filled.size ≤ p.capacity

def remaining (p : Primary) : Nat := p.filled.size - p.pos

def hasRemaining (p : Primary) : Bool := p.pos < p.filled.size

/-- Bytes that can still be filled in. -/
def spare (p : Primary) : Nat := p.capacity - p.filled.size

def isFull (p : Primary) : Bool := p.filled.size == p.capacity

def unsent (p : Primary) : List UInt8 := p.filled.data.toList.drop p.pos

/-- What is left of the buffer, as a chunk. -/
def toChunk (p : Primary) : Chunk := { bytes := p.filled, pos := p.pos }

def clear (p : Primary) : Primary := { capacity := p.capacity }

/-- Fills in as much of `src` as fits, and says how much that was. A buffer that was sent completely starts anew. -/
def transfer (p : Primary) (src : Chunk) : Primary × Nat :=
  let p := if p.pos = p.filled.size then p.clear else p
  let count := min src.remaining p.spare
  ({ p with filled := p.filled ++ src.bytes.extract src.pos (src.pos + count) }, count)

def advance (p : Primary) (count : Nat) : Except Fault Primary :=
  if count ≤ p.remaining then .ok { p with pos := p.pos + count }
  else .error (.primaryOverrun count p.remaining)

/-- The buffer without its bytes, in words. -/
def debug (p : Primary) : String :=
  s!"PrimaryBuffer \x7b capacity: {p.capacity}, len: {p.filled.size}, pos: {p.pos} \x7d"

@[simp]
theorem unsent_toChunk (p : Primary) : p.toChunk.unsent = p.unsent := rfl

@[simp]
theorem length_unsent (p : Primary) : p.unsent.length = p.remaining := by
  simp [unsent, remaining]

end Primary

/-- One buffer of a write. -/
inductive Buffer
  | primary (p : Primary)
  | chunk (c : Chunk)
  deriving DecidableEq

namespace Buffer

def remaining : Buffer → Nat
  | primary p => p.remaining
  | chunk c => c.remaining

def hasRemaining : Buffer → Bool
  | primary p => p.hasRemaining
  | chunk c => c.hasRemaining

def unsent : Buffer → List UInt8
  | primary p => p.unsent
  | chunk c => c.unsent

def toChunk : Buffer → Chunk
  | primary p => p.toChunk
  | chunk c => c

def toPrimary? : Buffer → Option Primary
  | primary p => some p
  | chunk _ => none

def advance (count : Nat) : Buffer → Except Fault Buffer
  | primary p => primary <$> p.advance count
  | chunk c => chunk <$> c.advance count

/-- The next `count` bytes, and the buffer behind them. -/
def copy (count : Nat) (b : Buffer) : Except Fault (Chunk × Buffer) :=
  if count ≤ b.remaining then do
    let src := b.toChunk
    let behind ← b.advance count
    return ({ bytes := src.bytes.extract src.pos (src.pos + count) }, behind)
  else .error (.copyOverrun count b.remaining)

@[simp]
theorem unsent_toChunk (b : Buffer) : b.toChunk.unsent = b.unsent := by
  cases b <;> rfl

@[simp]
theorem length_unsent (b : Buffer) : b.unsent.length = b.remaining := by
  cases b <;> simp [unsent, remaining]

end Buffer

/-- The bytes that were not yet written across all of `bufs`. -/
def remainingIn : List Buffer → Nat
  | [] => 0
  | b :: bufs => b.remaining + remainingIn bufs

/-- What a gathering write offers: the unsent parts in order, without the empty ones. -/
def slices (bufs : List Buffer) : List Chunk := (bufs.filter Buffer.hasRemaining).map Buffer.toChunk

/-- Takes `count` written bytes off the front of `bufs`. A count beyond their end is cut off there. -/
def advanceAll : Nat → List Buffer → Except Fault (List Buffer)
  | _, [] => .ok []
  | count, b :: bufs =>
    if count = 0 then .ok (b :: bufs)
    else do
      let step := min count b.remaining
      let b ← b.advance step
      let bufs ← advanceAll (count - step) bufs
      return b :: bufs

end Outflow
