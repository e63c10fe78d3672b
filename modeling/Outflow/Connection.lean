import Outflow.Config
import Outflow.Error
import Outflow.Marker
import Outflow.Permit
import Outflow.Store

/-!
The state of one connection, and what the end of an asynchronous write does to it. Each such write belongs to a chain:
what it leaves over, and what was stored meanwhile, goes out in the next write of the chain.
-/

namespace Outflow

/-- The buffers of one write, alone or gathered. -/
inductive Write
  | single (buf : Buffer)
  | gather (bufs : List Buffer)

namespace Write

def buffers : Write → List Buffer
  | single buf => [buf]
  | gather bufs => bufs

def isGather : Write → Bool
  | single _ => false
  | gather _ => true

def remaining (w : Write) : Nat := remainingIn w.buffers

/-- The stream that the write carries. -/
def unsent (w : Write) : List UInt8 := w.buffers.flatMap Buffer.unsent

end Write

/-- What a chain hands on from one write to the next. -/
structure Flight where
  guard : Guard
  marker : MarkerId
  deriving DecidableEq

/-- What a transport reports: the bytes written, negative if the peer is gone, or a failure. -/
abbrev Outcome := Except IoError Int

/-- The bytes written, or why there is nothing to go on with. -/
def Outcome.written : Outcome → Except Error Nat
  | .ok count => if count < 0 then .error .endOfStream else .ok count.toNat
  | .error cause => .error (.ofIo cause)

/-- The first failure of a chain stays in `error`. `interest` asks for word from the end of the chain in flight. -/
structure Connection where
  config : Config
  store : Store
  error : Option Error := none
  interest : Bool := false
  permit : Permit := {}

/-- How a chain goes on after one of its writes has ended. -/
inductive Verdict
  | stale
  | reissue (write : Write)
  | finished (notify : Bool)
  | failed (err : Error)

namespace Connection

def fresh (config : Config) : Connection := { config, store := .empty config.bufferSize }

/-- A fresh connection, if there is room for its primary buffer. -/
def start (config : Config) : Except Fault Connection := do
  let store ← Store.withCapacity config.bufferSize
  return { config, store }

theorem start_eq_ok_iff {config : Config} {c : Connection} :
    start config = .ok c ↔ config.bufferSize ≤ Primary.maxCapacity ∧ c = fresh config := by
  have h := config.bufferSize_pos
  unfold start Store.withCapacity Primary.withCapacity
  rw [if_neg (by omega)]
  split
  · next hb => simp [bind, Except.bind]; omega
  · next hb => simp [bind, Except.bind, pure, Except.pure, fresh, Store.empty, Nat.le_of_not_lt hb, eq_comm]

/-- Whether anything is left to do, given whether the transport itself still holds bytes. -/
def hasData (c : Connection) (transportPending : Bool) : Bool :=
  transportPending || c.store.primaryPending || c.store.hasPending || c.error.isSome

/-- The buffers for the first write of a chain: everything if chunks are queued, otherwise the primary buffer. -/
def takeWrite (c : Connection) : Store × Option Write :=
  if c.store.hasPending then
    let (store, bufs) := c.store.drain []
    (store, some (.gather bufs))
  else
    let (store, p) := c.store.takePrimaryIfPending
    (store, p.map fun p => .single (.primary p))

/-- What one round of a blocking add takes over of `src`, and whether it is time to write that out. Behind a write in
flight or queued chunks the data queues too, otherwise it fills the primary buffer. -/
def absorb (c : Connection) (src : Chunk) : Store × Nat × Bool :=
  if c.store.hasPending || c.permit.held then
    let store := c.store.pushOverflow src
    (store, src.remaining, decide (c.config.bufferSize ≤ store.overflowLen))
  else
    let (store, count) := c.store.ensurePrimary.transfer src
    (store, count, store.primary.any Primary.isFull)

/-- Without a write in flight there is nothing to wait for, and the answer is that the producer is told at once. -/
def registerInterest (c : Connection) : Connection × Bool :=
  if c.permit.held then ({ c with interest := true }, false) else (c, true)

def reset (c : Connection) : Connection := { c with interest := false }

/-- Makes the connection as good as new. A write in flight can no longer change it. -/
def recycle (c : Connection) : Connection :=
  { c with
    store := c.store.discard.1.ensurePrimary
    error := none
    interest := false
    permit := c.permit.reset }

/-- Queues `src` and accepts it, unless that would pass the limit. -/
def queue? (c : Connection) (src : Chunk) : Except (Nat × Nat) Connection :=
  match c.config.maxBuffered with
  | some limit =>
    if limit < c.store.overflowLen + src.remaining then .error (c.store.overflowLen, limit)
    else .ok { c with store := c.store.pushOverflow src }
  | none => .ok { c with store := c.store.pushOverflow src }

/-- Ends a chain that wrote everything. A producer that is still inside the issuing call is not told. -/
def finish (c : Connection) (f : Flight) (isInline : Bool) : Connection × Verdict :=
  let notify := c.interest && !isInline
  ({ c with interest := c.interest && !notify, permit := c.permit.release f.guard }, .finished notify)

/-- Ends a chain with a failure. What is still stored is dropped, since it cannot be sent in order any more. -/
def fail (c : Connection) (err : Error) (bufs : List Buffer) (f : Flight) : Connection × Verdict :=
  if c.permit.isCurrent f.guard then
    ({ c with
        store := (bufs.foldl Store.reclaim c.store).discard.1
        error := some err
        interest := false
        permit := c.permit.release f.guard },
      .failed err)
  else (c, .stale)

/-- The end of a single write of a chain. -/
def settleSingle (c : Connection) (f : Flight) (isInline : Bool) (outcome : Outcome) (buf : Buffer) :
    Except Fault (Connection × Verdict) :=
  match outcome.written with
  | .error err => .ok (c.fail err [buf] f)
  | .ok count => do
    let buf ← buf.advance (min count buf.remaining)
    if !c.permit.isCurrent f.guard then return (c, .stale)
    else if c.store.hasFollowUp then
      let (store, bufs) := c.store.drain [buf]
      return ({ c with store }, .reissue (.gather bufs))
    else if buf.hasRemaining then return (c, .reissue (.single buf))
    else return finish { c with store := c.store.reclaim buf } f isInline

/-- The end of a gathering write of a chain. -/
def settleGather (c : Connection) (f : Flight) (isInline : Bool) (outcome : Outcome) (bufs : List Buffer) :
    Except Fault (Connection × Verdict) :=
  match outcome.written with
  | .error err => .ok (c.fail err bufs f)
  | .ok count => do
    let bufs ← advanceAll count bufs
    if !c.permit.isCurrent f.guard then return (c, .stale)
    else if c.store.hasFollowUp || bufs.any Buffer.hasRemaining then
      let (store, bufs) := c.store.drain bufs
      return ({ c with store }, .reissue (.gather bufs))
    else return finish { c with store := bufs.foldl Store.reclaim c.store } f isInline

/-- The end of a write of a chain. -/
def settle (c : Connection) (f : Flight) (isInline : Bool) (outcome : Outcome) :
    Write → Except Fault (Connection × Verdict)
  | .single buf => c.settleSingle f isInline outcome buf
  | .gather bufs => c.settleGather f isInline outcome bufs

/-- The state in words, without the bytes. -/
def debug (c : Connection) : String :=
  let error := match c.error with
    | some err => s!"Some({err.debug})"
    | none => "None"
  s!"OutputBuffer \x7b buffered: {c.store.bufferedBytes}, queued_chunks: {c.store.chunks}, "
    ++ s!"primary_lent: {c.store.primaryIsLent}, write_pending: {c.permit.held}, "
    ++ s!"interest: {c.interest}, error: {error} \x7d"

end Connection

end Outflow
