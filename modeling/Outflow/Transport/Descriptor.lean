import Outflow.Transport.Record

/-!
A transport over a descriptor of the system. A worker makes one attempt for each write and reports what it came to.
-/

namespace Outflow

/-- What the descriptor stands for. A `stuffed` one has no room until its peer has read. -/
inductive Target
  | socket
  | pipe
  | null
  | readOnly
  | full
  | bad
  | negative
  | stuffed
  deriving DecidableEq

/-- The most slices that one attempt takes. -/
def maxSlices : Nat := 1024

structure Descriptor where
  target : Target
  peerClosed : Bool := false
  unread : Record := {}

namespace Descriptor

def hasPeer (d : Descriptor) : Bool :=
  match d.target with
  | .socket | .pipe | .stuffed => true
  | _ => false

def lateWrite : IoError := .worded .timedOut "descriptor not writable before the write timeout"

/-- One attempt to write the slices of `bufs`. Without slices the descriptor is not touched. -/
def write (d : Descriptor) (bufs : List Buffer) : Outcome × Descriptor :=
  match (slices bufs).take maxSlices with
  | [] => (.ok 0, d)
  | offered@(_ :: _) =>
    let count := Chunk.total offered
    if d.peerClosed && d.hasPeer then (.ok (-1), d)
    else
      match d.target with
      | .socket | .pipe => (.ok count, { d with unread := d.unread.add count bufs })
      | .null => (.ok count, d)
      | .readOnly | .bad => (.error (.system .badDescriptor), d)
      | .full => (.error (.system .noSpace), d)
      | .negative | .stuffed => (.error lateWrite, d)

def closePeer (d : Descriptor) : Descriptor := { d with peerClosed := true }

/-- What the peer can read now, if there is one. Reading makes room in a stuffed descriptor. -/
def read (d : Descriptor) : Option ByteArray × Descriptor :=
  if d.hasPeer && !d.peerClosed then
    (some d.unread.toByteArray, { d with target := if d.target = .stuffed then .socket else d.target, unread := {} })
  else (none, d)

end Descriptor

end Outflow
