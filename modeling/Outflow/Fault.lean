/-!
Misuse that a buffer or a setting refuses.
-/

namespace Outflow

/-- A request that was refused because it broke a rule of the value it was made to. -/
inductive Fault
  | emptyCapacity
  | capacityOverflow
  | emptyBufferSize
  | primaryOverrun (count remaining : Nat)
  | chunkOverrun (count remaining : Nat)
  | copyOverrun (count remaining : Nat)
  | durationOverflow
  deriving DecidableEq

namespace Fault

def message : Fault → String
  | emptyCapacity => "PrimaryBuffer::with_capacity: capacity must be non-zero"
  | capacityOverflow => "capacity overflow"
  | emptyBufferSize => "buffer size must be non-zero"
  | primaryOverrun count remaining =>
    s!"PrimaryBuffer::advance: cannot advance by {count} bytes, only {remaining} remaining"
  | chunkOverrun count remaining => s!"cannot advance past `remaining`: {count} <= {remaining}"
  | copyOverrun count remaining =>
    s!"advance out of bounds: the len is {remaining} but advancing by {count}"
  | durationOverflow => "overflow in Duration::new"

end Fault

end Outflow
