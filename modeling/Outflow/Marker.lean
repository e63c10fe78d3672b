import Outflow.Table

/-!
Which calls are still on the stack of the thread that issued a chain of writes. The producer behind such a call sees
how the chain went from the call itself, so it is not told a second time.
-/

namespace Outflow

abbrev ThreadId := Nat

abbrev MarkerId := Nat

/-- The thread that is inside the issuing call, for each marker that has one. -/
structure Markers where
  issuing : Table ThreadId := {}
  next : MarkerId := 0

namespace Markers

/-- A marker that no thread is inside of. -/
def fresh (ms : Markers) : Markers × MarkerId := ({ ms with next := ms.next + 1 }, ms.next)

/-- A later entry replaces an earlier one. -/
def enter (ms : Markers) (m : MarkerId) (t : ThreadId) : Markers := { ms with issuing := ms.issuing.set m t }

/-- Whoever leaves, nobody is inside afterwards. -/
def exit (ms : Markers) (m : MarkerId) : Markers := { ms with issuing := ms.issuing.erase m }

def isInline (ms : Markers) (m : MarkerId) (t : ThreadId) : Bool := ms.issuing.find? m == some t

end Markers

end Outflow
