/-!
The write permit: a single slot whose holder may have an asynchronous write in flight. Each grant and each reset has
a generation of its own, so a guard from before a reset has no say any more.
-/

namespace Outflow

structure Permit where
  held : Bool := false
  generation : UInt64 := 0
  deriving DecidableEq

/-- Shows that the permit was granted. -/
structure Guard where
  generation : UInt64
  deriving DecidableEq

namespace Permit

/-- The guard that comes with the next grant. -/
def nextGuard (p : Permit) : Guard := { generation := p.generation + 1 }

def grant (p : Permit) : Permit := { held := true, generation := p.generation + 1 }

def tryAcquire (p : Permit) : Option (Permit × Guard) :=
  if p.held then none else some (p.grant, p.nextGuard)

def isCurrent (p : Permit) (g : Guard) : Bool := p.held && p.generation == g.generation

/-- A guard that is not current gives nothing back. -/
def release (p : Permit) (g : Guard) : Permit :=
  if p.isCurrent g then { p with held := false } else p

/-- Frees the permit whoever holds it. -/
def reset (p : Permit) : Permit := { held := false, generation := p.generation + 1 }

def debug (p : Permit) : String := s!"WritePermit \x7b held: {p.held} \x7d"

end Permit

namespace Guard

def debug (g : Guard) : String := s!"PermitGuard \x7b generation: {g.generation} \x7d"

end Guard

end Outflow
