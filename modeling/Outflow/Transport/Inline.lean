import Outflow.Transport.Record

/-!
A transport over a writer that answers each offer at once. Every write on it ends before the call that issued it.
-/

namespace Outflow

/-- What a writer does with an offer. -/
inductive Reception
  | accept (limit : Nat)
  | acceptAll
  | refuse (cause : IoError)

/-- The writer was only interrupted, so it is asked again. -/
def Reception.isInterruption : Reception → Bool
  | .refuse cause => cause.kind == .interrupted
  | _ => false

/-- Meets offers by `script`, then by `fallback`. -/
structure Writer where
  script : List Reception := []
  fallback : Reception := .acceptAll
  sink : Record := {}

namespace Writer

/-- The outcome of one write, with the offers it took. -/
structure Attempt where
  outcome : Outcome
  offers : Nat
  writer : Writer

/-- A writer that accepts nothing is closed. -/
def accept (w : Writer) (bufs : List Buffer) (count : Nat) : Outcome × Writer :=
  if count = 0 then (.ok (-1), w) else (.ok count, { w with sink := w.sink.add count bufs })

def receive (w : Writer) (bufs : List Buffer) : Reception → Outcome × Writer
  | .accept limit => w.accept bufs (min limit (remainingIn bufs))
  | .acceptAll => w.accept bufs (remainingIn bufs)
  | .refuse cause => (.error cause, w)

/-- Offers again as long as the writer is interrupted, at most once for each reception that is left. -/
def offer (w : Writer) (bufs : List Buffer) : List Reception → Nat → Attempt
  | [], offers =>
    let (outcome, w) := { w with script := [] }.receive bufs w.fallback
    { outcome, offers := offers + 1, writer := w }
  | r :: script, offers =>
    if r.isInterruption then w.offer bufs script (offers + 1)
    else
      let (outcome, w) := { w with script }.receive bufs r
      { outcome, offers := offers + 1, writer := w }

/-- Nothing to write is written without asking the writer. -/
def write (w : Writer) (bufs : List Buffer) : Attempt :=
  if bufs.any Buffer.hasRemaining then w.offer bufs w.script 0
  else { outcome := .ok 0, offers := 0, writer := w }

end Writer

end Outflow
