import Outflow.Proofs.Ledger

/-! The calls that are being made: the frame with which each of them begins, and those that stand in its place as it
goes on. -/
namespace Outflow

namespace Frame

def isBlocking : Frame → Bool
  | adding _ | awaitingChain _ | yielding _ _ | collecting _ | sweeping _ | writing _ _ | awaitingReply _ _ => true
  | _ => false

/-- A blocking call that has seen to it that no chain is in flight. -/
def isWriting : Frame → Bool
  | collecting _ | sweeping _ | writing _ _ | awaitingReply _ _ => true
  | _ => false

theorem isBlocking_of_isWriting {f : Frame} (h : f.isWriting = true) : f.isBlocking = true := by
  cases f <;> simp_all [isWriting, isBlocking]

/-- The frames that have buffers of their own. -/
def isSweeping : Frame → Bool
  | sweeping _ | writing _ _ | awaitingReply _ _ => true
  | _ => false

theorem isSweeping_of_not_blocking {f : Frame} (h : f.isBlocking = false) : f.isSweeping = false := by
  cases f <;> first | rfl | simp [isBlocking] at h

theorem awaitsReply_of_not_sweeping {f : Frame} (h : f.isSweeping = false) : f.awaitsReply = false := by
  cases f <;> first | rfl | simp [isSweeping] at h

theorem isSweeping_of_not_writing {f : Frame} (h : f.isWriting = false) : f.isSweeping = false := by
  cases f <;> first | rfl | simp [isWriting] at h

theorem jobs_of_isCall {f : Frame} (h : f.isCall = true) : f.jobs = [] := by
  cases f <;> first | rfl | simp [isCall] at h

/-- After one step the other frame stands in the place of this one. -/
inductive Leads : Frame → Frame → Prop
  | started {starter g m} : Leads (.starting starter g) (.issuing m starter)
  | roomMade {src buffered limit g} : Leads (.awaitingRoom src buffered limit) (.admitted src g)
  | admittedLate {src err g} : Leads (.admitted src g) (.refusing err g)
  | admitted {src g} : Leads (.admitted src g) (.starting .add g)
  | absorbed {src rest} : Leads (.adding src) (.adding rest)
  | filledBehind {src rest} : Leads (.adding src) (.awaitingChain (.add rest))
  | filled {src rest} : Leads (.adding src) (.collecting (.add rest))
  | chainAwaited {goal g} : Leads (.awaitingChain goal) (.yielding goal g)
  | chainExpired {goal} : Leads (.awaitingChain goal) (.collecting goal)
  | yielded {goal g} : Leads (.yielding goal g) (.collecting goal)
  | collected {goal sweep} : Leads (.collecting goal) (.sweeping sweep)
  | swept {buf sweep left} : Leads (.sweeping sweep) (.writing buf left)
  | sweptAdd {sweep src} : Leads (.sweeping sweep) (.adding src)
  | tripBegun {buf w sweep} : Leads (.writing buf sweep) (.awaitingReply w sweep)
  | tripsDone {buf sweep} : Leads (.writing buf sweep) (.sweeping sweep)
  | tripDone {buf w sweep} : Leads (.awaitingReply w sweep) (.writing buf sweep)

theorem Leads.isBlocking_eq {f f' : Frame} (h : f.Leads f') : f'.isBlocking = f.isBlocking := by
  cases h <;> rfl

end Frame

/-- The frame with which a call begins that is not answered at once. -/
inductive Call.Opens : Call → Frame → Prop
  | addBlocking {src} : Opens (.add src .blocking) (.adding src)
  | addGranted {src g} : Opens (.add src .nonBlocking) (.starting .add g)
  | addFull {src buffered limit} : Opens (.add src .nonBlocking) (.awaitingRoom src buffered limit)
  | flushAwaits : Opens (.flush .blocking) (.awaitingChain .flush)
  | flushCollects : Opens (.flush .blocking) (.collecting .flush)
  | flushBegun {m} : Opens (.flush .nonBlocking) (.issuing m .flush)
  | registered : Opens .registerInterest (.answering .done)

theorem Call.Opens.isBlocking_eq {c : Call} {f : Frame} (h : c.Opens f) : f.isBlocking = c.isBlocking := by
  cases h <;> rfl

namespace System

variable {s s' : System} {a : Action} {sig : Option Signal} {t : ThreadId} {frame : Frame} {rest : List Frame}

theorem calls_push (s : System) (t : ThreadId) (frame : Frame) (hf : frame.isCall = true) :
    (s.push t frame).tally .calls = frame ::ₘ s.tally .calls := by
  simp [tally_push, hf]

theorem calls_pop (hst : (s.thread t).stack = frame :: rest) (hf : frame.isCall = true) :
    s.tally .calls = frame ::ₘ (s.setStack t rest).tally .calls := by
  simp [tally_pop _ hst, hf]

theorem calls_replace (s : System) (t : ThreadId) (frame : Frame) (rest : List Frame) (hf : frame.isCall = true) :
    (s.setStack t (frame :: rest)).tally .calls = frame ::ₘ (s.setStack t rest).tally .calls := by
  simp [tally_replace, hf]

theorem calls_begin (s : System) (t : ThreadId) (starter : Starter) (g : Guard) (store : Store) (write : Write) :
    (s.begin t starter g store write).tally .calls = .issuing s.markers.next starter ::ₘ s.tally .calls := by
  simp [tally_begin, Frame.isCall]

theorem calls_trip (hnum : s.Numbered) (t : ThreadId) (sweep : Sweep) (rest : List Frame) (buf : Buffer) :
    ((s.setStack t (.awaitingReply s.nextWrite sweep :: rest)).handOver t (.trip buf)).1.tally .calls
      = .awaitingReply s.nextWrite sweep ::ₘ (s.setStack t rest).tally .calls := by
  simp [tally_trip _ (hnum.outstanding _ (Nat.le_refl _)), Frame.isCall]

/-- What one step does to the calls that are being made. -/
inductive Advanced (s : System) (a : Action) (s' : System) : Prop
  | same (hcalls : s'.tally .calls = s.tally .calls)
  | begun {t c f} (ha : a = .call t c) (hf : c.Opens f) (hcalls : s'.tally .calls = f ::ₘ s.tally .calls)
  | goesOn {f f' C} (hf : f.Leads f') (hC : s.tally .calls = f ::ₘ C) (hcalls : s'.tally .calls = f' ::ₘ C)
  | ended {f C} (hC : s.tally .calls = f ::ₘ C) (hcalls : s'.tally .calls = C)

theorem advanced_step (hnum : s.Numbered) (h : Step s a s' sig) : Advanced s a s' := by
  have hfresh := hnum.outstanding _ (Nat.le_refl _)
  cases h with
  | addNothing _ _ | addRefused _ _ _ | addQueued _ _ _ _ _ | flushRefused _ _ | flushHeld _ _ _
  | flushNothing _ _ _ _ | registered _ _ | reset _ | recycle _ | transportPending => exact .same rfl
  | addBlocking _ _ _ => exact .begun rfl .addBlocking (calls_push _ _ _ rfl)
  | addGranted _ _ _ _ => exact .begun rfl .addGranted (calls_push _ _ _ rfl)
  | addFull _ _ _ _ _ => exact .begun rfl .addFull (calls_push _ _ _ rfl)
  | flushAwaits _ _ _ => exact .begun rfl .flushAwaits (calls_push _ _ _ rfl)
  | flushCollects _ _ _ => exact .begun rfl .flushCollects (calls_push _ _ _ rfl)
  | flushBegun _ _ _ _ => exact .begun rfl .flushBegun (calls_begin _ _ _ _ _ _)
  | registeredFree _ _ => exact .begun rfl .registered (by simp [tally_push, Frame.isCall])
  | started hst _ => exact .goesOn .started (calls_pop hst rfl) (calls_begin _ _ _ _ _ _)
  | roomMade hst _ => exact .goesOn .roomMade (calls_pop hst rfl) (calls_replace _ _ _ _ rfl)
  | admittedLate hst _ => exact .goesOn .admittedLate (calls_pop hst rfl) (calls_replace _ _ _ _ rfl)
  | admitted hst _ => exact .goesOn .admitted (calls_pop hst rfl) (calls_replace _ _ _ _ rfl)
  | absorbed hst _ _ => exact .goesOn .absorbed (calls_pop hst rfl) (calls_replace _ _ _ _ rfl)
  | filledBehind hst _ _ _ => exact .goesOn .filledBehind (calls_pop hst rfl) (calls_replace _ _ _ _ rfl)
  | filled hst _ _ _ => exact .goesOn .filled (calls_pop hst rfl) (calls_replace _ _ _ _ rfl)
  | chainAwaited hst _ => exact .goesOn .chainAwaited (calls_pop hst rfl) (calls_replace _ _ _ _ rfl)
  | chainExpired hst _ => exact .goesOn .chainExpired (calls_pop hst rfl) (calls_replace _ _ _ _ rfl)
  | yielded hst => exact .goesOn .yielded (calls_pop hst rfl) (calls_replace _ _ _ _ rfl)
  | collected hst _ => exact .goesOn .collected (calls_pop hst rfl) (calls_replace _ _ _ _ rfl)
  | sweptChunk hst _ | sweptPrimary hst _ _ => exact .goesOn .swept (calls_pop hst rfl) (calls_replace _ _ _ _ rfl)
  | sweptAdd hst _ _ _ => exact .goesOn .sweptAdd (calls_pop hst rfl) (calls_replace _ _ _ _ rfl)
  | tripBegun hst _ => exact .goesOn .tripBegun (calls_pop hst rfl) (calls_trip hnum _ _ _ _)
  | tripsDone hst _ => exact .goesOn .tripsDone (calls_pop hst rfl) (calls_replace _ _ _ _ rfl)
  | tripDone hst _ _ => exact .goesOn .tripDone (calls_pop hst rfl) (calls_replace _ _ _ _ rfl)
  | answered hst | issued hst | addDone hst _ | collectedLate hst _ | roomExpired hst _ | sweptFlush hst _ _ _
  | startedNothing hst _ | refused hst | tripDropped hst _ | tripFailed hst _ _ =>
    exact .ended (calls_pop hst rfl) rfl
  | tripExpired hst _ => exact .ended (calls_pop hst rfl) (by simp)
  | driven hst hd => exact .same (by simp [tally_driven _ hfresh hst hd, Frame.isCall])
  | driveDone hst hd => exact .same (by simp [tally_driveDone _ hd, tally_pop _ hst, Frame.isCall])
  | carried hst hd => exact .same (by simp [tally_carried _ hfresh hd, tally_pop _ hst, Frame.isCall])
  | deferred hst hd => exact .same (by simp [tally_deferred _ hd, tally_pop _ hst, Frame.isCall])
  | transportReturned hst | notified hst => exact .same (by simp [tally_pop _ hst, Frame.isCall])
  | attached hst | told hst | toldFailure hst => exact .same (by simp [tally_pop _ hst, tally_replace, Frame.isCall])
  | strayEnded _ hw | tripEnded _ hw | chainStale _ hw _ | chainQuiet _ hw _ | strayForgotten hw | tripForgotten hw
  | chainForgotten hw => exact .same (by simp [tally_endWrite _ hw])
  | chainTold _ hw _ | chainGoesOn _ hw _ | chainFailed _ hw _ =>
    exact .same (by simp [tally_endWrite _ hw, tally_push, Frame.isCall])

end System

end Outflow
