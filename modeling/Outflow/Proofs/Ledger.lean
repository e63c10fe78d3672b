import Mathlib.Logic.Function.Basic
import Outflow.Proofs.Conservation

/-! Which calls were answered, and how, and what each of them took over. -/
namespace Outflow

/-- A call that got this answer has taken `part` over. -/
inductive Contributes : Call → Reply → List UInt8 → Prop
  | added {src mode} : Contributes (.add src mode) .done src.unsent
  | refused {src err} : Contributes (.add src .nonBlocking) (.refused err) []
  | broken {src err part} (h : part <+: src.unsent) : Contributes (.add src .blocking) (.refused err) part
  | flushed {mode more} : Contributes (.flush mode) (.pending more) []
  | flushRefused {mode err} : Contributes (.flush mode) (.refused err) []
  | registered : Contributes .registerInterest .done []
  | reset : Contributes .reset .done []
  | recycled : Contributes .recycle .done []

def Call.isBlocking : Call → Bool
  | .add _ .blocking | .flush .blocking => true
  | _ => false

def Reply.isRefusal : Reply → Bool
  | refused _ => true
  | _ => false

/-- The data of an add that was accepted. -/
def accepted : Call × Reply → List UInt8
  | (.add src _, .done) => src.unsent
  | _ => []

/-- Only a blocking call that was refused may have taken part of its data over. -/
theorem Contributes.eq_accepted {c : Call} {reply : Reply} {part : List UInt8} (h : Contributes c reply part)
    (hr : c.isBlocking = false ∨ reply.isRefusal = false) : part = accepted (c, reply) := by
  cases h <;> first | rfl | simp [Call.isBlocking, Reply.isRefusal] at hr

theorem flatten_eq_accepted {exchanges : List (Call × Reply)} {parts : List (List UInt8)}
    (h : List.Forall₂ (fun e part => Contributes e.1 e.2 part) exchanges parts)
    (hdone : ∀ e ∈ exchanges, e.1.isBlocking = false ∨ e.2.isRefusal = false) :
    parts.flatten = exchanges.flatMap accepted := by
  induction h with
  | nil => rfl
  | cons hpart _ ih =>
    rw [List.forall_mem_cons] at hdone
    simp [hpart.eq_accepted hdone.1, ih hdone.2]

inductive Starter.Serves : Starter → Call → List UInt8 → Prop
  | add {src} : Serves .add (.add src .nonBlocking) src.unsent
  | flush : Serves .flush (.flush .nonBlocking) []

inductive Goal.Serves : Goal → Call → List UInt8 → Prop
  | flush : Serves .flush (.flush .blocking) []
  | add {rest src part} (h : part ++ rest.unsent = src.unsent) : Serves (.add rest) (.add src .blocking) part

/-- The frame belongs to such a call, which has taken `part` over so far. -/
inductive Frame.Serves : Frame → Call → List UInt8 → Prop
  | answering : Serves (.answering .done) .registerInterest []
  | starting {starter g c part} (h : starter.Serves c part) : Serves (.starting starter g) c part
  | issuing {m starter c part} (h : starter.Serves c part) : Serves (.issuing m starter) c part
  | adding {rest src part} (h : part ++ rest.unsent = src.unsent) : Serves (.adding rest) (.add src .blocking) part
  | awaitingRoom {src buffered limit} : Serves (.awaitingRoom src buffered limit) (.add src .nonBlocking) []
  | admitted {src g} : Serves (.admitted src g) (.add src .nonBlocking) []
  | refusing {err g src} : Serves (.refusing err g) (.add src .nonBlocking) []
  | awaitingChain {goal c part} (h : goal.Serves c part) : Serves (.awaitingChain goal) c part
  | yielding {goal g c part} (h : goal.Serves c part) : Serves (.yielding goal g) c part
  | collecting {goal c part} (h : goal.Serves c part) : Serves (.collecting goal) c part
  | sweeping {sweep c part} (h : sweep.goal.Serves c part) : Serves (.sweeping sweep) c part
  | writing {buf sweep c part} (h : sweep.goal.Serves c part) : Serves (.writing buf sweep) c part
  | awaitingReply {w sweep c part} (h : sweep.goal.Serves c part) : Serves (.awaitingReply w sweep) c part

theorem Starter.Serves.contributes {starter : Starter} {c : Call} {part : List UInt8} (h : starter.Serves c part)
    (more : Bool) : Contributes c (starter.reply more) part := by
  cases h with
  | add => exact .added
  | flush => exact .flushed

theorem Goal.Serves.refused {goal : Goal} {c : Call} {part : List UInt8} (h : goal.Serves c part) (err : Error) :
    Contributes c (.refused err) part := by
  cases h with
  | flush => exact .flushRefused
  | add h => exact .broken ⟨_, h⟩

/-- The calls that are being made, the last one first, and those that were answered, in the order of the answers. -/
structure Ledger where
  pending : List (ThreadId × Call) := []
  settled : List (Call × Reply) := []

namespace Ledger

def enter (l : Ledger) : Action → Ledger
  | .call t c => { l with pending := (t, c) :: l.pending }
  | _ => l

/-- An answer is for the last call of its thread that has none. -/
def settle (l : Ledger) (t : ThreadId) (reply : Reply) : Ledger :=
  match l.pending.find? fun e => e.1 == t with
  | some e => { pending := l.pending.eraseP fun e => e.1 == t, settled := l.settled ++ [(e.2, reply)] }
  | none => l

def note (l : Ledger) (m : System.Move) : Ledger :=
  match m.action.thread, m.signal with
  | some t, some (.replied reply) => (l.enter m.action).settle t reply
  | _, _ => l.enter m.action

variable {l : Ledger} {s s' : System} {a : Action} {sig : Option Signal} {t : ThreadId} {c : Call} {reply : Reply}

theorem enter_of_not_call (ha : ∀ t c, a ≠ .call t c) : l.enter a = l := by
  cases a with
  | call t c => exact absurd rfl (ha t c)
  | _ => rfl

theorem note_of_not_replied (hsig : ∀ reply, sig ≠ some (.replied reply)) : l.note ⟨s, a, s', sig⟩ = l.enter a := by
  unfold note
  split
  · next hreply => exact absurd hreply (hsig _)
  · rfl

theorem note_of_replied (ht : a.thread = some t) :
    l.note ⟨s, a, s', some (.replied reply)⟩ = (l.enter a).settle t reply := by
  simp only [note, ht]

theorem settle_of_pending {before after : List (ThreadId × Call)} (hl : l.pending = before ++ (t, c) :: after)
    (hbefore : ∀ e ∈ before, e.1 ≠ t) :
    l.settle t reply = { pending := before ++ after, settled := l.settled ++ [(c, reply)] } := by
  have hskip : (before.find? fun e => e.1 == t) = none := by simpa using hbefore
  have herase := List.eraseP_append_right (p := fun e => e.1 == t) ((t, c) :: after) (by simpa using hbefore)
  simp [settle, hl, hskip, herase]

end Ledger

/-- A call in progress, and what it has taken over so far. -/
structure Share where
  thread : ThreadId
  call : Call
  part : List UInt8

/-- What the calls in progress and those that were answered have taken over. -/
def Share.total (shares : List Share) (parts : List (List UInt8)) : List UInt8 :=
  parts.flatten ++ shares.flatMap Share.part

namespace System

variable {config : Config} {s s' : System} {moves : List Move} {a : Action} {sig : Option Signal}

def ledger (moves : List Move) : Ledger := moves.foldl Ledger.note {}

theorem ledger_snoc (moves : List Move) (m : Move) : ledger (moves ++ [m]) = (ledger moves).note m := by
  simp [ledger]

/-- The frames of a thread that belong to calls. -/
def openCalls (s : System) (t : ThreadId) : List Frame := (s.thread t).stack.filter Frame.isCall

theorem mem_calls_iff {f : Frame} : f ∈ s.tally .calls ↔ ∃ t, f ∈ s.openCalls t := by
  rw [mem_tally_iff _ (fun _ => rfl) fun _ => rfl]
  refine exists_congr fun t => ?_
  simp only [openCalls, List.mem_filter, Tally.calls_ofFrame]
  constructor
  · rintro ⟨g, hg, hf⟩
    split at hf
    · next hcall => exact List.mem_singleton.1 hf ▸ ⟨hg, hcall⟩
    · simp at hf
  · rintro ⟨hf, hcall⟩
    exact ⟨f, hf, by simp [hcall]⟩

theorem isCall_of_mem_calls {f : Frame} (h : f ∈ s.tally .calls) : f.isCall = true := by
  obtain ⟨t, ht⟩ := mem_calls_iff.1 h
  exact (List.mem_filter.1 ht).2

/-- No call is in progress. -/
def Resting (s : System) : Prop := s.collect .calls = []

instance (s : System) : Decidable s.Resting := inferInstanceAs (Decidable (_ = []))

theorem Resting.openCalls_eq_nil (h : s.Resting) (t : ThreadId) : s.openCalls t = [] := by
  refine List.eq_nil_iff_forall_not_mem.2 fun f hf => ?_
  have hnone : s.collect .calls = [] := h
  have hmem : f ∈ s.collect .calls := mem_calls_iff.2 ⟨t, hf⟩
  simp [hnone] at hmem

@[simp]
theorem openCalls_setThread (s : System) (t : ThreadId) (th : Thread) :
    (s.setThread t th).openCalls = Function.update s.openCalls t (th.stack.filter Frame.isCall) := by
  funext u
  simp only [openCalls, thread_setThread, Function.update_apply]
  split <;> rfl

@[simp]
theorem openCalls_setStack (s : System) (t : ThreadId) (stack : List Frame) :
    (s.setStack t stack).openCalls = Function.update s.openCalls t (stack.filter Frame.isCall) :=
  openCalls_setThread s t _

theorem openCalls_push (s : System) (t : ThreadId) {frame : Frame} (hf : frame.isCall = true) :
    (s.push t frame).openCalls = Function.update s.openCalls t (frame :: s.openCalls t) := by
  simp [push, openCalls, hf]

theorem openCalls_push_other (s : System) (t : ThreadId) {frame : Frame} (hf : frame.isCall = false) :
    (s.push t frame).openCalls = s.openCalls := by
  simp [push, openCalls, hf]

@[simp]
theorem openCalls_setConn (s : System) (conn : Connection) : (s.setConn conn).openCalls = s.openCalls := rfl

@[simp]
theorem openCalls_setMarkers (s : System) (markers : Markers) : (s.setMarkers markers).openCalls = s.openCalls := rfl

@[simp]
theorem openCalls_setAnswers (s : System) (answers : Table Answer) :
    (s.setAnswers answers).openCalls = s.openCalls := rfl

@[simp]
theorem openCalls_endWrite (s : System) (w : WriteId) : (s.endWrite w).openCalls = s.openCalls := rfl

@[simp]
theorem openCalls_disown (s : System) (w : WriteId) : (s.disown w).openCalls = s.openCalls := rfl

@[simp]
theorem openCalls_handOver (s : System) (t : ThreadId) (h : Handed) : (s.handOver t h).1.openCalls = s.openCalls := by
  exact openCalls_push_other _ _ rfl

theorem openCalls_begin (s : System) (t : ThreadId) (starter : Starter) (g : Guard) (store : Store) (write : Write) :
    (s.begin t starter g store write).openCalls
      = Function.update s.openCalls t (.issuing s.markers.next starter :: s.openCalls t) := by
  have hcarry (s : System) (job : Job) : (s.push t (.carrying job)).openCalls = s.openCalls :=
    openCalls_push_other s t rfl
  have hissue (s : System) (m : Nat) : (s.push t (.issuing m starter)).openCalls
      = Function.update s.openCalls t (.issuing m starter :: s.openCalls t) := openCalls_push s t rfl
  rw [begin, hcarry, hissue]
  rfl

theorem openCalls_of_stack {t : ThreadId} {frame : Frame} {rest : List Frame}
    (hst : (s.thread t).stack = frame :: rest) (hf : frame.isCall = true) :
    s.openCalls t = frame :: rest.filter Frame.isCall := by
  simp [openCalls, hst, hf]

theorem openCalls_pop_other {t : ThreadId} {frame : Frame} {rest : List Frame}
    (hst : (s.thread t).stack = frame :: rest) (hf : frame.isCall = false) :
    (s.setStack t rest).openCalls = s.openCalls := by
  simp [openCalls, hst, hf]

/-- What one step does to the calls in progress. -/
inductive Served (s : System) (a : Action) (s' : System) (sig : Option Signal) : Prop
  | aside (ha : ∀ t c, a ≠ .call t c) (hsig : ∀ reply, sig ≠ some (.replied reply))
      (hcalls : s'.openCalls = s.openCalls) (htaken : s.takenBy a = [])
  | begun {t c f} (ha : a = .call t c) (hsig : ∀ reply, sig ≠ some (.replied reply))
      (hcalls : s'.openCalls = Function.update s.openCalls t (f :: s.openCalls t))
      (hserves : f.Serves c (s.takenBy a))
  | atOnce {t c reply} (ha : a = .call t c) (hsig : sig = some (.replied reply)) (hcalls : s'.openCalls = s.openCalls)
      (h : Contributes c reply (s.takenBy a))
  | goesOn {t f f' rest} (ha : a = .run t ∨ a = .expire t) (hsig : ∀ reply, sig ≠ some (.replied reply))
      (hf : s.openCalls t = f :: rest) (hcalls : s'.openCalls = Function.update s.openCalls t (f' :: rest))
      (h : ∀ c part, f.Serves c part → f'.Serves c (part ++ s.takenBy a))
  | ended {t f rest reply} (ha : a = .run t ∨ a = .expire t) (hsig : sig = some (.replied reply))
      (hf : s.openCalls t = f :: rest) (hcalls : s'.openCalls = Function.update s.openCalls t rest)
      (h : ∀ c part, f.Serves c part → Contributes c reply (part ++ s.takenBy a))

theorem Served.of_replace {t : ThreadId} {f f' : Frame} {rest : List Frame} (hst : (s.thread t).stack = f :: rest)
    (hf : f.isCall = true) (hf' : f'.isCall = true) (hs' : s'.openCalls = (s.setStack t (f' :: rest)).openCalls)
    (ha : a = .run t ∨ a = .expire t) (hsig : ∀ reply, sig ≠ some (.replied reply))
    (h : ∀ c part, f.Serves c part → f'.Serves c (part ++ s.takenBy a)) : Served s a s' sig := by
  refine .goesOn ha hsig (openCalls_of_stack hst hf) ?_ h
  simp [hs', hf']

theorem Served.of_pop {t : ThreadId} {f : Frame} {rest : List Frame} {reply : Reply}
    (hst : (s.thread t).stack = f :: rest) (hf : f.isCall = true)
    (hs' : s'.openCalls = (s.setStack t rest).openCalls) (ha : a = .run t ∨ a = .expire t)
    (h : ∀ c part, f.Serves c part → Contributes c reply (part ++ s.takenBy a)) :
    Served s a s' (some (.replied reply)) := by
  refine .ended ha rfl (openCalls_of_stack hst hf) ?_ h
  simp [hs']

theorem served_step (h : Step s a s' sig) : Served s a s' sig := by
  cases h with
  | @addNothing t src mode hout hsrc =>
    have hnil := Chunk.hasRemaining_eq_false_iff.1 hsrc
    have htaken : s.takenBy (.call t (.add src mode)) = src.unsent := by cases mode <;> simp [takenBy, hnil]
    exact .atOnce rfl rfl rfl (htaken ▸ .added)
  | @addRefused _ src mode err hout hsrc herr =>
    refine .atOnce rfl rfl rfl ?_
    cases mode with
    | blocking => exact .broken (List.nil_prefix)
    | nonBlocking => simpa [takenBy, herr] using .refused
  | addBlocking hout hsrc herr => exact .begun rfl (by simp) (openCalls_push _ _ rfl) (.adding rfl)
  | addGranted hout hsrc herr hfree =>
    refine .begun rfl (by simp) (openCalls_push _ _ rfl) (.starting ?_)
    simpa [takenBy, herr, hfree] using .add
  | @addQueued _ src _ hout hsrc herr hheld hroom =>
    refine .atOnce rfl rfl rfl ?_
    simpa [takenBy, herr, hroom, Except.isOk, Except.toBool] using .added
  | addFull hout hsrc herr hheld hroom =>
    refine .begun rfl (by simp) (openCalls_push _ _ rfl) ?_
    simpa [takenBy, herr, hheld, hroom, Except.isOk, Except.toBool] using .awaitingRoom
  | flushRefused _ _ => exact .atOnce rfl rfl rfl .flushRefused
  | flushAwaits _ _ _ => exact .begun rfl (by simp) (openCalls_push _ _ rfl) (.awaitingChain .flush)
  | flushCollects _ _ _ => exact .begun rfl (by simp) (openCalls_push _ _ rfl) (.collecting .flush)
  | flushHeld _ _ _ | flushNothing _ _ _ _ => exact .atOnce rfl rfl rfl .flushed
  | flushBegun hout herr hfree htake => exact .begun rfl (by simp) (openCalls_begin _ _ _ _ _ _) (.issuing .flush)
  | registered _ _ => exact .atOnce rfl rfl rfl .registered
  | registeredFree hout hfree =>
    refine .begun rfl (by simp) ?_ .answering
    rw [openCalls_push_other _ _ rfl, openCalls_push _ _ rfl]
  | reset _ => exact .atOnce rfl rfl rfl .reset
  | recycle _ => exact .atOnce rfl rfl rfl .recycled
  | answered hst =>
    refine .of_pop hst rfl rfl (.inl rfl) fun c part hc => ?_
    cases hc
    simpa [takenBy_run hst, takes] using .registered
  | startedNothing hst htake =>
    refine .of_pop hst rfl rfl (.inl rfl) fun c part hc => ?_
    cases hc with
    | starting h => simpa [takenBy_run hst, takes] using h.contributes s.hasData
  | issued hst =>
    refine .of_pop hst rfl rfl (.inl rfl) fun c part hc => ?_
    cases hc with
    | issuing h => simpa [takenBy_run hst, takes] using h.contributes s.hasData
  | addDone hst hsrc =>
    refine .of_pop hst rfl rfl (.inl rfl) fun c part hc => ?_
    cases hc with
    | adding h =>
      have hnil := Chunk.hasRemaining_eq_false_iff.1 hsrc
      rw [hnil, List.append_nil] at h
      simpa [takenBy_run hst, takes, hnil, h] using .added
  | refused hst =>
    refine .of_pop hst rfl rfl (.inl rfl) fun c part hc => ?_
    cases hc
    simpa [takenBy_run hst, takes] using .refused
  | collectedLate hst herr =>
    refine .of_pop hst rfl rfl (.inl rfl) fun c part hc => ?_
    cases hc with
    | collecting h => simpa [takenBy_run hst, takes] using h.refused _
  | sweptFlush hst hc hp hg =>
    refine .of_pop hst rfl rfl (.inl rfl) fun c part hc => ?_
    cases hc with
    | sweeping h =>
      rw [hg] at h
      cases h
      simpa [takenBy_run hst, takes] using .flushed
  | tripDropped hst hans | tripFailed hst hans hw =>
    refine .of_pop hst rfl rfl (.inl rfl) fun c part hc => ?_
    cases hc with
    | awaitingReply h => simpa [takenBy_run hst, takes] using h.refused _
  | tripExpired hst hans =>
    refine .of_pop hst rfl (by simp) (.inr rfl) fun c part hc => ?_
    cases hc with
    | awaitingReply h => simpa using h.refused _
  | roomExpired hst hheld =>
    refine .of_pop hst rfl rfl (.inr rfl) fun c part hc => ?_
    cases hc
    simpa using .refused
  | @started t rest starter g store write hst htake =>
    have hs' : ((s.setStack t rest).begin t starter g store write).openCalls
        = (s.setStack t (.issuing s.markers.next starter :: rest)).openCalls := by
      simp only [openCalls_begin, openCalls_setStack, Function.update_idem, Function.update_self]
      rfl
    refine .of_replace hst rfl rfl hs' (.inl rfl) (by simp) fun c part hc => ?_
    cases hc with
    | starting h => simpa [takenBy_run hst, takes] using .issuing h
  | absorbed hst hsrc habs =>
    refine .of_replace hst rfl rfl rfl (.inl rfl) (by simp) fun c part hc => ?_
    cases hc with
    | adding h =>
      refine .adding ?_
      simp [takenBy_run hst, takes, habs, ← h]
  | filledBehind hst hsrc habs hheld =>
    refine .of_replace hst rfl rfl rfl (.inl rfl) (by simp) fun c part hc => ?_
    cases hc with
    | adding h =>
      refine .awaitingChain (.add ?_)
      simp [takenBy_run hst, takes, habs, ← h]
  | filled hst hsrc habs hfree =>
    refine .of_replace hst rfl rfl rfl (.inl rfl) (by simp) fun c part hc => ?_
    cases hc with
    | adding h =>
      refine .collecting (.add ?_)
      simp [takenBy_run hst, takes, habs, ← h]
  | roomMade hst hfree =>
    refine .of_replace hst rfl rfl rfl (.inl rfl) (by simp) fun c part hc => ?_
    cases hc
    simpa [takenBy_run hst, takes] using .admitted
  | admittedLate hst herr =>
    refine .of_replace hst rfl rfl rfl (.inl rfl) (by simp) fun c part hc => ?_
    cases hc
    simpa [takenBy_run hst, takes, herr] using .refusing
  | admitted hst herr =>
    refine .of_replace hst rfl rfl rfl (.inl rfl) (by simp) fun c part hc => ?_
    cases hc
    simpa [takenBy_run hst, takes, herr] using .starting .add
  | chainAwaited hst hfree =>
    refine .of_replace hst rfl rfl rfl (.inl rfl) (by simp) fun c part hc => ?_
    cases hc with
    | awaitingChain h => simpa [takenBy_run hst, takes] using .yielding h
  | yielded hst =>
    refine .of_replace hst rfl rfl rfl (.inl rfl) (by simp) fun c part hc => ?_
    cases hc with
    | yielding h => simpa [takenBy_run hst, takes] using .collecting h
  | collected hst herr =>
    refine .of_replace hst rfl rfl rfl (.inl rfl) (by simp) fun c part hc => ?_
    cases hc with
    | collecting h => simpa [takenBy_run hst, takes] using .sweeping h
  | sweptChunk hst hc | sweptPrimary hst hc hp =>
    refine .of_replace hst rfl rfl rfl (.inl rfl) (by simp) fun c part hc => ?_
    cases hc with
    | sweeping h => simpa [takenBy_run hst, takes] using .writing h
  | sweptAdd hst hc hp hg =>
    refine .of_replace hst rfl rfl rfl (.inl rfl) (by simp) fun c part hc => ?_
    cases hc with
    | sweeping h =>
      rw [hg] at h
      cases h with
      | add h => exact .adding (by simpa [takenBy_run hst, takes] using h)
  | tripBegun hst hbuf =>
    refine .of_replace hst rfl rfl (openCalls_handOver _ _ _) (.inl rfl) (by simp) fun c part hc => ?_
    cases hc with
    | writing h => simpa [takenBy_run hst, takes] using .awaitingReply h
  | tripsDone hst hbuf =>
    refine .of_replace hst rfl rfl rfl (.inl rfl) (by simp) fun c part hc => ?_
    cases hc with
    | writing h => simpa [takenBy_run hst, takes] using .sweeping h
  | tripDone hst hans hw =>
    refine .of_replace hst rfl rfl rfl (.inl rfl) (by simp) fun c part hc => ?_
    cases hc with
    | awaitingReply h => simpa [takenBy_run hst, takes] using .writing h
  | chainExpired hst hheld =>
    refine .of_replace hst rfl rfl rfl (.inr rfl) (by simp) fun c part hc => ?_
    cases hc with
    | awaitingChain h => simpa using .collecting h
  | driven hst hd | carried hst hd =>
    refine .aside (by simp) (by simp) ?_ (by simp [takenBy_run hst, takes])
    simp [launch, openCalls, hst, Frame.isCall]
  | driveDone hst _ | deferred hst _ | told hst | toldFailure hst =>
    refine .aside (by simp) (by simp) ?_ (by simp [takenBy_run hst, takes])
    simp [openCalls, hst, Frame.isCall]
  | transportReturned hst | notified hst => exact .aside (by simp) (by simp) (openCalls_pop_other hst rfl) (by simp)
  | attached hst =>
    refine .aside (by simp) (by simp) ?_ (by simp)
    simp [openCalls, hst, Frame.isCall]
  | chainTold hout hw hset | chainGoesOn hout hw hset | chainFailed hout hw hset =>
    exact .aside (by simp) (by simp) (openCalls_push_other _ _ rfl) rfl
  | strayEnded _ _ | tripEnded _ _ | chainStale _ _ _ | chainQuiet _ _ _ | strayForgotten _ | tripForgotten _
  | chainForgotten _ | transportPending =>
    exact .aside (by simp) (by simp) rfl rfl

/-- Each frame of a call has its share, and each call that was answered its part. -/
structure Matched (s : System) (l : Ledger) (shares : List Share) (parts : List (List UInt8)) : Prop where
  pending : l.pending = shares.map fun r => (r.thread, r.call)
  serves : ∀ t, List.Forall₂ (fun f r => f.Serves r.call r.part) (s.openCalls t)
    (shares.filter fun r => r.thread == t)
  settled : List.Forall₂ (fun e part => Contributes e.1 e.2 part) l.settled parts

variable {l : Ledger} {shares : List Share} {parts : List (List UInt8)}

/-- The innermost frame of a call has the first share of its thread. -/
theorem Matched.split (hm : Matched s l shares parts) {t : ThreadId} {f : Frame} {rest : List Frame}
    (hf : s.openCalls t = f :: rest) : ∃ before r after, shares = before ++ r :: after ∧
      (∀ x ∈ before, x.thread ≠ t) ∧ r.thread = t ∧ f.Serves r.call r.part ∧
      List.Forall₂ (fun f r => f.Serves r.call r.part) rest (after.filter fun r => r.thread == t) := by
  have hserves := hm.serves t
  rw [hf, List.forall₂_cons_left_iff] at hserves
  obtain ⟨r, others, hr, hrest, heq⟩ := hserves
  obtain ⟨before, after, rfl, hbefore, hthread, rfl⟩ := List.filter_eq_cons_iff.1 heq
  exact ⟨before, r, after, rfl, by simpa using hbefore, by simpa using hthread, hr, hrest⟩

/-- The call of the innermost frame takes `part` over. -/
theorem Matched.extend (hm : Matched s l shares parts) {t : ThreadId} {f f' : Frame} {rest : List Frame}
    {part : List UInt8} (hf : s.openCalls t = f :: rest)
    (hcalls : s'.openCalls = Function.update s.openCalls t (f' :: rest))
    (h : ∀ c part', f.Serves c part' → f'.Serves c (part' ++ part)) :
    ∃ before r after, shares = before ++ r :: after ∧
      Matched s' l (before ++ { r with part := r.part ++ part } :: after) parts := by
  obtain ⟨before, r, after, rfl, hbefore, hthread, hr, hrest⟩ := hm.split hf
  refine ⟨before, r, after, rfl, by simp [hm.pending], fun u => ?_, hm.settled⟩
  have hnone : before.filter (fun r => r.thread == t) = [] := by simpa using hbefore
  have hserves := hm.serves u
  rw [hcalls, Function.update_apply]
  by_cases hu : u = t
  · subst hu
    simpa [hnone, hthread] using ⟨h _ _ hr, hrest⟩
  · simpa [hu, hthread, Ne.symm hu] using hserves

/-- The call of the innermost frame is answered. -/
theorem Matched.settle (hm : Matched s l shares parts) {t : ThreadId} {f : Frame} {rest : List Frame}
    {reply : Reply} {part : List UInt8} (hf : s.openCalls t = f :: rest)
    (hcalls : s'.openCalls = Function.update s.openCalls t rest)
    (h : ∀ c part', f.Serves c part' → Contributes c reply (part' ++ part)) :
    ∃ before r after, shares = before ++ r :: after ∧
      Matched s' (l.settle t reply) (before ++ after) (parts ++ [r.part ++ part]) := by
  obtain ⟨before, r, after, rfl, hbefore, hthread, hr, hrest⟩ := hm.split hf
  have hpending := hm.pending
  simp only [List.map_append, List.map_cons, hthread] at hpending
  rw [Ledger.settle_of_pending hpending (by simpa using hbefore)]
  refine ⟨before, r, after, rfl, by simp, fun u => ?_, ?_⟩
  · have hnone : before.filter (fun r => r.thread == t) = [] := by simpa using hbefore
    have hserves := hm.serves u
    rw [hcalls, Function.update_apply]
    by_cases hu : u = t
    · subst hu
      simpa [hnone] using hrest
    · simpa [hu, hthread, Ne.symm hu] using hserves
  · exact List.rel_append hm.settled (.cons (h _ _ hr) .nil)

theorem eq_nil_of_length_le_one {before after : List Share} {r : Share}
    (h : (before ++ r :: after).length ≤ 1) : before = [] ∧ after = [] := by
  simp only [List.length_append, List.length_cons] at h
  exact ⟨List.length_eq_zero_iff.1 (by omega), List.length_eq_zero_iff.1 (by omega)⟩

theorem matched_step (hm : Matched s l shares parts) (h : Served s a s' sig) :
    ∃ shares' parts', Matched s' (l.note ⟨s, a, s', sig⟩) shares' parts' ∧
      (Share.total shares' parts').Perm (Share.total shares parts ++ s.takenBy a) ∧
      (shares.length ≤ 1 → (∀ t c, a = .call t c → shares = []) →
        shares'.length ≤ 1 ∧ Share.total shares' parts' = Share.total shares parts ++ s.takenBy a) := by
  cases h with
  | aside ha hsig hcalls htaken =>
    refine ⟨shares, parts, ?_, by simp [htaken], fun hone _ => ⟨hone, by simp [htaken]⟩⟩
    rw [Ledger.note_of_not_replied hsig, Ledger.enter_of_not_call ha]
    exact ⟨hm.pending, hcalls ▸ hm.serves, hm.settled⟩
  | @begun t c f ha hsig hcalls hserves =>
    refine ⟨⟨t, c, s.takenBy a⟩ :: shares, parts, ?_, ?_, ?_⟩
    · rw [Ledger.note_of_not_replied hsig, ha]
      refine ⟨by simp [Ledger.enter, hm.pending], fun u => ?_, hm.settled⟩
      rw [hcalls, Function.update_apply]
      by_cases hu : u = t
      · subst hu
        simpa [ha] using ⟨ha ▸ hserves, hm.serves u⟩
      · simpa [hu, Ne.symm hu] using hm.serves u
    · simpa [Share.total] using List.perm_append_comm.append_left _
    · intro _ hnone
      simp [hnone t c ha, Share.total]
  | @atOnce t c reply ha hsig hcalls h =>
    have hthread : a.thread = some t := by rw [ha]; rfl
    refine ⟨shares, parts ++ [s.takenBy a], ?_, ?_, ?_⟩
    · rw [hsig, Ledger.note_of_replied hthread, ha]
      have hpending : (l.enter (.call t c)).pending = [] ++ (t, c) :: l.pending := rfl
      rw [Ledger.settle_of_pending hpending (by simp)]
      refine ⟨hm.pending, hcalls ▸ hm.serves, ?_⟩
      exact List.rel_append hm.settled (.cons (ha ▸ h) .nil)
    · simpa [Share.total] using List.perm_append_comm.append_left _
    · intro hone hnone
      simp [hnone t c ha, Share.total]
  | @goesOn t f f' rest ha hsig hf hcalls h =>
    have hnot : ∀ t c, a ≠ .call t c := by rcases ha with rfl | rfl <;> simp
    obtain ⟨before, r, after, rfl, hm'⟩ := hm.extend hf hcalls h
    refine ⟨before ++ { r with part := r.part ++ s.takenBy a } :: after, parts, ?_, ?_, ?_⟩
    · rwa [Ledger.note_of_not_replied hsig, Ledger.enter_of_not_call hnot]
    · simpa [Share.total] using ((List.perm_append_comm.append_left _).append_left _).append_left _
    · intro hone _
      simp [eq_nil_of_length_le_one hone, Share.total]
  | @ended t f rest reply ha hsig hf hcalls h =>
    have hnot : ∀ t c, a ≠ .call t c := by rcases ha with rfl | rfl <;> simp
    have hthread : a.thread = some t := by rcases ha with rfl | rfl <;> rfl
    obtain ⟨before, r, after, rfl, hm'⟩ := hm.settle hf hcalls h
    refine ⟨before ++ after, parts ++ [r.part ++ s.takenBy a], ?_, ?_, ?_⟩
    · rwa [hsig, Ledger.note_of_replied hthread, Ledger.enter_of_not_call hnot]
    · rw [← Multiset.coe_eq_coe]
      simp only [Share.total, List.flatten_append, List.flatten_singleton, List.flatMap_append, List.flatMap_cons,
        ← Multiset.coe_add]
      abel
    · intro hone _
      simp [eq_nil_of_length_le_one hone, Share.total]

theorem Matched.shares_eq_nil (hm : Matched s l shares parts) (hrest : s.Resting) : shares = [] := by
  refine List.eq_nil_iff_forall_not_mem.2 fun r hr => ?_
  have hserves := hm.serves r.thread
  rw [hrest.openCalls_eq_nil, List.forall₂_nil_left_iff, List.filter_eq_nil_iff] at hserves
  exact hserves r hr (by simp)

/-- No call is made while another one is in progress. -/
def Move.IsSequential (m : Move) : Prop :=
  match m.action with
  | .call _ _ => m.before.Resting
  | _ => True

instance : DecidablePred Move.IsSequential
  | ⟨_, .call _ _, _, _⟩ => inferInstanceAs (Decidable (Resting _))
  | ⟨_, .run _, _, _⟩ | ⟨_, .expire _, _, _⟩ | ⟨_, .resume _, _, _⟩ | ⟨_, .complete _ _ _, _, _⟩
  | ⟨_, .abandon _, _, _⟩ | ⟨_, .transportPending _, _, _⟩ => inferInstanceAs (Decidable True)

theorem Move.IsSequential.resting {m : Move} (h : m.IsSequential) {t : ThreadId} {c : Call}
    (ha : m.action = .call t c) : m.before.Resting := by
  simpa [Move.IsSequential, ha] using h

theorem ledger_run (run : Run (fresh config) moves s) :
    ∃ shares parts, Matched s (ledger moves) shares parts ∧ (taken moves).Perm (Share.total shares parts) ∧
      ((∀ m ∈ moves, m.IsSequential) → shares.length ≤ 1 ∧ taken moves = Share.total shares parts) := by
  induction run with
  | nil => exact ⟨[], [], ⟨rfl, fun _ => .nil, .nil⟩, .nil, fun _ => ⟨Nat.zero_le 1, rfl⟩⟩
  | @snoc moves s a s' sig run h ih =>
    obtain ⟨shares, parts, hm, hperm, hseq⟩ := ih
    obtain ⟨shares', parts', hm', hperm', hseq'⟩ := matched_step hm (served_step (step_perform h))
    refine ⟨shares', parts', ledger_snoc moves _ ▸ hm', ?_, fun hall => ?_⟩
    · rw [taken_snoc]
      exact (hperm.append_right _).trans hperm'.symm
    · simp only [List.forall_mem_append, List.forall_mem_singleton] at hall
      obtain ⟨hone, heq⟩ := hseq hall.1
      obtain ⟨hone', heq'⟩ := hseq' hone fun t c ha => hm.shares_eq_nil (hall.2.resting ha)
      exact ⟨hone', by rw [taken_snoc, heq, heq']⟩

end System

end Outflow
