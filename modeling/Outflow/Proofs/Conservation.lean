import Mathlib.Tactic.Abel
import Outflow.Proofs.Exclusion
import Outflow.Proofs.Soundness

/-! No byte is lost and none is made up: what was taken over was confirmed, or is still somewhere. -/
namespace Outflow

/-- Bytes that the transport reports as written. -/
def Outcome.count : Outcome → Nat
  | .ok count => count.toNat
  | .error _ => 0

def Outcome.succeeds : Outcome → Bool
  | .ok count => 0 ≤ count
  | .error _ => false

theorem Outcome.written_eq_ok {outcome : Outcome} {n : Nat} (h : outcome.written = .ok n) : outcome.count = n := by
  cases outcome with
  | ok count =>
    simp only [Outcome.written] at h
    split at h <;> simp_all [Outcome.count]
  | error cause => simp [Outcome.written] at h

theorem Outcome.count_eq_zero {outcome : Outcome} {err : Error} (h : outcome.written = .error err) :
    outcome.count = 0 := by
  cases outcome with
  | ok count =>
    simp only [Outcome.written] at h
    split at h
    · simp only [Outcome.count]
      omega
    · simp at h
  | error cause => rfl

theorem Outcome.not_succeeds {outcome : Outcome} {err : Error} (h : outcome.written = .error err) :
    outcome.succeeds = false := by
  cases outcome with
  | ok count =>
    simp only [Outcome.written] at h
    split at h <;> simp_all [Outcome.succeeds]
  | error cause => rfl

/-- Bytes that wait with a frame. -/
def Frame.bytes : Frame → List UInt8
  | carrying job => job.write.unsent
  | sweeping sweep | awaitingReply _ sweep => sweep.unsent
  | writing buf sweep => buf.unsent ++ sweep.unsent
  | _ => []

def Frame.awaitsReply : Frame → Bool
  | awaitingReply _ _ => true
  | _ => false

def Handed.isChain : Handed → Bool
  | chain _ _ => true
  | trip _ | stray _ => false

def Call.isRecycle : Call → Bool
  | .recycle => true
  | _ => false

/-- An action that ends a write at the transport. -/
def Action.ends (w : WriteId) : Action → Bool
  | complete _ v _ | abandon v => decide (v = w)
  | _ => false

/-- What is left of a buffer that came back. -/
def Answer.left : Answer → List UInt8
  | returned outcome buf => buf.unsent.drop outcome.count
  | dropped => []

/-- Bytes that are on their way. -/
@[simps]
def Tally.bytes : Tally UInt8 where
  ofFrame := Frame.bytes
  ofJob job := job.write.unsent
  ofTrip buf := buf.unsent

theorem Tally.ofHanded_bytes (h : Handed) : Tally.bytes.ofHanded h = h.write.unsent := by
  cases h <;> simp [Handed.write, Write.unsent, Write.buffers]

namespace System

variable {config : Config} {s s' : System} {moves : List Move} {a : Action} {sig : Option Signal} {t : ThreadId}

/-- What an add takes over in the next step of its frame. -/
def takes (s : System) : Frame → List UInt8
  | .adding src => src.unsent.take (s.conn.absorb src).2.1
  | .admitted src _ => if s.conn.error.isNone then src.unsent else []
  | _ => []

/-- What adds take over in one step. -/
def takenBy (s : System) : Action → List UInt8
  | .call _ (.add src .nonBlocking) =>
    if s.conn.error.isNone && (!s.conn.permit.held || (s.conn.queue? src).isOk) then src.unsent else []
  | .run t => (s.thread t).stack.head?.elim [] s.takes
  | _ => []

theorem takenBy_run {frame : Frame} {rest : List Frame} (hst : (s.thread t).stack = frame :: rest) :
    s.takenBy (.run t) = s.takes frame := by
  simp [takenBy, hst]

@[simp]
theorem takenBy_resume (s : System) (t : ThreadId) : s.takenBy (.resume t) = [] := rfl

@[simp]
theorem takenBy_expire (s : System) (t : ThreadId) : s.takenBy (.expire t) = [] := rfl

@[simp]
theorem takenBy_complete (s : System) (t : ThreadId) (w : WriteId) (outcome : Outcome) :
    s.takenBy (.complete t w outcome) = [] := rfl

@[simp]
theorem takenBy_abandon (s : System) (w : WriteId) : s.takenBy (.abandon w) = [] := rfl

@[simp]
theorem takenBy_transportPending (s : System) (pending : Bool) : s.takenBy (.transportPending pending) = [] := rfl

/-- What the transport confirms in one step. -/
def confirmedBy (s : System) : Action → List UInt8
  | .complete _ w outcome =>
    match s.outstanding.find? w with
    | some h => h.write.unsent.take outcome.count
    | none => []
  | _ => []

/-- The bytes that are on their way. -/
def away (s : System) : Multiset UInt8 := s.tally .bytes + s.answers.census Answer.left

/-- All bytes that are not confirmed. -/
def bytes (s : System) : Multiset UInt8 := s.away + ↑s.conn.store.contents

/-- The transport answers every write, and those of chains with a count. Nobody stops waiting for an answer. -/
def Move.IsFaithful (m : Move) : Prop :=
  match m.action with
  | .call _ c => c.isRecycle = false
  | .expire t => ∀ f ∈ (m.before.thread t).stack.head?, f.awaitsReply = false
  | .complete _ w outcome => ∀ h ∈ m.before.outstanding.find? w, h.isChain = true → outcome.succeeds = true
  | .abandon _ => False
  | _ => True

instance : DecidablePred Move.IsFaithful
  | ⟨_, .call _ _, _, _⟩ => inferInstanceAs (Decidable (_ = _))
  | ⟨_, .expire _, _, _⟩ => inferInstanceAs (Decidable (∀ f ∈ _, _ = _))
  | ⟨_, .complete _ _ _, _, _⟩ => inferInstanceAs (Decidable (∀ h ∈ _, _ → _))
  | ⟨_, .abandon _, _, _⟩ => inferInstanceAs (Decidable False)
  | ⟨_, .run _, _, _⟩ | ⟨_, .resume _, _, _⟩ | ⟨_, .transportPending _, _, _⟩ => inferInstanceAs (Decidable True)

/-- The transport answers every write, perhaps with a failure, and nobody stops waiting for an answer. So all buffers
come back. -/
def Move.GivesBack (m : Move) : Prop :=
  match m.action with
  | .call _ c => c.isRecycle = false
  | .expire t => ∀ f ∈ (m.before.thread t).stack.head?, f.awaitsReply = false
  | .abandon _ => False
  | _ => True

instance : DecidablePred Move.GivesBack
  | ⟨_, .call _ _, _, _⟩ => inferInstanceAs (Decidable (_ = _))
  | ⟨_, .expire _, _, _⟩ => inferInstanceAs (Decidable (∀ f ∈ _, _ = _))
  | ⟨_, .abandon _, _, _⟩ => inferInstanceAs (Decidable False)
  | ⟨_, .run _, _, _⟩ | ⟨_, .resume _, _, _⟩ | ⟨_, .complete _ _ _, _, _⟩ | ⟨_, .transportPending _, _, _⟩ =>
    inferInstanceAs (Decidable True)

theorem Move.GivesBack.kept {m : Move} (h : m.GivesBack) (t : ThreadId) : m.action ≠ .call t .recycle := by
  intro ha
  simp [Move.GivesBack, ha, Call.isRecycle] at h

theorem Move.GivesBack.not_awaitingReply (h : Move.GivesBack ⟨s, .expire t, s', sig⟩) (w : WriteId) (sweep : Sweep)
    (rest : List Frame) : (s.thread t).stack ≠ .awaitingReply w sweep :: rest := by
  intro hst
  simpa [Frame.awaitsReply] using h (.awaitingReply w sweep) (by simp [hst])

theorem Move.IsFaithful.givesBack {m : Move} (h : m.IsFaithful) : m.GivesBack := by
  obtain ⟨before, action, after, signal⟩ := m
  cases action with
  | complete t w outcome => trivial
  | _ => exact h

theorem Move.IsFaithful.kept {m : Move} (h : m.IsFaithful) (t : ThreadId) : m.action ≠ .call t .recycle :=
  h.givesBack.kept t

theorem Move.IsFaithful.not_awaitingReply (h : Move.IsFaithful ⟨s, .expire t, s', sig⟩) (w : WriteId) (sweep : Sweep)
    (rest : List Frame) : (s.thread t).stack ≠ .awaitingReply w sweep :: rest :=
  h.givesBack.not_awaitingReply w sweep rest

theorem Move.IsFaithful.succeeds {w : WriteId} {outcome : Outcome} {write : Write} {flight : Flight}
    (h : Move.IsFaithful ⟨s, .complete t w outcome, s', sig⟩)
    (hw : s.outstanding.find? w = some (.chain write flight)) : outcome.succeeds = true :=
  h _ hw rfl

/-- No write is at the transport and answered at the same time, each answer brings a buffer back, and nobody stopped
waiting for one. -/
structure Answered (s : System) : Prop where
  once : ∀ w h, s.outstanding.find? w = some h → s.answers.find? w = none
  back : ∀ w, s.answers.find? w ≠ some .dropped
  awaited : ∀ w buf, s.outstanding.find? w ≠ some (.stray buf)

theorem answered_fresh (config : Config) : (fresh config).Answered := by
  constructor <;> simp [fresh]

theorem answered_step (hnum : s.Numbered) (hans : s.Answered) (h : Step s a s' sig)
    (hback : Move.GivesBack ⟨s, a, s', sig⟩) : s'.Answered := by
  have hfresh := hnum.answers _ (Nat.le_refl _)
  obtain ⟨honce, hreturned, hawaited⟩ := hans
  cases h with
  | strayForgotten hw | tripForgotten hw | chainForgotten hw => exact hback.elim
  | tripExpired hst hans => exact absurd hst (hback.not_awaitingReply _ _ _)
  | _ =>
    constructor <;> first
      | assumption
      | simp [Table.find?_set, Table.find?_erase]
        grind

/-! ### What the parts of a step move -/

variable {frame : Frame} {rest : List Frame} {w : WriteId}

@[simp]
theorem away_setConn (s : System) (conn : Connection) : (s.setConn conn).away = s.away := rfl

@[simp]
theorem away_setMarkers (s : System) (markers : Markers) : (s.setMarkers markers).away = s.away := rfl

@[simp]
theorem away_push (s : System) (t : ThreadId) (frame : Frame) : (s.push t frame).away = ↑frame.bytes + s.away := by
  rw [away, tally_push, add_assoc]
  rfl

theorem away_pop (hst : (s.thread t).stack = frame :: rest) : s.away = ↑frame.bytes + (s.setStack t rest).away := by
  rw [away, tally_pop _ hst, add_assoc]
  rfl

theorem away_replace : (s.setStack t (frame :: rest)).away = ↑frame.bytes + (s.setStack t rest).away := by
  rw [away, tally_replace, add_assoc]
  rfl

theorem away_endWrite {h : Handed} (hw : s.outstanding.find? w = some h) :
    s.away = ↑h.write.unsent + (s.endWrite w).away := by
  rw [away, tally_endWrite _ hw, Tally.ofHanded_bytes, add_assoc]
  rfl

theorem away_answers_set {answer : Answer} (hw : s.answers.find? w = none) :
    (s.setAnswers (s.answers.set w answer)).away = ↑answer.left + s.away := by
  simp only [away, tally_setAnswers, frame_setAnswers, Table.census_set,
    Table.census_erase_of_find?_eq_none _ _ _ hw]
  abel

theorem away_answers_erase {answer : Answer} (hw : s.answers.find? w = some answer) :
    s.away = ↑answer.left + (s.setAnswers (s.answers.erase w)).away := by
  simp only [away, tally_setAnswers, frame_setAnswers, s.answers.census_eq w, hw, Option.elim_some]
  abel

theorem away_replace_setAnswers (s : System) (t : ThreadId) (frame : Frame) (rest : List Frame)
    (answers : Table Answer) : ((s.setStack t (frame :: rest)).setAnswers answers).away
      = ↑frame.bytes + ((s.setStack t rest).setAnswers answers).away := by
  rw [away, tally_setAnswers, tally_replace, add_assoc]
  rfl

/-! ### The balance -/

theorem contents_takeOver (h : s.conn.store.WellFormed) (src : Chunk) :
    (s.conn.store.ensurePrimary.append src).contents = s.conn.store.contents ++ src.unsent := by
  rw [Store.contents_append (Store.wellFormed_ensurePrimary h), Store.contents_ensurePrimary]

/-- The first write of a chain carries everything stored. -/
theorem unsent_takeWrite (h : s.conn.store.WellFormed) {store : Store} {write : Write}
    (htake : s.conn.takeWrite = (store, some write)) :
    write.unsent = s.conn.store.contents ∧ store.contents = [] := by
  obtain ⟨-, heq⟩ | ⟨store', write', heq, hs, -, -, -, hw, -⟩ := Connection.takeWrite_cases h
  · simp [htake] at heq
  · rw [htake] at heq
    cases heq
    exact ⟨hw, hs⟩

theorem contents_of_takeWrite_none (h : s.conn.store.WellFormed) (htake : s.conn.takeWrite = (s.conn.store, none)) :
    s.conn.store.contents = [] := by
  obtain ⟨hc, -⟩ | ⟨_, _, heq, -⟩ := Connection.takeWrite_cases h
  · exact hc
  · simp [htake] at heq

theorem confirmedBy_complete {t : ThreadId} {outcome : Outcome} {h : Handed} (hw : s.outstanding.find? w = some h) :
    s.confirmedBy (.complete t w outcome) = h.write.unsent.take outcome.count := by
  simp [confirmedBy, hw]

theorem unsent_trip (buf : Buffer) : (Handed.trip buf).write.unsent = buf.unsent := by
  simp [Handed.write, Write.unsent, Write.buffers]

theorem isCurrent_of_sole (hsole : Permit.Sole s.conn.permit (s.tally .guards)) {write : Write} {flight : Flight}
    (hw : s.outstanding.find? w = some (.chain write flight)) : s.conn.permit.isCurrent flight.guard = true := by
  have hmem : flight.guard ∈ s.tally .guards := by
    rw [tally_endWrite _ hw]
    exact Multiset.mem_add.2 (.inl (List.mem_singleton.2 rfl))
  rw [hsole] at hmem
  split at hmem
  · next hheld =>
    rw [Multiset.mem_singleton] at hmem
    simp [Permit.isCurrent, hheld, hmem]
  · simp at hmem

theorem take_add_drop (n : Nat) (l : List UInt8) : (↑(l.take n) + ↑(l.drop n) : Multiset UInt8) = ↑l := by
  rw [Multiset.coe_add, List.take_append_drop]

/-- What one step confirms is gone from where it was, and what it takes over is there. -/
theorem balance_step (hnum : s.Numbered) (hwf : s.conn.store.WellFormed) (hans : s.Answered)
    (hsole : Permit.Sole s.conn.permit (s.tally .guards)) (h : Step s a s' sig)
    (hfaith : Move.IsFaithful ⟨s, a, s', sig⟩) :
    ↑(s.confirmedBy a) + s'.bytes = s.bytes + ↑(s.takenBy a) := by
  have hfresh := hnum.outstanding _ (Nat.le_refl _)
  cases h with
  | @addNothing _ _ mode hout hsrc =>
    cases mode <;> simp [confirmedBy, takenBy, Chunk.hasRemaining_eq_false_iff.1 hsrc]
  | @addRefused _ _ mode _ hout hsrc herr => cases mode <;> simp [confirmedBy, takenBy, herr]
  | addGranted hout hsrc herr hfree =>
    simp [confirmedBy, takenBy, bytes, Frame.bytes, herr, hfree, contents_takeOver hwf, add_assoc]
  | addQueued hout hsrc herr hheld hroom =>
    simp [confirmedBy, takenBy, bytes, herr, hheld, hroom, Except.isOk, Except.toBool, Connection.queue?_eq_ok hroom,
      add_assoc]
  | addFull hout hsrc herr hheld hroom =>
    simp [confirmedBy, takenBy, bytes, Frame.bytes, herr, hheld, hroom, Except.isOk, Except.toBool]
  | flushBegun hout herr hfree htake =>
    obtain ⟨hw, hs⟩ := unsent_takeWrite hwf htake
    simp [confirmedBy, takenBy, bytes, begin, Frame.bytes, hw, hs, add_comm]
  | @recycle t hout => exact absurd rfl (hfaith.kept t)
  | driven hst hd =>
    simp [confirmedBy, takenBy_run hst, takes, bytes, away, tally_driven _ hfresh hst hd, Frame.bytes]
  | driveDone hst hd =>
    simp [confirmedBy, takenBy_run hst, takes, bytes, away, tally_driveDone _ hd, tally_pop _ hst, Frame.bytes]
  | carried hst hd =>
    simp [confirmedBy, takenBy_run hst, takes, bytes, away, tally_carried _ hfresh hd, tally_pop _ hst, Frame.bytes]
  | deferred hst hd =>
    simp [confirmedBy, takenBy_run hst, takes, bytes, away, tally_deferred _ hd, tally_pop _ hst, Frame.bytes]
  | started hst htake =>
    obtain ⟨hw, hs⟩ := unsent_takeWrite hwf htake
    simp [confirmedBy, takenBy_run hst, takes, bytes, begin, away_pop hst, Frame.bytes, hw, hs, add_comm]
  | addDone hst hsrc =>
    simp [confirmedBy, takenBy_run hst, takes, bytes, away_pop hst, Frame.bytes,
      Chunk.hasRemaining_eq_false_iff.1 hsrc]
  | @absorbed _ _ src _ _ hst hsrc habs | @filledBehind _ _ src _ _ hst hsrc habs _
  | @filled _ _ src _ _ hst hsrc habs _ =>
    have hc := Connection.contents_absorb hwf src
    rw [habs] at hc
    simp [confirmedBy, takenBy_run hst, takes, bytes, away_pop hst, away_replace, Frame.bytes, habs, hc, add_assoc]
  | admittedLate hst herr =>
    simp [confirmedBy, takenBy_run hst, takes, bytes, away_pop hst, away_replace, Frame.bytes, herr]
  | admitted hst herr =>
    simp [confirmedBy, takenBy_run hst, takes, bytes, away_pop hst, away_replace, Frame.bytes, herr,
      contents_takeOver hwf, add_assoc]
  | @collected _ _ goal hst herr =>
    have hc : s.conn.store.contents = s.conn.store.front ++ s.conn.store.queued := rfl
    simp only [confirmedBy, takenBy_run hst, takes, bytes, away_pop hst, away_replace, Frame.bytes, setStore_eq,
      away_setConn, frame_setConn, hc, Store.contents_swept, Sweep.unsent_sweep, ← Multiset.coe_add, Multiset.coe_nil]
    abel
  | sweptChunk hst hc =>
    simp [confirmedBy, takenBy_run hst, takes, bytes, away_pop hst, away_replace, Frame.bytes, hc, Sweep.unsent,
      Buffer.unsent]
  | sweptPrimary hst hc hp =>
    simp [confirmedBy, takenBy_run hst, takes, bytes, away_pop hst, away_replace, Frame.bytes, hc, hp, Sweep.unsent,
      Buffer.unsent]
  | sweptFlush hst hc hp hg =>
    simp [confirmedBy, takenBy_run hst, takes, bytes, away_pop hst, Frame.bytes, hc, hp, Sweep.unsent]
  | sweptAdd hst hc hp hg =>
    simp [confirmedBy, takenBy_run hst, takes, bytes, away_pop hst, away_replace, Frame.bytes, hc, hp, Sweep.unsent]
  | tripBegun hst hbuf =>
    simp [confirmedBy, takenBy_run hst, takes, bytes, away, tally_trip _ hfresh, tally_pop _ hst, Frame.bytes,
      ← Multiset.coe_add, add_assoc]
  | @tripsDone _ _ buf _ hst hbuf =>
    have hc : (s.conn.store.reclaim buf).contents = s.conn.store.contents := Store.contents_reclaim hbuf
    simp [confirmedBy, takenBy_run hst, takes, bytes, away_pop hst, away_replace, Frame.bytes, hc,
      Buffer.hasRemaining_eq_false_iff.1 hbuf]
  | tripDropped hst hd => exact absurd hd (hans.back _)
  | @tripFailed t rest w sweep outcome buf err hst hw hout =>
    have herase : (s.setStack t rest).away = ↑(Answer.returned outcome buf).left
        + ((s.setStack t rest).setAnswers (s.answers.erase w)).away := away_answers_erase hw
    simp only [confirmedBy, takenBy_run hst, takes, bytes, away_pop hst, herase, Frame.bytes, setStore_eq,
      away_setConn, frame_setConn, Store.contents_eq, Answer.left, Outcome.count_eq_zero hout, List.drop_zero,
      Sweep.front_putBack, Sweep.queued_putBack, Option.toList_some, List.flatMap_singleton, ← Multiset.coe_add,
      Multiset.coe_nil]
    abel
  | @tripDone t rest w sweep outcome buf count hst hw hout =>
    have herase : (s.setStack t rest).away = ↑(Answer.returned outcome buf).left
        + ((s.setStack t rest).setAnswers (s.answers.erase w)).away := away_answers_erase hw
    simp only [confirmedBy, takenBy_run hst, takes, bytes, away_pop hst, herase, away_replace_setAnswers, Frame.bytes,
      Buffer.unsent_drop, drop_min_remaining, Answer.left, Outcome.written_eq_ok hout, frame_setAnswers,
      frame_setStack, ← Multiset.coe_add, Multiset.coe_nil]
    abel
  | tripExpired hst hans => exact absurd hst (hfaith.not_awaitingReply _ _ _)
  | strayEnded hout hw => exact absurd hw (hans.awaited _ _)
  | @tripEnded t w outcome buf hout hw =>
    have hset : ((s.endWrite w).setAnswers (s.answers.set w (.returned outcome buf))).away
        = ↑(Answer.returned outcome buf).left + (s.endWrite w).away := away_answers_set (hans.once w _ hw)
    simp only [confirmedBy_complete hw, takenBy, bytes, away_endWrite hw, hset, Answer.left, unsent_trip,
      ← take_add_drop outcome.count buf.unsent, frame_setAnswers, frame_endWrite, Multiset.coe_nil]
    abel
  | chainStale hout hw hset =>
    have hcurrent := isCurrent_of_sole hsole hw
    simp [hset.not_isCurrent] at hcurrent
  | @chainQuiet _ _ _ write _ _ hout hw hset | @chainTold _ _ _ write _ _ hout hw hset =>
    obtain ⟨count, hok, -, hdrop, hc, hc'⟩ := hset.unsent_finished hwf
    have hall : write.unsent.take count = write.unsent := by
      simpa [hdrop] using List.take_append_drop count write.unsent
    simp [confirmedBy_complete hw, Outcome.written_eq_ok hok, takenBy, bytes, away_endWrite hw, hc, hc', Frame.bytes,
      Handed.write, hall]
  | @chainGoesOn _ _ _ write _ _ _ hout hw hset =>
    obtain ⟨count, hok, -, hnext, hc⟩ := hset.unsent_reissue hwf
    simp only [confirmedBy_complete hw, Outcome.written_eq_ok hok, takenBy, bytes, away_endWrite hw, away_push, hc,
      hnext, Frame.bytes, Handed.write, away_setConn, frame_push, frame_setConn, ← Multiset.coe_add,
      ← take_add_drop count write.unsent, Multiset.coe_nil]
    abel
  | chainFailed hout hw hset =>
    have hs := hfaith.succeeds hw
    simp [Outcome.not_succeeds hset.written_failed] at hs
  | strayForgotten hw | tripForgotten hw | chainForgotten hw => exact hfaith.elim
  | addBlocking _ _ _ | flushAwaits _ _ _ | flushCollects _ _ _ | registeredFree _ _ =>
    simp [confirmedBy, takenBy, bytes, Frame.bytes]
  | answered hst | issued hst | startedNothing hst _ | refused hst | collectedLate hst _ | roomExpired hst _
  | transportReturned hst | notified hst =>
    simp [confirmedBy, takenBy_run hst, takes, bytes, away_pop hst, Frame.bytes]
  | roomMade hst _ | chainAwaited hst _ | yielded hst | chainExpired hst _ | attached hst | told hst
  | toldFailure hst =>
    simp [confirmedBy, takenBy_run hst, takes, bytes, away_pop hst, away_replace, Frame.bytes]
  | flushRefused _ _ | flushHeld _ _ _ | flushNothing _ _ _ _ | registered _ _ =>
    simp [confirmedBy, takenBy, bytes]
  | reset hout => simp [confirmedBy, takenBy, bytes, Connection.reset]
  | transportPending => simp [confirmedBy, takenBy, bytes, away]

def Move.confirmed (m : Move) : List UInt8 := m.before.confirmedBy m.action

def Move.taken (m : Move) : List UInt8 := m.before.takenBy m.action

/-- The bytes that the transport confirms in a run, in order. -/
def confirmed (moves : List Move) : List UInt8 := moves.flatMap Move.confirmed

/-- The bytes that adds take over in a run, in order. -/
def taken (moves : List Move) : List UInt8 := moves.flatMap Move.taken

theorem taken_snoc : taken (moves ++ [⟨s, a, s', sig⟩]) = taken moves ++ s.takenBy a := by
  simp [taken, Move.taken]

theorem answered_run (run : Run (fresh config) moves s) (hback : ∀ m ∈ moves, m.GivesBack) : s.Answered := by
  induction run with
  | nil => exact answered_fresh config
  | snoc run h ih =>
    simp only [List.forall_mem_append, List.forall_mem_singleton] at hback
    exact answered_step (numbered_run run) (ih hback.1) (step_perform h) hback.2

/-- Nothing is lost and nothing is made up. -/
theorem balance_run (run : Run (fresh config) moves s) (hfaith : ∀ m ∈ moves, m.IsFaithful) :
    ↑(confirmed moves) + s.bytes = ↑(taken moves) := by
  induction run with
  | nil => rfl
  | @snoc moves s a s' sig run h ih =>
    simp only [List.forall_mem_append, List.forall_mem_singleton] at hfaith
    have hkept : ∀ m ∈ moves, ∀ t, m.action ≠ .call t .recycle := fun m hm => (hfaith.1 m hm).kept
    have hans := answered_run run fun m hm => (hfaith.1 m hm).givesBack
    have hstep := balance_step (numbered_run run) (sound_run run).store.wellFormed hans (sole_run run hkept)
      (step_perform h) hfaith.2
    simp only [confirmed, taken, List.flatMap_append, List.flatMap_singleton, ← Multiset.coe_add] at ih ⊢
    rw [← ih hfaith.1, add_assoc, add_assoc]
    exact congrArg _ hstep

end System

end Outflow
