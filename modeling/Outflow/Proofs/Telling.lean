import Outflow.Proofs.Locality
import Outflow.Proofs.Turns

/-! What the notifier is about to be told. Whoever brings an event about lets the connection go before it is told, so
other threads may act in between. But it is the next thing that the thread itself does, and it is told once. -/
namespace Outflow

namespace Event

def isWritable : Event → Bool
  | writable => true
  | error _ => false

def failures : Event → List Error
  | writable => []
  | error err => [err]

/-- How the notifier begins to hear of an event. -/
def signal : Event → Signal
  | writable => .notify .writable
  | error err => .attach err

end Event

def Frame.news : Frame → List Event
  | telling event => [event]
  | _ => []

/-- The events that threads are about to tell. -/
@[simps]
def Tally.news : Tally Event where
  ofFrame := Frame.news
  ofJob _ := []
  ofTrip _ := []

/-- A failure that is being attached, so that its notification follows. -/
def Frame.attachments : Frame → List Error
  | attaching err => [err]
  | _ => []

@[simps]
def Tally.attachments : Tally Error where
  ofFrame := Frame.attachments
  ofJob _ := []
  ofTrip _ := []

def Frame.word : Frame → List Frame
  | telling event => [telling event]
  | attaching err => [attaching err]
  | _ => []

/-- All that the notifier still has to hear. -/
@[simps]
def Tally.word : Tally Frame where
  ofFrame := Frame.word
  ofJob _ := []
  ofTrip _ := []

theorem Tally.word_flatMap_news : Tally.word.flatMap Frame.news = Tally.news := by
  simp only [Tally.flatMap, word, news, List.flatMap_nil, mk.injEq, and_true]
  funext f
  cases f <;> rfl

theorem Tally.word_flatMap_attachments : Tally.word.flatMap Frame.attachments = Tally.attachments := by
  simp only [Tally.flatMap, word, attachments, List.flatMap_nil, mk.injEq, and_true]
  funext f
  cases f <;> rfl

/-- Foreign code has nothing of the connection to tell. -/
theorem Thread.news_of_isOutside {th : Thread} (hout : th.isOutside = true) :
    th.stack.head?.elim [] Frame.news = [] := by
  unfold isOutside at hout
  split at hout
  · next hst => simp [hst]
  · next frame rest hst =>
    rw [hst]
    cases frame <;> first | rfl | simp [Frame.isForeign] at hout

namespace System

variable {config : Config} {start s s' : System} {moves : List Move} {a : Action} {sig : Option Signal} {t : ThreadId}
  {event : Event}

/-! ### Events brought about, and told -/

/-- The events that a move brings about: a request for word that need not wait, or the end of a chain. -/
def Move.brings (m : Move) : List Event :=
  match m.action with
  | .call t .registerInterest | .complete t _ _ => (m.after.thread t).stack.head?.elim [] Frame.news
  | _ => []

/-- The event that the notifier begins to hear of in a move. -/
def Move.told (m : Move) : List Event :=
  match m.signal with
  | some (.notify .writable) => [.writable]
  | some (.attach err) => [.error err]
  | _ => []

/-- The failure that a move attaches. -/
def Move.attached (m : Move) : List Error :=
  match m.signal with
  | some (.attach err) => [err]
  | _ => []

/-- The failure that a move notifies of. -/
def Move.noticed (m : Move) : List Error :=
  match m.signal with
  | some (.notify (.error err)) => [err]
  | _ => []

def attached (moves : List Move) : List Error := moves.flatMap Move.attached

def noticed (moves : List Move) : List Error := moves.flatMap Move.noticed

/-- A thread that is in foreign code afterwards has brought nothing about. -/
theorem Move.brings_eq_nil {m : Move} (ha : m.action.thread = some t) (hout : (m.after.thread t).isOutside = true) :
    m.brings = [] := by
  unfold brings
  split
  · next u heq =>
    obtain rfl : u = t := by simpa [heq, Action.thread] using ha
    exact Thread.news_of_isOutside hout
  · next u w outcome heq =>
    obtain rfl : u = t := by simpa [heq, Action.thread] using ha
    exact Thread.news_of_isOutside hout
  · rfl

/-- In a move the notifier hears `heard` of what it still had to hear, and `due` is added to that. -/
structure Move.Passes (m : Move) (heard due : List Frame) : Prop where
  balance : (heard : Multiset Frame) + m.after.tally .word = ↑due + m.before.tally .word
  told : heard.flatMap Frame.news = m.told
  brings : due.flatMap Frame.news = m.brings
  noticed : heard.flatMap Frame.attachments = m.noticed
  attached : due.flatMap Frame.attachments = m.attached

theorem Move.Passes.flatMap {m : Move} {heard due : List Frame} (hpasses : m.Passes heard due) {β : Type}
    (φ : Frame → List β) : (heard.flatMap φ : Multiset β) + m.after.tally (Tally.word.flatMap φ)
      = ↑(due.flatMap φ) + m.before.tally (Tally.word.flatMap φ) := by
  rw [tally_flatMap, tally_flatMap, ← Multiset.coe_bind, ← Multiset.coe_bind, ← Multiset.add_bind,
    ← Multiset.add_bind, hpasses.balance]

/-- The notifier hears nothing in a move that has to do with neither. -/
theorem Move.passes_aside {m : Move} (hword : m.after.tally .word = m.before.tally .word) (hbrings : m.brings = [])
    (htold : m.told = []) (hnoticed : m.noticed = []) (hattached : m.attached = []) :
    ∃ heard due, m.Passes heard due :=
  ⟨[], [], by rw [hword], htold.symm, hbrings.symm, hnoticed.symm, hattached.symm⟩

/-- An event that was brought about is told, and to tell of a failure is to attach it first and to notify of it then. -/
theorem exists_passes (hnum : s.Numbered) (h : Step s a s' sig) :
    ∃ heard due, Move.Passes ⟨s, a, s', sig⟩ heard due := by
  have hfresh := hnum.outstanding _ (Nat.le_refl _)
  have hquiet {t : ThreadId} := Move.brings_eq_nil (m := ⟨s, a, s', sig⟩) (t := t)
  cases h with
  | told hst =>
    exact ⟨[.telling .writable], [], by simp [tally_pop _ hst, tally_replace, Frame.word], rfl, rfl, rfl, rfl⟩
  | @toldFailure t rest err hst =>
    refine ⟨[.telling (.error err)], [.attaching err], ?_, rfl, rfl, rfl, rfl⟩
    simpa [tally_pop _ hst, tally_replace, Frame.word] using Multiset.cons_swap _ _ _
  | @attached t rest err hst =>
    exact ⟨[.attaching err], [], by simp [tally_pop _ hst, tally_replace, Frame.word], rfl, rfl, rfl, rfl⟩
  | registeredFree hout hfree =>
    exact ⟨[], [.telling .writable], by simp [tally_push, Frame.word], rfl, by simp [Move.brings], rfl, rfl⟩
  | chainTold hout hw hset =>
    refine ⟨[], [.telling .writable], ?_, rfl, by simp [Move.brings], rfl, rfl⟩
    simp [tally_endWrite _ hw, tally_push, Frame.word]
  | @chainFailed t w outcome write flight conn err hout hw hset =>
    refine ⟨[], [.telling (.error err)], ?_, rfl, by simp [Move.brings], rfl, rfl⟩
    simp [tally_endWrite _ hw, tally_push, Frame.word]
  | chainGoesOn hout hw hset =>
    refine Move.passes_aside ?_ (by simp [Move.brings, Frame.news]) rfl rfl rfl
    simp [tally_endWrite _ hw, tally_push, Frame.word]
  | strayEnded hout hw | tripEnded hout hw | chainStale hout hw _ | chainQuiet hout hw _ =>
    exact Move.passes_aside (by simp [tally_endWrite _ hw]) (hquiet rfl hout) rfl rfl rfl
  | registered hout hheld => exact Move.passes_aside rfl (hquiet rfl hout) rfl rfl rfl
  | strayForgotten hw | tripForgotten hw | chainForgotten hw =>
    exact Move.passes_aside (by simp [tally_endWrite _ hw]) rfl rfl rfl rfl
  | driven hst hd =>
    exact Move.passes_aside (by simp [tally_driven _ hfresh hst hd, Frame.word]) rfl rfl rfl rfl
  | carried hst hd =>
    exact Move.passes_aside (by simp [tally_carried _ hfresh hd, tally_pop _ hst, Frame.word]) rfl rfl rfl rfl
  | deferred hst hd =>
    exact Move.passes_aside (by simp [tally_deferred _ hd, tally_pop _ hst, Frame.word]) rfl rfl rfl rfl
  | driveDone hst hd =>
    exact Move.passes_aside (by simp [tally_driveDone _ hd, tally_pop _ hst, Frame.word]) rfl rfl rfl rfl
  | tripBegun hst hbuf =>
    exact Move.passes_aside (by simp [tally_trip _ hfresh, tally_pop _ hst, Frame.word]) rfl rfl rfl rfl
  | flushBegun _ _ _ _ => exact Move.passes_aside (by simp [tally_begin, Frame.word]) rfl rfl rfl rfl
  | started hst _ =>
    exact Move.passes_aside (by simp [tally_begin, tally_pop _ hst, Frame.word]) rfl rfl rfl rfl
  | addBlocking _ _ _ | addGranted _ _ _ _ | addFull _ _ _ _ _ | flushAwaits _ _ _ | flushCollects _ _ _ =>
    exact Move.passes_aside (by simp [tally_push, Frame.word]) rfl rfl rfl rfl
  | answered hst | issued hst | addDone hst _ | collectedLate hst _ | sweptFlush hst _ _ _ | tripDropped hst _
  | tripFailed hst _ _ | roomExpired hst _ | tripExpired hst _ | transportReturned hst | notified hst
  | startedNothing hst _ | refused hst =>
    exact Move.passes_aside (by simp [tally_pop _ hst, Frame.word]) rfl rfl rfl rfl
  | absorbed hst _ _ | filledBehind hst _ _ _ | filled hst _ _ _ | roomMade hst _ | admittedLate hst _
  | admitted hst _ | chainAwaited hst _ | yielded hst | collected hst _ | sweptChunk hst _ | sweptPrimary hst _ _
  | sweptAdd hst _ _ _ | tripsDone hst _ | tripDone hst _ _ | chainExpired hst _ =>
    exact Move.passes_aside (by simp [tally_pop _ hst, tally_replace, Frame.word]) rfl rfl rfl rfl
  | addNothing _ _ | addRefused _ _ _ | addQueued _ _ _ _ _ | flushRefused _ _ | flushHeld _ _ _
  | flushNothing _ _ _ _ | reset _ | recycle _ | transportPending => exact Move.passes_aside rfl rfl rfl rfl rfl

/-- Nothing is told that was not brought about, and nothing is forgotten that was. -/
theorem news_step (hnum : s.Numbered) (h : Step s a s' sig) :
    ↑(Move.told ⟨s, a, s', sig⟩) + s'.tally .news = ↑(Move.brings ⟨s, a, s', sig⟩) + s.tally .news := by
  obtain ⟨heard, due, hpasses⟩ := exists_passes hnum h
  rw [← hpasses.told, ← hpasses.brings, ← Tally.word_flatMap_news]
  exact hpasses.flatMap Frame.news

/-- A notification is due for each failure that is attached, and for no other. -/
theorem noticed_step (hnum : s.Numbered) (h : Step s a s' sig) :
    ↑(Move.noticed ⟨s, a, s', sig⟩) + s'.tally .attachments
      = ↑(Move.attached ⟨s, a, s', sig⟩) + s.tally .attachments := by
  obtain ⟨heard, due, hpasses⟩ := exists_passes hnum h
  rw [← hpasses.noticed, ← hpasses.attached, ← Tally.word_flatMap_attachments]
  exact hpasses.flatMap Frame.attachments

theorem Run.news (run : Run start moves s) (hnum : start.Numbered) :
    ↑(moves.flatMap Move.told) + s.tally .news = ↑(moves.flatMap Move.brings) + start.tally .news :=
  run.ledger news_step hnum

theorem Run.noticed (run : Run start moves s) (hnum : start.Numbered) :
    ↑(noticed moves) + s.tally .attachments = ↑(attached moves) + start.tally .attachments :=
  run.ledger noticed_step hnum

/-! ### A thread with something to tell -/

/-- Thread `t` is about to tell the notifier. -/
def Tells (s : System) (t : ThreadId) (event : Event) : Prop := (s.thread t).stack.head? = some (.telling event)

theorem Tells.stack_eq (h : s.Tells t event) : ∃ rest, (s.thread t).stack = .telling event :: rest :=
  List.head?_eq_some_iff.1 h

/-- It can do so, whatever else goes on. -/
theorem Tells.perform (h : s.Tells t event) :
    ∃ told, s.perform (.run t) = some (told, some event.signal) ∧ told.conn = s.conn := by
  obtain ⟨rest, hst⟩ := h.stack_eq
  cases event with
  | writable => exact ⟨s.setStack t (.notifying .writable :: rest), by simp [perform, run, hst, runTelling]; rfl, rfl⟩
  | error err => exact ⟨s.setStack t (.attaching err :: rest), by simp [perform, run, hst, runTelling]; rfl, rfl⟩

/-- It can do nothing else. -/
theorem Tells.eq_run (htells : s.Tells t event) (ha : a.thread = some t) (h : s.perform a = some (s', sig)) :
    a = .run t ∧ sig = some event.signal ∧ s'.conn = s.conn := by
  obtain ⟨rest, hst⟩ := htells.stack_eq
  obtain rfl := eq_run_of_isBusy hst rfl ha (step_perform h)
  obtain ⟨told, hperform, hconn⟩ := htells.perform
  rw [hperform, Option.some.injEq, Prod.mk.injEq] at h
  obtain ⟨rfl, rfl⟩ := h
  exact ⟨rfl, rfl, hconn⟩

/-- The next thing that thread `t` does is to tell the notifier, with the connection as it finds it then. -/
def Delivered (t : ThreadId) (event : Event) (moves : List Move) : Prop :=
  ∃ before m after, moves = before ++ m :: after ∧ (∀ m' ∈ before, m'.action.thread ≠ some t) ∧
    m.action = .run t ∧ m.signal = some event.signal ∧ m.after.conn = m.before.conn

/-- What a thread has to tell it tells, unless it does nothing any more. -/
theorem Tells.delivered (htells : start.Tells t event) (run : Run start moves s) :
    s.Tells t event ∨ Delivered t event moves := by
  cases hfind : moves.find? fun m => m.action.thread == some t with
  | none =>
    refine .inl ?_
    rw [Tells, run.thread_eq fun m hm => by simpa using List.find?_eq_none.1 hfind m hm]
    exact htells
  | some m =>
    obtain ⟨hm, before, after, rfl, hbefore⟩ := List.find?_eq_some_iff_append.1 hfind
    have hothers : ∀ m' ∈ before, m'.action.thread ≠ some t := by simpa using hbefore
    obtain ⟨earlier, hperform⟩ := run.split rfl
    have hstill : m.before.Tells t event := by
      rw [Tells, earlier.thread_eq hothers]
      exact htells
    obtain ⟨hact, hsig, hconn⟩ := hstill.eq_run (by simpa using hm) hperform
    exact .inr ⟨before, m, after, rfl, hothers, hact, hsig, hconn⟩

theorem not_tells_of_isOutside (hout : (s.thread t).isOutside = true) : ¬ s.Tells t event := by
  intro htells
  obtain ⟨rest, hst⟩ := htells.stack_eq
  simp [Thread.isOutside, hst, Frame.isForeign] at hout

theorem not_tells_of_isBase (hbase : ∀ f ∈ (s.thread t).stack, f.isBase = true) : ¬ s.Tells t event := by
  intro htells
  obtain ⟨rest, hst⟩ := htells.stack_eq
  simp [hst, Frame.isBase] at hbase

/-- A thread comes to tell of an event by bringing it about. -/
theorem brings_of_tells (hs : s.Stacked) (h : Step s a s' sig) (ha : a.thread = some t) (htells : s'.Tells t event) :
    Move.brings ⟨s, a, s', sig⟩ = [event] := by
  have hpop {rest : List Frame} {frame : Frame} (hst : (s.thread t).stack = frame :: rest)
      (hafter : (s'.thread t).stack = rest) : Move.brings ⟨s, a, s', sig⟩ = [event] :=
    absurd htells (not_tells_of_isBase (hafter ▸ hs.below hst))
  have hhead : (s'.thread t).stack.head?.elim [] Frame.news = [event] := by
    rw [htells]
    rfl
  cases h with
  | registered _ _ | registeredFree _ _ | strayEnded _ _ | tripEnded _ _ | chainStale _ _ _ | chainQuiet _ _ _
  | chainTold _ _ _ | chainGoesOn _ _ _ | chainFailed _ _ _ =>
    cases ha
    exact hhead
  | addNothing hout _ | addRefused hout _ _ | addQueued hout _ _ _ _ | flushRefused hout _ | flushHeld hout _ _
  | flushNothing hout _ _ _ | reset hout | recycle hout =>
    cases ha
    exact absurd htells (not_tells_of_isBase (hs.outside hout))
  | answered hst | startedNothing hst _ | issued hst | addDone hst _ | refused hst | collectedLate hst _
  | sweptFlush hst _ _ _ | tripDropped hst _ | tripFailed hst _ _ | roomExpired hst _ | tripExpired hst _
  | transportReturned hst | notified hst | driveDone hst _ | deferred hst _ =>
    cases ha
    exact hpop hst (by simp [thread_setThread])
  | strayForgotten _ | tripForgotten _ | chainForgotten _ | transportPending => cases ha
  | _ =>
    cases ha
    simp [Tells, begin] at htells

/-- Whatever the notifier is told, the thread brought about with the last thing that it did before. -/
theorem exists_brings (run : Run (fresh config) moves s) (h : s.perform a = some (s', some event.signal)) :
    ∃ t earlier c mid, moves = earlier ++ c :: mid ∧ a = .run t ∧ s'.conn = s.conn ∧ c.action.thread = some t ∧
      c.brings = [event] ∧ ∀ m ∈ mid, m.action.thread ≠ some t := by
  obtain ⟨t, rfl, htells⟩ : ∃ t, a = .run t ∧ s.Tells t event := by
    generalize hsig : some event.signal = sig at h
    cases event with
    | writable =>
      cases step_perform h with
      | told hst => exact ⟨_, rfl, by simp [Tells, hst]⟩
      | startedNothing _ _ | issued _ => simp [Event.signal] at hsig
      | _ => cases hsig
    | error err =>
      cases step_perform h with
      | toldFailure hst =>
        cases hsig
        exact ⟨_, rfl, by simp [Tells, hst]⟩
      | startedNothing _ _ => simp [Event.signal] at hsig
      | _ => cases hsig
  obtain ⟨hidle, -⟩ | ⟨earlier, c, mid, rfl, ht, hkept, hmid⟩ := thread_run run t
  · simp [Tells, hidle] at htells
  obtain ⟨-, -, hconn⟩ := htells.eq_run rfl h
  obtain ⟨begun, hperform⟩ := run.split rfl
  rw [Tells, hkept] at htells
  exact ⟨t, earlier, c, mid, rfl, rfl, hconn, ht, brings_of_tells (stacked_run begun) (step_perform hperform) ht htells,
    hmid⟩

end System

end Outflow
