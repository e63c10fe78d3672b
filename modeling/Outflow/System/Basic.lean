import Outflow.Connection
import Outflow.Deferral

/-!
A connection together with the threads that are inside its code and the writes that the transport has not answered.
A thread is a stack of frames, the innermost first. Frames of foreign code (the transport, the notifier) end when that
code returns; it may call the connection again before.
-/

namespace Outflow

abbrev WriteId := Nat

/-- How a call may behave when the transport cannot take data right away. -/
inductive Mode
  | blocking
  | nonBlocking
  deriving DecidableEq

inductive Call
  | add (src : Chunk) (mode : Mode)
  | flush (mode : Mode)
  | registerInterest
  | reset
  | recycle

/-- The answer of a call: nothing to say, whether data is still pending, or a failure. -/
inductive Reply
  | done
  | pending (more : Bool)
  | refused (err : Error)

/-- The next write of a chain, before it is handed to the transport. -/
structure Job where
  write : Write
  flight : Flight

/-- A write that the transport has not answered. One that its caller stopped waiting for is `stray`. -/
inductive Handed
  | chain (write : Write) (flight : Flight)
  | trip (buf : Buffer)
  | stray (buf : Buffer)

def Handed.write : Handed → Write
  | chain write _ => write
  | trip buf => .single buf
  | stray buf => .single buf

/-- What the waiting caller finds: its buffer back, or nothing because the transport forgot the write. -/
inductive Answer
  | returned (outcome : Outcome) (buf : Buffer)
  | dropped

/-- The call that a sweep belongs to. An add goes on with the rest of its data. -/
inductive Goal
  | flush
  | add (rest : Chunk)

/-- What a blocking call still has to write out, chunks first. -/
structure Sweep where
  chunks : List Chunk
  primary : Option Primary
  goal : Goal

/-- The call that starts a chain. -/
inductive Starter
  | add
  | flush

/-- The answer to a call that started a chain, or found that it could not. -/
def Starter.reply (hasData : Bool) : Starter → Reply
  | add => .done
  | flush => .pending hasData

/-- Where a thread is. `inTransport`, `attaching` and `notifying` are foreign code. A thread that is `telling` has to
call the notifier, and has left the connection to others. The `awaiting` frames may have to wait. Frames with a guard or
a job hold the permit, which the next step passes on or gives back. -/
inductive Frame
  | inTransport (w : WriteId)
  | attaching (err : Error)
  | notifying (event : Event)
  | telling (event : Event)
  | answering (reply : Reply)
  | driving
  | carrying (job : Job)
  | starting (starter : Starter) (g : Guard)
  | issuing (m : MarkerId) (starter : Starter)
  | adding (src : Chunk)
  | awaitingRoom (src : Chunk) (buffered limit : Nat)
  | admitted (src : Chunk) (g : Guard)
  | refusing (err : Error) (g : Guard)
  | awaitingChain (goal : Goal)
  | yielding (goal : Goal) (g : Guard)
  | collecting (goal : Goal)
  | sweeping (sweep : Sweep)
  | writing (buf : Buffer) (sweep : Sweep)
  | awaitingReply (w : WriteId) (sweep : Sweep)

def Frame.isForeign : Frame → Bool
  | inTransport _ | attaching _ | notifying _ => true
  | _ => false

structure Thread where
  stack : List Frame := []
  deferral : Deferral Job := .idle

namespace Thread

/-- Foreign code runs on the thread, so it can make calls and report the end of writes. -/
def isOutside (th : Thread) : Bool :=
  match th.stack with
  | [] => true
  | frame :: _ => frame.isForeign

def isIdle (th : Thread) : Bool := th.stack.isEmpty && th.deferral.isIdle

theorem eq_of_isIdle {th : Thread} (h : th.isIdle = true) : th = {} := by
  obtain ⟨stack, deferral⟩ := th
  cases stack <;> cases deferral <;> simp_all [isIdle, Deferral.isIdle]

end Thread

/-- Only threads that are not idle are listed. `answers` are those that nobody has picked up yet. -/
structure System where
  conn : Connection
  markers : Markers := {}
  threads : Table Thread := {}
  outstanding : Table Handed := {}
  answers : Table Answer := {}
  nextWrite : WriteId := 0
  transportPending : Bool := false

/-- What a thread tells the outside. After the first three it is in foreign code. -/
inductive Signal
  | handed (w : WriteId)
  | attach (err : Error)
  | notify (event : Event)
  | replied (reply : Reply)
  | fault (f : Fault)

/-- The outcome of one step. -/
abbrev Turn := System × Option Signal

namespace System

def fresh (config : Config) : System := { conn := .fresh config }

/-- A fresh system, if there is room for the primary buffer of its connection. -/
def start (config : Config) : Except Fault System := do
  let conn ← Connection.start config
  return { conn }

def thread (s : System) (t : ThreadId) : Thread := (s.threads.find? t).getD {}

def setThread (s : System) (t : ThreadId) (th : Thread) : System :=
  { s with threads := if th.isIdle then s.threads.erase t else s.threads.set t th }

def setStack (s : System) (t : ThreadId) (stack : List Frame) : System :=
  s.setThread t { s.thread t with stack }

/-- Leaving idle threads out of the table does not show. -/
theorem thread_setThread (s : System) (t u : ThreadId) (th : Thread) :
    (s.setThread t th).thread u = if u = t then th else s.thread u := by
  unfold setThread thread
  split
  · next h =>
    rw [Table.find?_erase]
    split
    · exact (Thread.eq_of_isIdle h).symm
    · rfl
  · rw [Table.find?_set]
    split <;> rfl

theorem thread_setStack (s : System) (t u : ThreadId) (stack : List Frame) :
    (s.setStack t stack).thread u = if u = t then { s.thread t with stack } else s.thread u :=
  thread_setThread s t u _

def push (s : System) (t : ThreadId) (frame : Frame) : System := s.setStack t (frame :: (s.thread t).stack)

def depth (s : System) (t : ThreadId) : Nat := (s.thread t).stack.length

def setStore (s : System) (store : Store) : System := { s with conn := { s.conn with store } }

def setPermit (s : System) (permit : Permit) : System := { s with conn := { s.conn with permit } }

def setMarkers (s : System) (markers : Markers) : System := { s with markers }

def hasData (s : System) : Bool := s.conn.hasData s.transportPending

def answer (s : System) (reply : Reply) : Turn := (s, some (.replied reply))

def answerStarter (s : System) (starter : Starter) : Turn := s.answer (starter.reply s.hasData)

end System

end Outflow
