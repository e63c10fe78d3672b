import Outflow.Proofs.Recycle
import Outflow.Proofs.Stream

/-! What a connection that was recycled can still meet of the bytes from before. Those of its store are gone and those
of a chain at the transport go nowhere, but a sweep goes on, and so does a write that a thread has in hand. -/
namespace Outflow

/-- What may come back to the connection of a write at the transport, if the guards up to generation `n` are stale. -/
def Handed.alive (n : Nat) : Handed → List UInt8
  | chain write flight => if n < flight.guard.generation.toNat then write.unsent else []
  | trip buf => buf.unsent
  | stray _ => []

/-- What comes back of it whatever guards are stale. -/
def Handed.returning : Handed → List UInt8
  | trip buf => buf.unsent
  | chain _ _ | stray _ => []

theorem Handed.alive_le (n : Nat) (h : Handed) : (↑(h.alive n) : Multiset UInt8) ≤ ↑h.write.unsent := by
  cases h with
  | chain write flight =>
    simp only [alive]
    split
    · exact le_rfl (a := (↑write.unsent : Multiset UInt8))
    · exact Multiset.zero_le _
  | trip buf => exact (congrArg _ (by simp [alive, write, Write.unsent, Write.buffers])).le
  | stray buf => exact Multiset.zero_le _

theorem Answer.left_le (outcome : Outcome) (buf : Buffer) :
    (↑(returned outcome buf).left : Multiset UInt8) ≤ ↑buf.unsent :=
  (List.drop_sublist _ _).subperm

theorem Table.census_erase_le {α β : Type} (T : Table α) (key : Nat) (φ : α → List β) :
    (T.erase key).census φ ≤ T.census φ := by
  rw [T.census_eq key]
  exact Multiset.le_add_left _ _

namespace System

variable {config : Config} {s s' mid : System} {moves later : List Move} {a : Action} {sig : Option Signal}
  {t : ThreadId} {frame : Frame} {rest : List Frame} {queue : List Job} {job : Job} {n : Nat} {w : WriteId}

/-- The bytes that threads have, with their frames and in their queues. -/
def inHand (s : System) : Multiset UInt8 := s.threads.census Tally.bytes.ofThread

/-- The bytes that come back to a thread, with the buffer of a round trip or with an answer. -/
def comingBack (s : System) : Multiset UInt8 :=
  s.outstanding.census Handed.returning + s.answers.census Answer.left

/-- What is left of an exchange outside the store, other than with chains at the transport. -/
def residue (s : System) : Multiset UInt8 := s.inHand + s.comingBack

/-- The bytes outside the store that may still come back to it or go to the transport, if the guards up to generation
`n` are stale. -/
def around (n : Nat) (s : System) : Multiset UInt8 :=
  s.inHand + (s.outstanding.census (Handed.alive n) + s.answers.census Answer.left)

/-- The same with those in the store. -/
def alive (n : Nat) (s : System) : Multiset UInt8 := s.around n + ↑s.conn.store.contents

/-! ### What threads have -/

@[simp]
theorem inHand_setConn (s : System) (conn : Connection) : (s.setConn conn).inHand = s.inHand := rfl

@[simp]
theorem inHand_setMarkers (s : System) (markers : Markers) : (s.setMarkers markers).inHand = s.inHand := rfl

@[simp]
theorem inHand_setAnswers (s : System) (answers : Table Answer) : (s.setAnswers answers).inHand = s.inHand := rfl

@[simp]
theorem inHand_endWrite (s : System) (w : WriteId) : (s.endWrite w).inHand = s.inHand := rfl

@[simp]
theorem inHand_disown (s : System) (w : WriteId) : (s.disown w).inHand = s.inHand := rfl

@[simp]
theorem inHand_push (s : System) (t : ThreadId) (frame : Frame) : (s.push t frame).inHand = ↑frame.bytes + s.inHand :=
  aboard_push .bytes s t frame

theorem inHand_pop (hst : (s.thread t).stack = frame :: rest) :
    s.inHand = ↑frame.bytes + (s.setStack t rest).inHand :=
  aboard_pop .bytes hst

theorem inHand_replace (s : System) (t : ThreadId) (frame : Frame) (rest : List Frame) :
    (s.setStack t (frame :: rest)).inHand = ↑frame.bytes + (s.setStack t rest).inHand :=
  aboard_replace .bytes s t frame rest

theorem inHand_handOver (s : System) (t : ThreadId) (h : Handed) : (s.handOver t h).1.inHand = s.inHand :=
  (aboard_handOver .bytes s t h).trans (zero_add _)

theorem inHand_driven (hst : (s.thread t).stack = .driving :: rest)
    (hd : (s.thread t).deferral = .running (job :: queue)) :
    s.inHand = (s.launch t rest queue job).inHand + ↑job.write.unsent :=
  (zero_add _).symm.trans (aboard_driven .bytes hst hd).symm

theorem inHand_carried (hst : (s.thread t).stack = .carrying job :: rest) (hd : (s.thread t).deferral = .idle) :
    s.inHand = (s.launch t rest [] job).inHand + ↑job.write.unsent :=
  (inHand_pop hst).trans (aboard_carried .bytes hd).symm

theorem inHand_deferred (hst : (s.thread t).stack = .carrying job :: rest)
    (hd : (s.thread t).deferral = .running queue) :
    s.inHand = (s.setThread t { stack := rest, deferral := .running (queue ++ [job]) }).inHand :=
  (inHand_pop hst).trans (aboard_deferred .bytes hd).symm

theorem inHand_driveDone (hst : (s.thread t).stack = .driving :: rest) (hd : (s.thread t).deferral.waiting = []) :
    s.inHand = (s.setThread t { stack := rest, deferral := .idle }).inHand :=
  (inHand_pop hst).trans (aboard_driveDone .bytes hd).symm

theorem inHand_begin (s : System) (t : ThreadId) (starter : Starter) (g : Guard) (store : Store) (write : Write) :
    (s.begin t starter g store write).inHand = ↑write.unsent + s.inHand :=
  aboard_begin .bytes s t starter g store write

/-! ### What may come back -/

@[simp]
theorem around_setConn (n : Nat) (s : System) (conn : Connection) : (s.setConn conn).around n = s.around n := rfl

@[simp]
theorem around_setMarkers (n : Nat) (s : System) (markers : Markers) :
    (s.setMarkers markers).around n = s.around n := rfl

@[simp]
theorem around_push (n : Nat) (s : System) (t : ThreadId) (frame : Frame) :
    (s.push t frame).around n = ↑frame.bytes + s.around n := by
  simp [around, add_assoc]

theorem around_pop (n : Nat) (hst : (s.thread t).stack = frame :: rest) :
    s.around n = ↑frame.bytes + (s.setStack t rest).around n := by
  simp [around, inHand_pop hst, add_assoc]

theorem around_replace (n : Nat) (s : System) (t : ThreadId) (frame : Frame) (rest : List Frame) :
    (s.setStack t (frame :: rest)).around n = ↑frame.bytes + (s.setStack t rest).around n := by
  simp [around, inHand_replace, add_assoc]

theorem around_begin (n : Nat) (s : System) (t : ThreadId) (starter : Starter) (g : Guard) (store : Store)
    (write : Write) : (s.begin t starter g store write).around n = ↑write.unsent + s.around n := by
  simp [around, inHand_begin, add_assoc]

theorem around_endWrite (n : Nat) {h : Handed} (hw : s.outstanding.find? w = some h) :
    s.around n = ↑(h.alive n) + (s.endWrite w).around n := by
  have hcensus := s.outstanding.census_eq w (Handed.alive n)
  rw [hw] at hcensus
  simp only [around, hcensus, Option.elim_some, inHand_endWrite, frame_endWrite]
  abel

theorem around_endWrite_le (n : Nat) (s : System) (w : WriteId) : (s.endWrite w).around n ≤ s.around n := by
  have hle := s.outstanding.census_erase_le w (Handed.alive n)
  exact add_le_add_right (add_le_add_left hle _) _

theorem around_disown_le (n : Nat) (s : System) (w : WriteId) : (s.disown w).around n ≤ s.around n := by
  have hle : (s.disown w).outstanding.census (Handed.alive n) ≤ s.outstanding.census (Handed.alive n) := by
    unfold disown
    split
    · next buf hw =>
      rw [s.outstanding.census_eq w, hw, Table.census_set]
      exact add_le_add_left (Multiset.zero_le _) _
    · exact le_rfl
  exact add_le_add_right (add_le_add_left hle _) _

theorem around_setAnswers_erase (n : Nat) {answer : Answer} (hw : s.answers.find? w = some answer) :
    s.around n = ↑answer.left + (s.setAnswers (s.answers.erase w)).around n := by
  have hcensus := s.answers.census_eq w Answer.left
  rw [hw] at hcensus
  simp only [around, hcensus, Option.elim_some, inHand_setAnswers, frame_setAnswers]
  abel

theorem around_setAnswers_set_le (n : Nat) (s : System) (w : WriteId) (answer : Answer) :
    (s.setAnswers (s.answers.set w answer)).around n ≤ ↑answer.left + s.around n := by
  have hle := s.answers.census_erase_le w Answer.left
  have hcensus := s.answers.census_set w Answer.left answer
  simp only [around, inHand_setAnswers, frame_setAnswers, hcensus]
  calc s.inHand + (s.outstanding.census (Handed.alive n) + (↑answer.left + (s.answers.erase w).census Answer.left))
      = ↑answer.left + (s.inHand + (s.outstanding.census (Handed.alive n)
        + (s.answers.erase w).census Answer.left)) := by abel
    _ ≤ ↑answer.left + (s.inHand + (s.outstanding.census (Handed.alive n) + s.answers.census Answer.left)) := by
      gcongr

/-- What is handed over is not more than what was in hand. -/
theorem around_handOver_le (n : Nat) (hn : s.outstanding.find? s.nextWrite = none) (t : ThreadId) (h : Handed) :
    (s.handOver t h).1.around n ≤ ↑h.write.unsent + s.around n := by
  have hcensus := s.outstanding.census_set s.nextWrite (Handed.alive n) h
  rw [Table.census_erase_of_find?_eq_none _ _ _ hn] at hcensus
  simp only [around, inHand_handOver, frame_handOver, hcensus]
  calc s.inHand + (↑(h.alive n) + s.outstanding.census (Handed.alive n) + s.answers.census Answer.left)
      = ↑(h.alive n) + (s.inHand + (s.outstanding.census (Handed.alive n) + s.answers.census Answer.left)) := by abel
    _ ≤ _ := by
      gcongr
      exact h.alive_le n

/-- A write in hand goes to the transport. -/
theorem around_launch_le (n : Nat) (hn : s.outstanding.find? s.nextWrite = none)
    (hin : s.inHand = (s.launch t rest queue job).inHand + ↑job.write.unsent) :
    (s.launch t rest queue job).around n ≤ s.around n := by
  have hcensus := s.outstanding.census_set s.nextWrite (Handed.alive n) (.chain job.write job.flight)
  rw [Table.census_erase_of_find?_eq_none _ _ _ hn] at hcensus
  have hjob : (↑((Handed.chain job.write job.flight).alive n) : Multiset UInt8) ≤ ↑job.write.unsent :=
    Handed.alive_le n _
  simp only [around, hin, frame_launch, hcensus]
  rw [add_assoc, add_assoc]
  gcongr

theorem around_of_inHand (hin : s.inHand = (s.setThread t th).inHand) :
    (s.setThread t th).around n = s.around n := by
  rw [around, around, hin]
  rfl

theorem contents_putBack (sweep : Sweep) (returned : Option Buffer) (store : Store) :
    (↑(sweep.putBack returned store).contents : Multiset UInt8)
      = ↑(returned.toList.flatMap Buffer.unsent) + ↑sweep.unsent + ↑store.contents := by
  simp only [Store.contents_eq, Sweep.front_putBack, Sweep.queued_putBack, ← Multiset.coe_add]
  abel

/-- A sweep that failed goes back to the store, with the buffer of its last round trip. -/
theorem alive_putBack (n : Nat) {sweep : Sweep} {answer : Answer} {returned : Option Buffer}
    (hst : (s.thread t).stack = .awaitingReply w sweep :: rest) (hans : s.answers.find? w = some answer)
    (hleft : answer.left = returned.toList.flatMap Buffer.unsent) :
    (((s.setStack t rest).setAnswers (s.answers.erase w)).setStore (sweep.putBack returned s.conn.store)).alive n
      = s.alive n := by
  have herase : (s.setStack t rest).around n
      = ↑answer.left + ((s.setStack t rest).setAnswers (s.answers.erase w)).around n :=
    around_setAnswers_erase n hans
  simp only [alive, setStore_eq, around_setConn, frame_setConn, contents_putBack, around_pop n hst, Frame.bytes, herase,
    hleft]
  abel

theorem alive_step (hnum : s.Numbered) (hwf : s.conn.store.WellFormed) (hage : n < s.conn.permit.generation.toNat)
    (h : Step s a s' sig) : s'.alive n ≤ s.alive n + ↑(s.takenBy a) := by
  have hfresh := hnum.outstanding _ (Nat.le_refl _)
  have hsame (h : s'.alive n = s.alive n) : s'.alive n ≤ s.alive n + ↑(s.takenBy a) :=
    h ▸ Multiset.le_add_right _ _
  have hless (h : s'.alive n ≤ s.alive n) : s'.alive n ≤ s.alive n + ↑(s.takenBy a) :=
    h.trans (Multiset.le_add_right _ _)
  cases h with
  | addNothing _ _ | addRefused _ _ _ | flushRefused _ _ | flushHeld _ _ _ | flushNothing _ _ _ _ | registered _ _
  | reset _ | transportPending => exact hsame rfl
  | addBlocking _ _ _ | addFull _ _ _ _ _ | flushAwaits _ _ _ | flushCollects _ _ _ | registeredFree _ _ =>
    exact hsame (by simp [alive, Frame.bytes])
  | addGranted hout hsrc herr hfree =>
    refine le_of_eq ?_
    simp [alive, takenBy, Frame.bytes, herr, hfree, contents_takeOver hwf, add_assoc]
  | addQueued hout hsrc herr hheld hroom =>
    refine le_of_eq ?_
    simp [alive, takenBy, herr, hheld, hroom, Except.isOk, Except.toBool, Connection.queue?_eq_ok hroom, add_assoc]
  | flushBegun hout herr hfree htake =>
    obtain ⟨hw, hs⟩ := unsent_takeWrite hwf htake
    exact hsame (by simp [alive, around_begin, hw, hs, add_comm])
  | recycle hout =>
    have hnone : s.conn.recycle.store.contents = [] := by simp [Connection.recycle]
    refine hless ?_
    simp only [alive, around_setConn, frame_setConn, hnone]
    exact add_le_add_right (Multiset.zero_le _) _
  | answered hst | issued hst | startedNothing hst _ | addDone hst _ | refused hst | collectedLate hst _
  | roomExpired hst _ | transportReturned hst | notified hst =>
    exact hsame (by simp [alive, around_pop n hst, Frame.bytes])
  | roomMade hst _ | chainAwaited hst _ | yielded hst | admittedLate hst _ | chainExpired hst _ | attached hst
  | told hst | toldFailure hst =>
    exact hsame (by simp [alive, around_pop n hst, around_replace, Frame.bytes])
  | started hst htake =>
    obtain ⟨hw, hs⟩ := unsent_takeWrite hwf htake
    exact hsame (by simp [alive, around_pop n hst, around_begin, Frame.bytes, hw, hs, add_comm])
  | @absorbed _ _ src _ _ hst hsrc habs | @filledBehind _ _ src _ _ hst hsrc habs _
  | @filled _ _ src _ _ hst hsrc habs _ =>
    have hc := Connection.contents_absorb hwf src
    rw [habs] at hc
    refine le_of_eq ?_
    simp [alive, takenBy_run hst, takes, around_pop n hst, around_replace, Frame.bytes, habs, hc, add_assoc]
  | admitted hst herr =>
    refine le_of_eq ?_
    simp [alive, takenBy_run hst, takes, around_pop n hst, around_replace, Frame.bytes, herr, contents_takeOver hwf,
      add_assoc]
  | @collected _ _ goal hst herr =>
    have hc : s.conn.store.contents = s.conn.store.front ++ s.conn.store.queued := rfl
    refine hsame ?_
    simp only [alive, around_pop n hst, around_replace, Frame.bytes, setStore_eq, around_setConn, frame_setConn, hc,
      Store.contents_swept, Sweep.unsent_sweep, ← Multiset.coe_add, Multiset.coe_nil]
    abel
  | sweptChunk hst hc =>
    exact hsame (by simp [alive, around_pop n hst, around_replace, Frame.bytes, hc, Sweep.unsent, Buffer.unsent])
  | sweptPrimary hst hc hp =>
    exact hsame (by simp [alive, around_pop n hst, around_replace, Frame.bytes, hc, hp, Sweep.unsent, Buffer.unsent])
  | sweptFlush hst hc hp hg => exact hsame (by simp [alive, around_pop n hst, Frame.bytes, hc, hp, Sweep.unsent])
  | sweptAdd hst hc hp hg =>
    exact hsame (by simp [alive, around_pop n hst, around_replace, Frame.bytes, hc, hp, Sweep.unsent])
  | @tripsDone _ _ buf _ hst hbuf =>
    have hc : (s.conn.store.reclaim buf).contents = s.conn.store.contents := Store.contents_reclaim hbuf
    refine hsame ?_
    simp [alive, around_pop n hst, around_replace, Frame.bytes, hc, Buffer.hasRemaining_eq_false_iff.1 hbuf]
  | driven hst hd =>
    exact hless (add_le_add_left (around_launch_le n hfresh (inHand_driven hst hd)) _)
  | carried hst hd =>
    exact hless (add_le_add_left (around_launch_le n hfresh (inHand_carried hst hd)) _)
  | deferred hst hd =>
    exact hsame (congrArg (· + _) (around_of_inHand (inHand_deferred hst hd)))
  | driveDone hst hd =>
    exact hsame (congrArg (· + _) (around_of_inHand (inHand_driveDone hst hd)))
  | @tripBegun t rest buf sweep hst hbuf =>
    have hle := around_handOver_le n (s := s.setStack t (.awaitingReply s.nextWrite sweep :: rest)) hfresh t (.trip buf)
    rw [around_replace, ← add_assoc, unsent_trip, Multiset.coe_add] at hle
    have hpop : s.around n = ↑(buf.unsent ++ sweep.unsent) + (s.setStack t rest).around n := around_pop n hst
    exact hless (add_le_add_left (hpop ▸ hle) _)
  | tripDropped hst hans => exact hsame (alive_putBack n hst hans rfl)
  | tripFailed hst hans hw =>
    exact hsame (alive_putBack n hst hans (by simp [Answer.left, Outcome.count_eq_zero hw]))
  | @tripDone t rest w sweep outcome buf count hst hans hw =>
    have herase : (s.setStack t rest).around n = ↑(buf.unsent.drop outcome.count)
        + ((s.setStack t rest).setAnswers (s.answers.erase w)).around n :=
      around_setAnswers_erase n (s := s.setStack t rest) hans
    have hreplace := around_replace n (s.setAnswers (s.answers.erase w)) t
      (.writing (buf.drop (min count buf.remaining)) sweep) rest
    refine hsame (congrArg (· + _) (hreplace.trans ?_))
    rw [around_pop n hst, herase, Frame.bytes, Frame.bytes, Buffer.unsent_drop, drop_min_remaining,
      Outcome.written_eq_ok hw, ← Multiset.coe_add, add_assoc, add_left_comm]
    rfl
  | @tripExpired t rest w sweep hst hans =>
    have hle := around_disown_le n (s.setStack t rest) w
    refine hless ?_
    calc (((s.setStack t rest).disown w).setStore (sweep.putBack none s.conn.store)).alive n
        = ((s.setStack t rest).disown w).around n + (↑sweep.unsent + ↑s.conn.store.contents) := by
          simp only [alive, setStore_eq, around_setConn, frame_setConn, contents_putBack]
          simp
      _ ≤ (s.setStack t rest).around n + (↑sweep.unsent + ↑s.conn.store.contents) := by gcongr
      _ = s.alive n := by
          simp only [alive, around_pop n hst, Frame.bytes]
          abel
  | strayEnded hout hw | chainStale hout hw hset | strayForgotten hw | chainForgotten hw =>
    exact hless (add_le_add_left (around_endWrite_le n s _) _)
  | @tripEnded t w outcome buf hout hw =>
    have hle := around_setAnswers_set_le n (s.endWrite w) w (.returned outcome buf)
    refine hless (add_le_add_left (hle.trans ?_) _)
    rw [around_endWrite n hw]
    exact add_le_add_left (Answer.left_le outcome buf) _
  | @tripForgotten w buf hw =>
    have hle := around_setAnswers_set_le n (s.endWrite w) w .dropped
    refine hless (add_le_add_left (hle.trans ?_) _)
    exact (zero_add _).trans_le (around_endWrite_le n s w)
  | @chainQuiet t w _ _ _ conn hout hw hset | @chainTold t w _ _ _ conn hout hw hset =>
    obtain ⟨-, -, -, -, -, hc⟩ := hset.unsent_finished hwf
    have hle := (around_endWrite_le n s w).trans (Multiset.le_add_right _ ↑s.conn.store.contents)
    exact hless (by simpa [alive, hc, Frame.bytes] using hle)
  | @chainFailed t w _ _ _ conn err hout hw hset =>
    have hc := hset.contents_failed
    have hle := (around_endWrite_le n s w).trans (Multiset.le_add_right _ ↑s.conn.store.contents)
    exact hless (by simpa [alive, hc, Frame.bytes] using hle)
  | @chainGoesOn t w outcome write flight conn next hout hw hset =>
    -- A chain goes on only with a current guard, and that is younger than the recycle.
    obtain ⟨count, -, hcurrent, hnext, hc⟩ := hset.unsent_reissue hwf
    have hyoung : n < flight.guard.generation.toNat := (Permit.isCurrent_iff.1 hcurrent).2 ▸ hage
    have hend : s.around n = ↑write.unsent + (s.endWrite w).around n := by
      rw [around_endWrite n hw, Handed.alive, if_pos hyoung]
    have hleft : (↑(write.unsent.drop count) : Multiset UInt8) ≤ ↑write.unsent :=
      (List.drop_sublist _ _).subperm
    refine hless ?_
    calc (((s.endWrite w).setConn conn).push t (.carrying { write := next, flight })).alive n
        = ↑(write.unsent.drop count) + (s.endWrite w).around n + ↑s.conn.store.contents := by
          simp only [alive, around_push, around_setConn, frame_push, frame_setConn, hc, Frame.bytes, hnext,
            ← Multiset.coe_add, Multiset.coe_nil]
          abel
      _ ≤ ↑write.unsent + (s.endWrite w).around n + ↑s.conn.store.contents := by gcongr
      _ = s.alive n := by rw [← hend, alive]

/-! ### Writes that end, and writes that begin -/

/-- The bytes of the write that goes to the transport, if one does. -/
def Move.handed (m : Move) : Option (List UInt8) :=
  match m.signal with
  | some (.handed w) => (m.after.outstanding.find? w).map fun h => h.write.unsent
  | _ => none

theorem Move.handed_eq {h : Handed} (hw : s'.outstanding.find? w = some h) :
    Move.handed ⟨s, a, s', some (.handed w)⟩ = some h.write.unsent := by
  simp [Move.handed, hw]

/-- What is handed over was in hand. -/
theorem handed_step {bytes : List UInt8} (h : Step s a s' sig) (hbytes : Move.handed ⟨s, a, s', sig⟩ = some bytes) :
    ↑bytes ≤ s.inHand := by
  cases h with
  | @driven t rest job queue hst hd =>
    rw [Move.handed_eq (h := .chain job.write job.flight) (by simp [Table.find?_set])] at hbytes
    obtain rfl := Option.some.inj hbytes
    rw [inHand_driven hst hd]
    exact Multiset.le_add_left _ _
  | @carried t rest job hst hd =>
    rw [Move.handed_eq (h := .chain job.write job.flight) (by simp [Table.find?_set])] at hbytes
    obtain rfl := Option.some.inj hbytes
    rw [inHand_carried hst hd]
    exact Multiset.le_add_left _ _
  | @tripBegun t rest buf sweep hst hbuf =>
    rw [Move.handed_eq (h := .trip buf) (by simp [Table.find?_set])] at hbytes
    obtain rfl := Option.some.inj hbytes
    rw [inHand_pop hst, unsent_trip, Frame.bytes, ← Multiset.coe_add, add_assoc]
    exact Multiset.le_add_right _ _
  | _ => simp [Move.handed] at hbytes

/-- A write of a chain has its number to itself. -/
theorem chain_kept {write : Write} {flight : Flight} (h : Step s a s' sig) (hw : w < s.nextWrite)
    (hkept : ∀ v ∈ s.outstanding.find? w, v = .chain write flight) :
    w < s'.nextWrite ∧ ∀ v ∈ s'.outstanding.find? w, v = .chain write flight := by
  cases h with
  | driven _ _ | carried _ _ | tripBegun _ _ =>
    refine ⟨Nat.lt_succ_of_lt hw, ?_⟩
    simpa [Table.find?_set, Nat.ne_of_lt hw] using hkept
  | tripExpired _ _ =>
    refine ⟨hw, ?_⟩
    simp only [setStore_eq, frame_setConn, find?_disown, frame_setStack]
    split
    · intro v hv
      obtain ⟨handed, hfind, rfl⟩ := Option.map_eq_some_iff.1 hv
      rw [hkept handed hfind]
      rfl
    · exact hkept
  | strayEnded _ _ | tripEnded _ _ | chainStale _ _ _ | chainQuiet _ _ _ | chainTold _ _ _ | chainGoesOn _ _ _
  | chainFailed _ _ _ | strayForgotten _ | tripForgotten _ | chainForgotten _ =>
    exact ⟨hw, fun v hv => hkept v (Table.find?_of_erase _ _ hv)⟩
  | _ => exact ⟨hw, hkept⟩

theorem chain_kept_run {write : Write} {flight : Flight} (run : Run mid later s') (hw : w < mid.nextWrite)
    (hkept : ∀ v ∈ mid.outstanding.find? w, v = .chain write flight) :
    w < s'.nextWrite ∧ ∀ v ∈ s'.outstanding.find? w, v = .chain write flight := by
  induction run with
  | nil => exact ⟨hw, hkept⟩
  | snoc run h ih => exact chain_kept (step_perform h) ih.1 ih.2

/-- The end of a write with a stale guard shows nowhere. -/
theorem stale_end_step {write : Write} {flight : Flight} (h : Step s a s' sig) (ha : a.ends w = true)
    (hkept : ∀ v ∈ s.outstanding.find? w, v = .chain write flight)
    (hstale : s.conn.permit.isCurrent flight.guard = false) :
    s'.conn = s.conn ∧ s'.thread = s.thread ∧ sig = none := by
  cases h with
  | strayEnded _ hfind | tripEnded _ hfind | strayForgotten hfind | tripForgotten hfind =>
    obtain rfl := of_decide_eq_true ha
    exact absurd (hkept _ hfind) (by simp)
  | chainStale _ hfind _ => exact ⟨rfl, rfl, rfl⟩
  | chainForgotten hfind =>
    obtain rfl := of_decide_eq_true ha
    cases hkept _ hfind
    rw [setPermit_eq, Connection.release_of_not_current hstale]
    exact ⟨rfl, rfl, rfl⟩
  | chainQuiet _ hfind hset | chainTold _ hfind hset | chainGoesOn _ hfind hset | chainFailed _ hfind hset =>
    obtain rfl := of_decide_eq_true ha
    cases hkept _ hfind
    simp [hset.isCurrent (by simp)] at hstale
  | _ => simp [Action.ends] at ha

/-! ### After a recycle -/

theorem recycle_conn (h : s.perform (.call t .recycle) = some (mid, sig)) : mid = s.setConn s.conn.recycle := by
  cases step_perform h
  rfl

/-- The guards from before are of an age of their own. -/
theorem generation_gt (run : Run (fresh config) moves s) (h : s.perform (.call t .recycle) = some (mid, sig))
    (following : Run mid later s')
    (hfew : renewals (moves ++ ⟨s, .call t .recycle, mid, sig⟩ :: later) < 2 ^ 64) :
    renewals moves < s'.conn.permit.generation.toNat := by
  have hwhole := (run.snoc h).append following
  rw [List.append_cons] at hfew
  have hrenew : s.conn.permit.renewals mid.conn.permit = 1 := by
    rw [recycle_conn h]
    exact if_neg (Permit.generation_add_one_ne _)
  rw [(accounted_run hwhole hfew).age]
  simp only [renewals, List.map_append, List.sum_append, List.map_singleton, List.sum_singleton, Move.renewals, hrenew]
  omega

theorem renewals_le_append (before after : List Move) : renewals before ≤ renewals (before ++ after) := by
  simp [renewals]

/-- The guard of a chain at the transport was granted before. -/
theorem generation_le (run : Run (fresh config) moves s) (hfew : renewals moves < 2 ^ 64) {write : Write}
    {flight : Flight} (hw : s.outstanding.find? w = some (.chain write flight)) :
    flight.guard.generation.toNat ≤ renewals moves := by
  refine (accounted_run run hfew).old _ ?_
  rw [tally_endWrite _ hw]
  exact Multiset.mem_add.2 (.inl (List.mem_singleton_self _))

/-- Right after a recycle only what was outside the store is left, without the chains at the transport. -/
theorem alive_recycle (run : Run (fresh config) moves s) (hfew : renewals moves < 2 ^ 64) :
    (s.setConn s.conn.recycle).alive (renewals moves) = s.residue := by
  have hcensus : s.outstanding.census (Handed.alive (renewals moves)) = s.outstanding.census Handed.returning := by
    refine congrArg Multiset.ofList (List.flatMap_congr fun e he => ?_)
    obtain ⟨w, handed⟩ := e
    cases handed with
    | chain write flight =>
      have hold := generation_le run hfew ((Table.find?_eq_some_iff _).2 he)
      simp [Handed.alive, Handed.returning, Nat.not_lt.2 hold]
    | trip buf | stray buf => rfl
  have hcontents : s.conn.recycle.store.contents = [] := by simp [Connection.recycle]
  simp only [alive, frame_setConn, hcontents, around, hcensus, residue, comingBack]
  exact add_zero _

theorem alive_run (run : Run (fresh config) moves s) (h : s.perform (.call t .recycle) = some (mid, sig))
    (following : Run mid later s')
    (hfew : renewals (moves ++ ⟨s, .call t .recycle, mid, sig⟩ :: later) < 2 ^ 64) :
    s'.alive (renewals moves) ≤ s.residue + ↑(taken later) := by
  induction following with
  | nil =>
    rw [recycle_conn h, alive_recycle run ((renewals_le_append _ _).trans_lt hfew)]
    exact Multiset.le_add_right _ _
  | @snoc later u a u' sig' following hlast ih =>
    rw [← List.cons_append, ← List.append_assoc] at hfew
    have hless := (renewals_le_append _ _).trans_lt hfew
    have hwhole := (run.snoc h).append following
    have hstep := alive_step (numbered_run hwhole) (sound_run hwhole).store.wellFormed
      (generation_gt run h following hless) (step_perform hlast)
    rw [taken_snoc, ← Multiset.coe_add, ← add_assoc]
    exact hstep.trans (add_le_add_left (ih hless) _)

/-- After a recycle the store holds, and later writes carry, no more than what was added since and what was left
outside the store: with sweeps, with writes in hand and with round trips. The writes of chains that were at the
transport end without a trace. -/
theorem recycle_isolates (run : Run (fresh config) moves s) (h : s.perform (.call t .recycle) = some (mid, sig))
    (following : Run mid later s')
    (hfew : renewals (moves ++ ⟨s, .call t .recycle, mid, sig⟩ :: later) < 2 ^ 64) :
    ↑s'.conn.store.contents ≤ s.residue + ↑(taken later) ∧
    ∀ before m after, later = before ++ m :: after →
      (∀ bytes : List UInt8, m.handed = some bytes → ↑bytes ≤ s.residue + ↑(taken before)) ∧
      (∀ w write flight, s.outstanding.find? w = some (.chain write flight) → m.action.ends w = true →
        m.after.conn = m.before.conn ∧ m.after.thread = m.before.thread ∧ m.signal = none) := by
  refine ⟨(Multiset.le_add_left _ _).trans (alive_run run h following hfew), fun before m after hlater => ?_⟩
  obtain ⟨hbefore, hm⟩ := following.split hlater
  rw [hlater, ← List.cons_append, ← List.append_assoc] at hfew
  have hless := (renewals_le_append _ _).trans_lt hfew
  refine ⟨fun bytes hbytes => ?_, fun w write flight hw hends => ?_⟩
  · refine (handed_step (step_perform hm) hbytes).trans (le_trans ?_ (alive_run run h hbefore hless))
    exact (Multiset.le_add_right _ _).trans (Multiset.le_add_right _ _)
  · have hnext := (numbered_run run).lt_nextWrite hw
    have hmid : w < mid.nextWrite ∧ ∀ v ∈ mid.outstanding.find? w, v = .chain write flight := by
      rw [recycle_conn h]
      exact ⟨hnext, fun v hv => Option.some.inj (hv.symm.trans hw)⟩
    have hkept := (chain_kept_run hbefore hmid.1 hmid.2).2
    have hold := generation_le run ((renewals_le_append _ _).trans_lt hless) hw
    have hyoung := generation_gt run h hbefore hless
    refine stale_end_step (step_perform hm) hends hkept ?_
    by_contra hcurrent
    rw [Bool.not_eq_false, Permit.isCurrent_iff] at hcurrent
    rw [← hcurrent.2] at hold
    omega

/-- A byte is at the transport and another one is queued. After the recycle the old write ends, and the next exchange
sends its own byte. -/
theorem recycle_isolates_queued_byte : ∃ moves s mid later s', Run (fresh {}) moves s ∧
    s.conn.store.contents = [98] ∧ s.perform (.call 0 .recycle) = some (mid, some (.replied .done)) ∧
    Run mid later s' ∧ s.residue = 0 ∧ (later.filterMap Move.handed) = [[99]] ∧
    ∀ before m after, later = before ++ m :: after →
      ∀ bytes : List UInt8, m.handed = some bytes → (↑bytes : Multiset UInt8) ≤ ↑(taken before) := by
  obtain ⟨moves, s, run, hout, hresidue, hqueued, hlater⟩ := Run.exists_of_follow (fresh {})
    [.call 0 (.add { bytes := ⟨#[97]⟩ } .nonBlocking), .run 0, .run 0, .resume 0, .run 0, .run 0,
      .call 0 (.add { bytes := ⟨#[98]⟩ } .nonBlocking)]
    (P := fun moves s => (s.thread 0).isOutside = true ∧ s.residue = 0 ∧ s.conn.store.contents = [98] ∧
      (((s.setConn s.conn.recycle).follow
        [.complete 1 0 (.ok 1), .call 0 (.add { bytes := ⟨#[99]⟩ } .nonBlocking), .run 0, .run 0]).any fun r =>
          decide (renewals (moves ++ ⟨s, .call 0 .recycle, s.setConn s.conn.recycle, some (.replied .done)⟩ :: r.1)
            < 2 ^ 64 ∧ r.1.filterMap Move.handed = [[99]])) = true)
    (by decide +kernel)
  obtain ⟨⟨later, s'⟩, hfollow, hend⟩ := (Option.any_eq_true _ _).1 hlater
  obtain ⟨hfew, hhanded⟩ := of_decide_eq_true hend
  have h : s.perform (.call 0 .recycle) = some (s.setConn s.conn.recycle, some (.replied .done)) := by
    simp only [perform, hout, if_true]
    rfl
  have hiso := (recycle_isolates run h (.of_follow hfollow) hfew).2
  refine ⟨moves, s, _, later, s', run, hqueued, h, .of_follow hfollow, hresidue, hhanded, ?_⟩
  intro before m after hlater
  simpa [hresidue] using (hiso before m after hlater).1

/-- A round trip has written the first of two bytes when the connection is recycled. The flush sends the second one. -/
theorem recycle_leaks : ¬ ∀ (config : Config) (moves later : List Move) (s mid s' : System) (t : ThreadId)
    (sig : Option Signal), Run (fresh config) moves s → s.perform (.call t .recycle) = some (mid, sig) →
    Run mid later s' → ∀ m ∈ later, ∀ bytes : List UInt8, m.handed = some bytes →
    (↑bytes : Multiset UInt8) ≤ ↑(taken later) := by
  intro hclaim
  obtain ⟨moves, s, run, hout, hlater⟩ := Run.exists_of_follow (fresh {})
    [.call 0 (.add { bytes := ⟨#[97, 98]⟩ } .blocking), .run 0, .run 0, .call 0 (.flush .blocking), .run 0, .run 0,
      .run 0, .complete 0 0 (.ok 1)]
    (P := fun _ s => (s.thread 0).isOutside = true ∧ (((s.setConn s.conn.recycle).follow
      [.resume 0, .run 0, .run 0]).any fun r => decide (taken r.1 = [] ∧ ∃ m ∈ r.1, m.handed = some [98])) = true)
    (by decide +kernel)
  obtain ⟨⟨later, s'⟩, hfollow, hend⟩ := (Option.any_eq_true _ _).1 hlater
  obtain ⟨htaken, m, hm, hhanded⟩ := of_decide_eq_true hend
  have h : s.perform (.call 0 .recycle) = some (s.setConn s.conn.recycle, some (.replied .done)) := by
    simp only [perform, hout, if_true]
    rfl
  have hle := hclaim {} moves later s _ s' 0 _ run h (Run.of_follow hfollow) m hm [98] hhanded
  rw [htaken] at hle
  simp at hle

end System

end Outflow
