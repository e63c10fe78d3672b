import Outflow.Proofs.Tenure
import Outflow.Proofs.Wakeup

/-! What becomes of each registered interest, and how things stand when a chain ends of which a producer is to be told:
the permit is free, there is no failure, and the transport has confirmed all that the chain was loaded with. Word
follows when the connection is open to other threads again. -/
namespace Outflow

namespace Connection.Settled

variable {c c' : Connection} {f : Flight} {isInline : Bool} {outcome : Outcome} {write : Write}

theorem interest_eq {notify : Bool} (h : Settled c f isInline outcome write c' (.finished notify)) :
    c'.interest = (c.interest && !notify) := by
  cases h
  rfl

theorem interest_reissue {next : Write} (h : Settled c f isInline outcome write c' (.reissue next)) :
    c'.interest = c.interest := by
  cases h <;> rfl

end Connection.Settled

/-- The guards of chains that a frame carries on or is about to begin. -/
def Frame.engaged : Frame → List Guard
  | carrying job => [job.flight.guard]
  | starting _ g => [g]
  | _ => []

@[simps]
def Tally.engaged : Tally Guard where
  ofFrame := Frame.engaged
  ofJob job := [job.flight.guard]
  ofTrip _ := []

def Signal.isWritable : Signal → Bool
  | notify .writable => true
  | _ => false

theorem Signal.eq_writable {sig : Option Signal} (h : sig.any isWritable = true) : sig = some (.notify .writable) := by
  match sig with
  | some (.notify .writable) => rfl

theorem Event.eq_writable {events : List Event} (h : events.map isWritable = [true]) : events = [.writable] := by
  obtain ⟨event, rfl, hwritable⟩ := List.map_eq_singleton_iff.1 h
  cases event with
  | writable => rfl
  | error err => cases hwritable

def Action.isRegistration : Action → Bool
  | call _ .registerInterest => true
  | _ => false

def Action.isWithdrawal : Action → Bool
  | call _ .reset | call _ .recycle => true
  | _ => false

namespace System

variable {config : Config} {s s' : System} {moves : List Move} {a : Action} {sig : Option Signal} {t : ThreadId}
  {w : WriteId} {write : Write} {flight : Flight} {k : MarkerId}

/-! ### Interest -/

/-- Somebody asks for word. -/
def Move.registers (m : Move) : Bool := m.action.isRegistration

/-- Somebody gets word. -/
def Move.tells (m : Move) : Bool := m.signal.any Signal.isWritable

/-- Somebody had asked for word, and is forgotten: by a reset, with the connection, or because the chain failed. -/
def Move.withdraws (m : Move) : Bool :=
  m.before.conn.interest && (m.action.isWithdrawal || m.brings.any fun event => !event.isWritable)

/-- Somebody asks for word, as was done before. -/
def Move.repeats (m : Move) : Bool := m.registers && (m.before.conn.permit.held && m.before.conn.interest)

/-- A move that has nothing to do with interest. -/
theorem interest_aside {m : Move} (ha : m.action.isRegistration = false) (hw : m.action.isWithdrawal = false)
    (hbrings : m.brings = []) (h : m.after.conn.interest = m.before.conn.interest) :
    m.registers.toNat + m.before.conn.interest.toNat
      = m.brings.countP Event.isWritable + m.after.conn.interest.toNat + m.withdraws.toNat + m.repeats.toNat := by
  simp [Move.registers, Move.withdraws, Move.repeats, ha, hw, hbrings, h]

/-- Each request is going to be answered, waits, is withdrawn, or adds nothing to one that waits. -/
theorem interest_step (h : Step s a s' sig) : (Move.registers ⟨s, a, s', sig⟩).toNat + s.conn.interest.toNat
    = (Move.brings ⟨s, a, s', sig⟩).countP Event.isWritable + s'.conn.interest.toNat
      + (Move.withdraws ⟨s, a, s', sig⟩).toNat + (Move.repeats ⟨s, a, s', sig⟩).toNat := by
  have hquiet {t : ThreadId} := Move.brings_eq_nil (m := ⟨s, a, s', sig⟩) (t := t)
  cases h with
  | registered hout hheld =>
    cases hi : s.conn.interest <;>
      simp [hquiet rfl hout, Move.registers, Move.withdraws, Move.repeats, Action.isRegistration, Action.isWithdrawal,
        hheld, hi]
  | registeredFree hout hfree =>
    simp [Move.registers, Move.brings, Frame.news, Event.isWritable, Move.withdraws, Move.repeats,
      Action.isRegistration, Action.isWithdrawal, hfree, Nat.add_comm]
  | reset hout | recycle hout =>
    simp [Move.registers, Move.brings, Move.withdraws, Move.repeats, Action.isRegistration, Action.isWithdrawal,
      Connection.reset, Connection.recycle]
  | chainTold hout hw hset =>
    have hi : s.conn.interest = true := by
      have hnotify := hset.notify_eq
      grind
    simp [Move.registers, Move.brings, Frame.news, Event.isWritable, Move.withdraws, Move.repeats,
      Action.isRegistration, Action.isWithdrawal, hi, hset.interest_eq]
  | @chainFailed t w outcome write flight conn err hout hw hset =>
    have hi : conn.interest = false := by cases hset; rfl
    simp [Move.registers, Move.brings, Frame.news, Event.isWritable, Move.withdraws, Move.repeats,
      Action.isRegistration, hi]
  | strayEnded hout hw | tripEnded hout hw | chainStale hout hw hset =>
    exact interest_aside rfl rfl (hquiet rfl hout) rfl
  | chainQuiet hout hw hset =>
    exact interest_aside rfl rfl (hquiet rfl hout) (by simp [hset.interest_eq])
  | chainGoesOn hout hw hset =>
    exact interest_aside rfl rfl (by simp [Move.brings, Frame.news]) hset.interest_reissue
  | addQueued hout hsrc herr hheld hroom =>
    exact interest_aside rfl rfl rfl (by rw [Connection.queue?_eq_ok hroom]; rfl)
  | _ => exact interest_aside rfl rfl rfl rfl

theorem interest_run (run : Run (fresh config) moves s) : moves.countP Move.registers
    = (moves.flatMap Move.brings).countP Event.isWritable + s.conn.interest.toNat + moves.countP Move.withdraws
      + moves.countP Move.repeats := by
  induction run with
  | nil => rfl
  | snoc run h ih =>
    have hstep := interest_step (step_perform h)
    simp only [countP_snoc]
    rw [List.flatMap_append, List.flatMap_singleton, List.countP_append]
    omega

theorem countP_told (moves : List Move) :
    (moves.flatMap Move.told).countP Event.isWritable = moves.countP Move.tells := by
  induction moves with
  | nil => rfl
  | cons m moves ih =>
    rw [List.flatMap_cons, List.countP_append, ih, List.countP_cons, Nat.add_comm]
    congr 1
    obtain ⟨before, action, after, signal⟩ := m
    cases signal with
    | none => rfl
    | some sig =>
      cases sig with
      | notify event => cases event <;> rfl
      | _ => rfl

/-- Word that is going to be given has been given, or a thread is about to. -/
theorem writables_run (run : Run (fresh config) moves s) : (moves.flatMap Move.brings).countP Event.isWritable
    = moves.countP Move.tells + (s.collect .news).countP Event.isWritable := by
  have hnews := congrArg (Multiset.countP fun event => event.isWritable) (run.news (numbered_fresh config))
  rw [tally_fresh, add_zero, Multiset.countP_add, tally] at hnews
  simpa [← countP_told] using hnews.symm

/-! ### What a chain is loaded with -/

/-- What goes from the store to the chain with marker `k`: all there is, as the chain begins and with each of its writes
that follows. -/
def loadedBy (s : System) (k : MarkerId) : Action → List UInt8
  | .call _ (.flush .nonBlocking) =>
    if s.conn.error.isNone && !s.conn.permit.held && s.markers.next == k then s.conn.store.contents else []
  | .run t =>
    if (s.thread t).stack.head?.any Frame.isStarting && s.markers.next == k then s.conn.store.contents else []
  | .complete _ w outcome =>
    match s.outstanding.find? w with
    | some (.chain _ flight) =>
      if s.conn.permit.isCurrent flight.guard && outcome.written.isOk && flight.marker == k then
        s.conn.store.contents
      else []
    | _ => []
  | _ => []

/-- What the transport confirms of the chain with marker `k`. -/
def acknowledgedBy (s : System) (k : MarkerId) : Action → List UInt8
  | .complete _ w outcome =>
    match s.outstanding.find? w with
    | some (.chain write flight) => if flight.marker = k then write.unsent.take outcome.count else []
    | _ => []
  | _ => []

def loaded (k : MarkerId) (moves : List Move) : List UInt8 := moves.flatMap fun m => m.before.loadedBy k m.action

def acknowledged (k : MarkerId) (moves : List Move) : List UInt8 :=
  moves.flatMap fun m => m.before.acknowledgedBy k m.action

theorem loaded_snoc (k : MarkerId) (moves : List Move) (m : Move) :
    loaded k (moves ++ [m]) = loaded k moves ++ m.before.loadedBy k m.action := by
  simp [loaded]

theorem acknowledged_snoc (k : MarkerId) (moves : List Move) (m : Move) :
    acknowledged k (moves ++ [m]) = acknowledged k moves ++ m.before.acknowledgedBy k m.action := by
  simp [acknowledged]

/-- What one step does to the writes of chains. -/
inductive Loaded (s : System) (a : Action) (s' : System) : Prop
  | aside (hjobs : s'.tally .jobs = s.tally .jobs) (hnext : s'.markers.next = s.markers.next)
      (hl : ∀ k, s.loadedBy k a = []) (ha : ∀ k, s.acknowledgedBy k a = [])
  | begun (write : Write) (g : Guard)
      (hjobs : s'.tally .jobs = ⟨write, { guard := g, marker := s.markers.next }⟩ ::ₘ s.tally .jobs)
      (hnext : s'.markers.next = s.markers.next + 1)
      (hl : ∀ k, s.loadedBy k a = if s.markers.next = k then write.unsent else [])
      (ha : ∀ k, s.acknowledgedBy k a = [])
  | goesOn (job : Job) (next : Write) (count : Nat) (stored : List UInt8) (J : Multiset Job)
      (hjobs : s.tally .jobs = job ::ₘ J) (hjobs' : s'.tally .jobs = ⟨next, job.flight⟩ ::ₘ J)
      (hnext : s'.markers.next = s.markers.next) (hunsent : next.unsent = job.write.unsent.drop count ++ stored)
      (hl : ∀ k, s.loadedBy k a = if job.flight.marker = k then stored else [])
      (ha : ∀ k, s.acknowledgedBy k a = if job.flight.marker = k then job.write.unsent.take count else [])
  | ended (job : Job) (count : Nat) (hjobs : s.tally .jobs = job ::ₘ s'.tally .jobs)
      (hnext : s'.markers.next = s.markers.next) (hl : ∀ k, s.loadedBy k a = [])
      (ha : ∀ k, s.acknowledgedBy k a = if job.flight.marker = k then job.write.unsent.take count else [])

theorem loadedBy_run {frame : Frame} {rest : List Frame} (hst : (s.thread t).stack = frame :: rest)
    (hf : frame.isStarting = false) (k : MarkerId) : s.loadedBy k (.run t) = [] := by
  simp [loadedBy, hst, hf]

theorem loadedBy_other {handed : Handed} (hw : s.outstanding.find? w = some handed) (hchain : handed.isChain = false)
    (k : MarkerId) (outcome : Outcome) : s.loadedBy k (.complete t w outcome) = [] := by
  cases handed with
  | chain write flight => cases hchain
  | trip buf | stray buf => simp [loadedBy, hw]

theorem acknowledgedBy_other {handed : Handed} (hw : s.outstanding.find? w = some handed)
    (hchain : handed.isChain = false) (k : MarkerId) (outcome : Outcome) :
    s.acknowledgedBy k (.complete t w outcome) = [] := by
  cases handed with
  | chain write flight => cases hchain
  | trip buf | stray buf => simp [acknowledgedBy, hw]

theorem acknowledgedBy_chain (hw : s.outstanding.find? w = some (.chain write flight)) (k : MarkerId)
    (outcome : Outcome) : s.acknowledgedBy k (.complete t w outcome)
      = if flight.marker = k then write.unsent.take outcome.count else [] := by
  simp [acknowledgedBy, hw]

/-- The write of a chain ends, and takes nothing along. -/
theorem loaded_ended {outcome : Outcome} (hw : s.outstanding.find? w = some (.chain write flight))
    (hjobs : s'.tally .jobs = (s.endWrite w).tally .jobs) (hnext : s'.markers.next = s.markers.next)
    (hnone : s.conn.permit.isCurrent flight.guard = true → outcome.written.isOk = true → s.conn.store.contents = []) :
    Loaded s (.complete t w outcome) s' := by
  refine .ended ⟨write, flight⟩ outcome.count ?_ hnext (fun k => ?_) fun k => acknowledgedBy_chain hw k outcome
  · rw [hjobs]
    exact tally_endWrite _ hw
  · simp only [loadedBy, hw, Bool.and_eq_true]
    split
    · next h => exact hnone h.1.1 h.1.2
    · rfl

theorem loaded_step (hnum : s.Numbered) (hwf : s.conn.store.WellFormed) (h : Step s a s' sig) : Loaded s a s' := by
  have hfresh := hnum.outstanding _ (Nat.le_refl _)
  cases h with
  | addNothing _ _ | addRefused _ _ _ | addBlocking _ _ _ | addGranted _ _ _ _ | addFull _ _ _ _ _
  | flushAwaits _ _ _ | flushCollects _ _ _ | registered _ _ | registeredFree _ _ | reset _ | recycle _ =>
    exact .aside (by simp [tally_push, Frame.jobs]) rfl (fun _ => rfl) fun _ => rfl
  | addQueued hout hsrc herr hheld hroom =>
    rw [Connection.queue?_eq_ok hroom]
    exact .aside rfl rfl (fun _ => rfl) fun _ => rfl
  | @flushRefused t mode err hout herr =>
    exact .aside rfl rfl (fun _ => by cases mode <;> simp [loadedBy, herr]) fun _ => rfl
  | flushHeld hout herr hheld => exact .aside rfl rfl (fun _ => by simp [loadedBy, hheld]) fun _ => rfl
  | flushNothing hout herr hfree htake =>
    have hempty := contents_of_takeWrite_none hwf htake
    exact .aside rfl rfl (fun _ => by simp [loadedBy, hempty]) fun _ => rfl
  | @flushBegun t store write hout herr hfree htake =>
    have hunsent := (unsent_takeWrite hwf htake).1
    refine .begun write s.conn.permit.nextGuard (by simp [tally_begin, Frame.jobs]) rfl (fun _ => ?_) fun _ => rfl
    simp [loadedBy, herr, hfree, hunsent]
  | startedNothing hst htake =>
    have hempty := contents_of_takeWrite_none hwf htake
    exact .aside (by simp [tally_pop _ hst, Frame.jobs]) rfl (fun _ => by simp [loadedBy, hempty]) fun _ => rfl
  | @started t rest starter g store write hst htake =>
    have hunsent := (unsent_takeWrite hwf htake).1
    refine .begun write g (by simp [tally_begin, tally_pop _ hst, Frame.jobs]) rfl (fun _ => ?_) fun _ => rfl
    simp [loadedBy, hst, Frame.isStarting, hunsent]
  | driven hst hd =>
    exact .aside (by simp [tally_driven _ hfresh hst hd, Frame.jobs]) rfl (loadedBy_run hst rfl) fun _ => rfl
  | driveDone hst hd =>
    exact .aside (by simp [tally_driveDone _ hd, tally_pop _ hst, Frame.jobs]) rfl (loadedBy_run hst rfl) fun _ => rfl
  | carried hst hd =>
    refine .aside ?_ rfl (loadedBy_run hst rfl) fun _ => rfl
    simp [tally_carried _ hfresh hd, tally_pop _ hst, Frame.jobs]
  | deferred hst hd =>
    exact .aside (by simp [tally_deferred _ hd, tally_pop _ hst, Frame.jobs]) rfl (loadedBy_run hst rfl) fun _ => rfl
  | tripBegun hst hbuf =>
    refine .aside ?_ rfl (loadedBy_run hst rfl) fun _ => rfl
    simp [tally_trip _ hfresh, tally_pop _ hst, Frame.jobs]
  | answered hst | issued hst | addDone hst _ | collectedLate hst _ | sweptFlush hst _ _ _ | tripDropped hst _
  | tripFailed hst _ _ | refused hst =>
    exact .aside (by simp [tally_pop _ hst, Frame.jobs]) rfl (loadedBy_run hst rfl) fun _ => rfl
  | absorbed hst _ _ | filledBehind hst _ _ _ | filled hst _ _ _ | roomMade hst _ | admittedLate hst _ | admitted hst _
  | chainAwaited hst _ | yielded hst | collected hst _ | sweptChunk hst _ | sweptPrimary hst _ _ | sweptAdd hst _ _ _
  | tripsDone hst _ | tripDone hst _ _ | told hst | toldFailure hst =>
    exact .aside (by simp [tally_pop _ hst, tally_replace, Frame.jobs]) rfl (loadedBy_run hst rfl) fun _ => rfl
  | roomExpired hst _ | tripExpired hst _ | transportReturned hst | notified hst =>
    exact .aside (by simp [tally_pop _ hst, Frame.jobs]) rfl (fun _ => rfl) fun _ => rfl
  | chainExpired hst _ | attached hst =>
    exact .aside (by simp [tally_pop _ hst, tally_replace, Frame.jobs]) rfl (fun _ => rfl) fun _ => rfl
  | strayEnded hout hw | tripEnded hout hw =>
    exact .aside (by simp [tally_endWrite _ hw]) rfl (loadedBy_other hw rfl · _) (acknowledgedBy_other hw rfl · _)
  | strayForgotten hw | tripForgotten hw =>
    exact .aside (by simp [tally_endWrite _ hw]) rfl (fun _ => rfl) fun _ => rfl
  | @chainForgotten w write flight hw =>
    exact .ended ⟨write, flight⟩ 0 (tally_endWrite _ hw) rfl (fun _ => rfl) fun _ => by simp [acknowledgedBy]
  | chainStale hout hw hset =>
    refine loaded_ended hw rfl rfl fun hcurrent => ?_
    rw [hset.not_isCurrent] at hcurrent
    cases hcurrent
  | chainQuiet hout hw hset | chainTold hout hw hset =>
    obtain ⟨-, -, -, -, hempty, -⟩ := hset.unsent_finished hwf
    exact loaded_ended hw (by simp [tally_push, Frame.jobs]) rfl fun _ _ => hempty
  | chainFailed hout hw hset =>
    refine loaded_ended hw (by simp [tally_push, Frame.jobs]) rfl fun _ hok => ?_
    rw [hset.written_failed] at hok
    cases hok
  | @chainGoesOn t w outcome write flight conn next hout hw hset =>
    obtain ⟨count, hwritten, hcurrent, hunsent, -⟩ := hset.unsent_reissue hwf
    refine .goesOn ⟨write, flight⟩ next count s.conn.store.contents ((s.endWrite w).tally .jobs)
      (tally_endWrite _ hw) (by simp [tally_push, Frame.jobs]) rfl hunsent (fun k => ?_) fun k => ?_
    · simp [loadedBy, hw, hcurrent, hwritten, Except.isOk, Except.toBool]
    · rw [acknowledgedBy_chain hw, Outcome.written_eq_ok hwritten]
  | transportPending => exact .aside rfl rfl (fun _ => rfl) fun _ => rfl

/-- Each write of a chain carries what the chain was loaded with and the transport has not confirmed. -/
structure Balanced (s : System) (moves : List Move) : Prop where
  nodup : ((s.tally .jobs).map fun job => job.flight.marker).Nodup
  old : ∀ job ∈ s.tally .jobs, job.flight.marker < s.markers.next
  unused : ∀ k, s.markers.next ≤ k → loaded k moves = [] ∧ acknowledged k moves = []
  balance : ∀ job ∈ s.tally .jobs,
    loaded job.flight.marker moves = acknowledged job.flight.marker moves ++ job.write.unsent

theorem balanced_step (hb : s.Balanced moves) (h : Loaded s a s') : s'.Balanced (moves ++ [⟨s, a, s', sig⟩]) := by
  obtain ⟨hnodup, hold, hunused, hbalance⟩ := hb
  cases h with
  | aside hjobs hnext hl ha =>
    refine ⟨hjobs ▸ hnodup, ?_, ?_, ?_⟩
    · rwa [hjobs, hnext]
    · simpa [hnext, loaded_snoc, acknowledged_snoc, hl, ha] using hunused
    · simpa [hjobs, loaded_snoc, acknowledged_snoc, hl, ha] using hbalance
  | begun write g hjobs hnext hl ha =>
    have hnew : ∀ job ∈ s.tally .jobs, s.markers.next ≠ job.flight.marker := fun job hj => (hold job hj).ne'
    refine ⟨?_, ?_, fun k hk => ?_, ?_⟩
    · rw [hjobs, Multiset.map_cons, Multiset.nodup_cons]
      refine ⟨fun hmem => ?_, hnodup⟩
      obtain ⟨job, hj, heq⟩ := Multiset.mem_map.1 hmem
      exact hnew job hj heq.symm
    · rw [hjobs, hnext, Multiset.forall_mem_cons]
      exact ⟨Nat.lt_succ_self _, fun job hj => (hold job hj).trans (Nat.lt_succ_self _)⟩
    · rw [hnext] at hk
      have hne : s.markers.next ≠ k := Nat.ne_of_lt hk
      simp [loaded_snoc, acknowledged_snoc, hl, ha, hne, hunused k (Nat.le_of_succ_le hk)]
    · rw [hjobs, Multiset.forall_mem_cons]
      refine ⟨?_, fun job hj => ?_⟩
      · simp [loaded_snoc, acknowledged_snoc, hl, ha, hunused _ (Nat.le_refl _)]
      · simpa [loaded_snoc, acknowledged_snoc, hl, ha, hnew job hj] using hbalance job hj
  | goesOn job next count stored J hjobs hjobs' hnext hunsent hl ha =>
    rw [hjobs] at hnodup hold hbalance
    rw [Multiset.map_cons, Multiset.nodup_cons] at hnodup
    rw [Multiset.forall_mem_cons] at hold hbalance
    refine ⟨?_, ?_, fun k hk => ?_, ?_⟩
    · rw [hjobs', Multiset.map_cons, Multiset.nodup_cons]
      exact hnodup
    · rw [hjobs', hnext, Multiset.forall_mem_cons]
      exact hold
    · rw [hnext] at hk
      have hne : job.flight.marker ≠ k := Nat.ne_of_lt (hold.1.trans_le hk)
      simp [loaded_snoc, acknowledged_snoc, hl, ha, hne, hunused k hk]
    · rw [hjobs', Multiset.forall_mem_cons]
      refine ⟨?_, fun other hj => ?_⟩
      · have hwhole : job.write.unsent ++ stored
            = job.write.unsent.take count ++ (job.write.unsent.drop count ++ stored) := by
          rw [← List.append_assoc, List.take_append_drop]
        simpa [loaded_snoc, acknowledged_snoc, hl, ha, hunsent, hbalance.1] using hwhole
      · have hne : job.flight.marker ≠ other.flight.marker := fun heq => hnodup.1 (heq ▸ Multiset.mem_map_of_mem _ hj)
        simpa [loaded_snoc, acknowledged_snoc, hl, ha, hne] using hbalance.2 other hj
  | ended job count hjobs hnext hl ha =>
    rw [hjobs] at hnodup hold hbalance
    rw [Multiset.map_cons, Multiset.nodup_cons] at hnodup
    rw [Multiset.forall_mem_cons] at hold hbalance
    refine ⟨hnodup.2, ?_, fun k hk => ?_, fun other hj => ?_⟩
    · rw [hnext]
      exact hold.2
    · rw [hnext] at hk
      have hne : job.flight.marker ≠ k := Nat.ne_of_lt (hold.1.trans_le hk)
      simp [loaded_snoc, acknowledged_snoc, hl, ha, hne, hunused k hk]
    · have hne : job.flight.marker ≠ other.flight.marker := fun heq => hnodup.1 (heq ▸ Multiset.mem_map_of_mem _ hj)
      simpa [loaded_snoc, acknowledged_snoc, hl, ha, hne] using hbalance.2 other hj

theorem balanced_run (run : Run (fresh config) moves s) : s.Balanced moves := by
  induction run with
  | nil => exact ⟨by simp, by simp, by simp [loaded, acknowledged], by simp⟩
  | snoc run h ih =>
    exact balanced_step ih (loaded_step (numbered_run run) (sound_run run).store.wellFormed (step_perform h))

/-- No two writes are of one chain. -/
def Distinct (s : System) : Prop := ((s.tally .jobs).map fun job => job.flight.marker).Nodup

theorem Distinct.eq_of_marker (hdistinct : s.Distinct) {job job' : Job} (hj : job ∈ s.tally .jobs)
    (hj' : job' ∈ s.tally .jobs) (hk : job.flight.marker = job'.flight.marker) : job = job' :=
  Multiset.inj_on_of_nodup_map hdistinct job hj job' hj' hk

/-- With the write that ends nothing of its chain is left. -/
theorem Distinct.marker_ne_of_endWrite (hdistinct : s.Distinct)
    (hw : s.outstanding.find? w = some (.chain write flight)) :
    ∀ job ∈ (s.endWrite w).tally .jobs, job.flight.marker ≠ flight.marker := by
  rw [Distinct, tally_endWrite _ hw] at hdistinct
  simp only [Tally.ofHanded_chain, Tally.jobs_ofJob, Multiset.coe_singleton, Multiset.singleton_add,
    Multiset.map_cons, Multiset.nodup_cons] at hdistinct
  exact fun job hj heq => hdistinct.1 (Multiset.mem_map.2 ⟨job, hj, heq⟩)

theorem distinct_run (run : Run (fresh config) moves s) : s.Distinct := (balanced_run run).nodup

/-! ### Failures -/

/-- After a failure no chain has a say, nor has one that is about to begin. -/
def Barren (s : System) : Prop :=
  s.conn.error ≠ none → ∀ g ∈ s.tally .engaged, s.conn.permit.isCurrent g = false

theorem engaged_le_guards (s : System) : s.tally .engaged ≤ s.tally .guards := by
  let others : Tally Guard :=
    { ofFrame f := if f.engaged.isEmpty then f.guards else [], ofJob _ := [], ofTrip _ := [] }
  have h : s.tally .guards = s.tally .engaged + s.tally others := by
    refine tally_add s (fun f => ?_) (by simp [others]) (by simp [others])
    cases f <;> simp [Frame.guards, Frame.engaged, others]
  rw [h]
  exact Multiset.le_add_right _ _

theorem isCurrent_of_release {p : Permit} {g g' : Guard} (h : (p.release g).isCurrent g' = true) :
    p.isCurrent g' = true := by
  unfold Permit.release at h
  split at h
  · simp [Permit.isCurrent] at h
  · exact h

theorem barren_mono (hb : s.Barren) (herr : s'.conn.error ≠ none → s.conn.error ≠ none)
    (hengaged : s'.tally .engaged ≤ s.tally .engaged)
    (hpermit : ∀ g, s'.conn.permit.isCurrent g = true → s.conn.permit.isCurrent g = true) : s'.Barren := by
  intro hsome g hg
  have hstale := hb (herr hsome) g (Multiset.subset_of_le hengaged hg)
  by_contra hcurrent
  simp [hpermit g (by simpa using hcurrent)] at hstale

theorem barren_same (hb : s.Barren) (herr : s'.conn.error = s.conn.error)
    (hengaged : s'.tally .engaged = s.tally .engaged) (hpermit : s'.conn.permit = s.conn.permit) : s'.Barren :=
  barren_mono hb (fun h => herr ▸ h) hengaged.le fun _ h => hpermit ▸ h

theorem barren_of_none (herr : s'.conn.error = none) : s'.Barren := fun h => absurd herr h

/-- A chain has ended or was never begun. -/
theorem barren_dropped (hb : s.Barren) {g : Guard} (herr : s'.conn.error = s.conn.error)
    (hengaged : s'.tally .engaged ≤ s.tally .engaged) (hpermit : s'.conn.permit = s.conn.permit.release g) :
    s'.Barren :=
  barren_mono hb (fun h => herr ▸ h) hengaged fun _ h => isCurrent_of_release (hpermit ▸ h)

/-- The permit goes to somebody who will not begin a chain. -/
theorem barren_granted {u : System} {g : Guard} (hgov : s'.conn.permit.Governs (s'.tally .guards))
    (hguards : s'.tally .guards = g ::ₘ u.tally .guards) (hg : s'.conn.permit.isCurrent g = true)
    (hengaged : s'.tally .engaged = u.tally .engaged) : s'.Barren := by
  rw [hguards] at hgov
  intro _ g' hg'
  exact hgov.stale hg (Multiset.subset_of_le u.engaged_le_guards (hengaged ▸ hg'))

theorem barren_step (hnum : s.Numbered) (hgov : s'.conn.permit.Governs (s'.tally .guards)) (hb : s.Barren)
    (h : Step s a s' sig) : s'.Barren := by
  have hfresh := hnum.outstanding _ (Nat.le_refl _)
  have hgranted : s.conn.permit.grant.isCurrent s.conn.permit.nextGuard = true := by
    simp [Permit.isCurrent, Permit.grant, Permit.nextGuard]
  cases h with
  | addGranted hout hsrc herr hfree => exact barren_of_none herr
  | flushBegun hout herr hfree htake | flushNothing hout herr hfree htake => exact barren_of_none herr
  | admitted hst herr => exact barren_of_none herr
  | recycle hout => exact barren_of_none rfl
  | addQueued hout hsrc herr hheld hroom =>
    rw [Connection.queue?_eq_ok hroom]
    exact barren_of_none herr
  | @roomMade t rest src buffered limit hst hfree =>
    exact barren_granted (u := s.setStack t rest) hgov (by simp [tally_replace, Frame.guards]) hgranted
      (by simp [tally_replace, Frame.engaged])
  | @chainAwaited t rest goal hst hfree =>
    exact barren_granted (u := s.setStack t rest) hgov (by simp [tally_replace, Frame.guards]) hgranted
      (by simp [tally_replace, Frame.engaged])
  | startedNothing hst htake | refused hst =>
    exact barren_dropped hb rfl (by rw [tally_pop _ hst]; exact Multiset.le_add_left _ _) rfl
  | yielded hst =>
    exact barren_dropped hb rfl (by simp [tally_pop _ hst, tally_replace, Frame.engaged]) rfl
  | started hst htake =>
    exact barren_same hb rfl (by simp [tally_begin, tally_pop _ hst, Frame.engaged]) rfl
  | chainStale hout hw hset =>
    exact barren_mono hb id (by rw [tally_endWrite _ hw]; exact Multiset.le_add_left _ _) fun _ => id
  | chainForgotten hw =>
    exact barren_dropped hb rfl (by rw [tally_endWrite _ hw]; exact Multiset.le_add_left _ _) rfl
  | chainQuiet hout hw hset | chainTold hout hw hset =>
    refine barren_dropped hb (hset.error (by simp)) ?_ hset.permit
    simpa [tally_endWrite _ hw, tally_push, Frame.engaged] using Multiset.le_cons_self _ _
  | chainGoesOn hout hw hset =>
    exact barren_same hb (hset.error (by simp)) (by simp [tally_endWrite _ hw, tally_push, Frame.engaged]) hset.permit
  | @chainFailed t w outcome write flight conn err hout hw hset =>
    have hfree : conn.permit.held = false := by
      rw [hset.permit]
      simp [Permit.release, hset.isCurrent (by simp)]
    exact fun _ g _ => by simp [Permit.isCurrent, hfree]
  | driven hst hd => exact barren_same hb rfl (by simp [tally_driven _ hfresh hst hd, Frame.engaged]) rfl
  | driveDone hst hd =>
    exact barren_same hb rfl (by simp [tally_driveDone _ hd, tally_pop _ hst, Frame.engaged]) rfl
  | carried hst hd =>
    exact barren_same hb rfl (by simp [tally_carried _ hfresh hd, tally_pop _ hst, Frame.engaged]) rfl
  | deferred hst hd =>
    exact barren_same hb rfl (by simp [tally_deferred _ hd, tally_pop _ hst, Frame.engaged]) rfl
  | tripBegun hst hbuf =>
    exact barren_same hb rfl (by simp [tally_trip _ hfresh, tally_pop _ hst, Frame.engaged]) rfl
  | strayEnded hout hw | tripEnded hout hw | strayForgotten hw | tripForgotten hw =>
    exact barren_same hb rfl (by simp [tally_endWrite _ hw]) rfl
  | addBlocking _ _ _ | addFull _ _ _ _ _ | flushAwaits _ _ _ | flushCollects _ _ _ | registeredFree _ _ =>
    exact barren_same hb rfl (by simp [tally_push, Frame.engaged]) rfl
  | answered hst | issued hst | addDone hst _ | collectedLate hst _ | sweptFlush hst _ _ _ | tripDropped hst _
  | tripFailed hst _ _ | roomExpired hst _ | tripExpired hst _ | transportReturned hst | notified hst =>
    exact barren_same hb rfl (by simp [tally_pop _ hst, Frame.engaged]) rfl
  | absorbed hst _ _ | filledBehind hst _ _ _ | filled hst _ _ _ | admittedLate hst _ | collected hst _
  | sweptChunk hst _ | sweptPrimary hst _ _ | sweptAdd hst _ _ _ | tripsDone hst _ | tripDone hst _ _
  | chainExpired hst _ | attached hst | told hst | toldFailure hst =>
    exact barren_same hb rfl (by simp [tally_pop _ hst, tally_replace, Frame.engaged]) rfl
  | addNothing _ _ | addRefused _ _ _ | flushRefused _ _ | flushHeld _ _ _ | registered _ _ | reset _
  | transportPending => exact barren_same hb rfl rfl rfl

theorem barren_run (run : Run (fresh config) moves s) (hk : KeepsCount moves) : s.Barren := by
  induction run with
  | nil => exact barren_of_none rfl
  | snoc run h ih => exact barren_step (numbered_run run) (governs_run (run.snoc h) hk) (ih hk.left) (step_perform h)

/-! ### Word at the end of a chain -/

/-- The end of a chain that has word for the producer is a success that leaves nothing behind. -/
theorem chain_told (hwf : s.conn.store.WellFormed) (hwf' : s'.conn.store.WellFormed) {outcome : Outcome}
    (h : Step s (.complete t w outcome) s' sig)
    (hbrings : Move.brings ⟨s, .complete t w outcome, s', sig⟩ = [.writable]) :
    (s'.conn.permit.held = false ∧ s'.conn.interest = false ∧ s'.conn.store.bufferedBytes = 0) ∧
    (s.Barren → s'.conn.error = none) ∧ s'.Tells t .writable ∧
    ∃ job ∈ s.tally .jobs, s.outstanding.find? w = some (.chain job.write job.flight) ∧
      s.acknowledgedBy job.flight.marker (.complete t w outcome) = job.write.unsent ∧
      s.loadedBy job.flight.marker (.complete t w outcome) = [] := by
  have hquiet := Move.brings_eq_nil (m := ⟨s, .complete t w outcome, s', sig⟩) rfl
  cases h with
  | @chainTold _ _ _ write flight conn hout hw hset =>
    have hcurrent := hset.isCurrent (by simp)
    have hpermit : conn.permit.held = false := by
      rw [hset.permit]
      simp [Permit.release, hcurrent]
    have hinterest : conn.interest = false := by simp [hset.interest_eq]
    obtain ⟨count, hwritten, -, hall, hempty, hempty'⟩ := hset.unsent_finished hwf
    refine ⟨⟨hpermit, hinterest, (Store.contents_eq_nil_iff hwf').1 hempty'⟩, fun hbarren => ?_, by simp [Tells],
      ⟨write, flight⟩, ?_, hw, ?_, ?_⟩
    · have hengaged : flight.guard ∈ s.tally .engaged := by simp [tally_endWrite _ hw]
      have hnone : s.conn.error = none := by
        by_contra hsome
        simp [hbarren hsome _ hengaged] at hcurrent
      exact (hset.error (by simp)).trans hnone
    · simp [tally_endWrite _ hw]
    · rw [acknowledgedBy_chain hw, if_pos rfl, Outcome.written_eq_ok hwritten]
      exact List.take_of_length_le (List.drop_eq_nil_iff.1 hall)
    · simp [loadedBy, hw, hempty]
  | strayEnded hout _ | tripEnded hout _ | chainStale hout _ _ | chainQuiet hout _ _ =>
    simp [hquiet hout] at hbrings
  | chainGoesOn _ _ _ | chainFailed _ _ _ => simp [Move.brings, Frame.news] at hbrings

/-- Word is brought about by a request that finds the permit free, or by the end of a chain, which frees it. -/
theorem writable_brought (h : Step s a s' sig) (ha : a.thread = some t)
    (hbrings : Move.brings ⟨s, a, s', sig⟩ = [.writable]) : s'.conn.permit.held = false ∧
    ((a = .call t .registerInterest ∧ s.conn.permit.held = false) ∨ ∃ w outcome, a = .complete t w outcome) := by
  have hquiet := Move.brings_eq_nil (m := ⟨s, a, s', sig⟩) ha
  cases h with
  | registeredFree hout hfree =>
    cases ha
    exact ⟨hfree, .inl ⟨rfl, hfree⟩⟩
  | @chainTold t w outcome write flight conn hout hw hset =>
    cases ha
    have hfree : conn.permit.held = false := by
      rw [hset.permit]
      simp [Permit.release, hset.isCurrent (by simp)]
    exact ⟨hfree, .inr ⟨w, outcome, rfl⟩⟩
  | registered hout _ | strayEnded hout _ | tripEnded hout _ | chainStale hout _ _ | chainQuiet hout _ _ =>
    cases ha
    simp [hquiet hout] at hbrings
  | chainGoesOn _ _ _ | chainFailed _ _ _ => simp [Move.brings, Frame.news] at hbrings
  | _ => simp [Move.brings] at hbrings

/-- With the permit free, what is no thread's doing leaves the connection alone. -/
theorem conn_eq_of_thread_none (hfree : s.conn.permit.held = false) (h : Step s a s' sig) (ha : a.thread = none) :
    s'.conn = s.conn := by
  cases h with
  | @chainForgotten w write flight hw =>
    have hstale : s.conn.permit.isCurrent flight.guard = false := by simp [Permit.isCurrent, hfree]
    rw [Connection.release_of_not_current hstale]
    rfl
  | strayForgotten _ | tripForgotten _ | transportPending => rfl
  | _ => cases ha

theorem Run.conn_eq {start : System} (run : Run start moves s) (hfree : start.conn.permit.held = false)
    (haside : ∀ m ∈ moves, m.action.thread = none ∨ m.after.conn = m.before.conn) : s.conn = start.conn := by
  refine run.invariant (P := fun s => s.conn = start.conn)
    (fun m => m.action.thread = none ∨ m.after.conn = m.before.conn) rfl ?_ haside
  intro s a s' sig h haside hconn
  obtain ha | hkept := haside
  · rw [conn_eq_of_thread_none (by rw [hconn, hfree]) h ha, hconn]
  · exact Eq.trans hkept hconn

/-- Each request for word is answered once or about to be, still waits, was withdrawn, or repeated one that waited. A
chain that ends and has word for the producer leaves the permit free, nobody waiting and nothing stored, no failure as
long as the guards can be told apart, and all that it was loaded with confirmed. Its thread gives the word as the next
thing that it does. All word is given like this, or comes of a request that finds the permit free. It finds things as
they were left unless another thread has changed them in between. -/
theorem notification_accounting (run : Run (fresh config) moves s) :
    moves.countP Move.registers
      = moves.countP Move.tells + (s.collect .news).countP Event.isWritable + s.conn.interest.toNat
        + moves.countP Move.withdraws + moves.countP Move.repeats ∧
    (∀ job ∈ s.collect .jobs,
      loaded job.flight.marker moves = acknowledged job.flight.marker moves ++ job.write.unsent) ∧
    (∀ before m after t w outcome, moves = before ++ m :: after → m.action = .complete t w outcome →
      m.brings = [.writable] →
      (m.after.conn.permit.held = false ∧ m.after.conn.interest = false ∧ m.after.conn.store.bufferedBytes = 0) ∧
      (KeepsCount before → m.after.conn.error = none) ∧
      (∃ write flight, m.before.outstanding.find? w = some (.chain write flight) ∧
        loaded flight.marker (before ++ [m]) = acknowledged flight.marker (before ++ [m])) ∧
      (s.Tells t .writable ∨ Delivered t .writable after)) ∧
    ∀ before m after, moves = before ++ m :: after → m.signal = some (.notify .writable) →
      ∃ t earlier c mid, before = earlier ++ c :: mid ∧ m.action = .run t ∧ m.after.conn = m.before.conn ∧
        c.brings = [.writable] ∧ (∀ m' ∈ mid, m'.action.thread ≠ some t) ∧
        ((c.action = .call t .registerInterest ∧ c.before.conn.permit.held = false) ∨
          ∃ w outcome, c.action = .complete t w outcome) ∧
        ((∀ m' ∈ mid, m'.action.thread = none ∨ m'.after.conn = m'.before.conn) → m.after.conn = c.after.conn) := by
  refine ⟨?_, (balanced_run run).balance, ?_, ?_⟩
  · have hcount := interest_run run
    have hwritables := writables_run run
    omega
  · rintro before ⟨s₀, _, s₁, sig⟩ after t w outcome hmoves rfl hbrings
    obtain ⟨earlier, hperform⟩ := run.split hmoves
    have hwf := (sound_run earlier).store.wellFormed
    obtain ⟨hfree, hnone, htells, job, hjob, hw, hacknowledged, hloaded⟩ :=
      chain_told hwf (sound_run (earlier.snoc hperform)).store.wellFormed (step_perform hperform) hbrings
    refine ⟨hfree, fun hk => hnone (barren_run earlier hk), ⟨job.write, job.flight, hw, ?_⟩,
      htells.delivered (run.rest hmoves)⟩
    simp only [loaded_snoc, acknowledged_snoc, hacknowledged, hloaded, List.append_nil]
    exact (balanced_run earlier).balance job hjob
  · rintro before ⟨s₀, a, s₁, _⟩ after hmoves rfl
    obtain ⟨begun, hperform⟩ := run.split hmoves
    have hword : s₀.perform a = some (s₁, some Event.writable.signal) := hperform
    obtain ⟨t, earlier, c, mid, hbefore, ha, hconn, ht, hbrings, hmid⟩ := exists_brings begun hword
    obtain ⟨begun', hperform'⟩ := begun.split hbefore
    obtain ⟨hfree, hcause⟩ := writable_brought (step_perform hperform') ht hbrings
    exact ⟨t, earlier, c, mid, hbefore, ha, hconn, hbrings, hmid, hcause,
      fun haside => hconn.trans ((begun.rest hbefore).conn_eq hfree haside)⟩

/-- A producer asks for word twice while its byte is at the transport, and gets it once. -/
theorem notification_accounting_told : ∃ moves s, Run (fresh {}) moves s ∧
    moves.countP Move.registers = moves.countP Move.tells + moves.countP Move.withdraws + moves.countP Move.repeats ∧
    moves.countP Move.tells = 1 ∧ moves.countP Move.repeats = 1 ∧
    s.conn.permit.held = false ∧ s.conn.interest = false ∧ s.conn.store.bufferedBytes = 0 ∧ s.conn.error = none := by
  obtain ⟨moves, s, run, hfew, hlater⟩ := Run.exists_of_follow (fresh {})
    [.call 0 (.add { bytes := ⟨#[97]⟩ } .nonBlocking), .run 0, .run 0, .resume 0, .run 0, .run 0,
      .call 0 .registerInterest, .call 0 .registerInterest]
    (P := fun moves s => renewals moves < 2 ^ 64 ∧
      (s.perform (.complete 1 0 (.ok 1))).any (fun ended =>
        let c := Move.mk s (.complete 1 0 (.ok 1)) ended.1 ended.2
        (ended.1.perform (.run 1)).any fun told =>
          let all := moves ++ [c] ++ [Move.mk ended.1 (.run 1) told.1 told.2]
          decide (c.brings.map Event.isWritable = [true] ∧ told.2.any Signal.isWritable = true ∧
            all.countP Move.tells = 1 ∧ all.countP Move.repeats = 1 ∧ (told.1.collect .news).isEmpty = true)) = true)
    (by decide +kernel)
  obtain ⟨⟨ended, sig⟩, hends, hlater⟩ := (Option.any_eq_true _ _).1 hlater
  obtain ⟨⟨told, word⟩, htells, hlater⟩ := (Option.any_eq_true _ _).1 hlater
  obtain ⟨hbrings, hword, hone, hrepeat, hnews⟩ := of_decide_eq_true hlater
  obtain rfl := Signal.eq_writable hword
  obtain ⟨hcount, -, hsettled, hdelivered⟩ := notification_accounting ((run.snoc hends).snoc htells)
  obtain ⟨⟨hfree, hinterest, hempty⟩, hnone, -⟩ :=
    hsettled moves _ [_] 1 0 (.ok 1) (List.append_assoc _ _ _) rfl (Event.eq_writable hbrings)
  obtain ⟨-, -, -, -, -, -, hconn, -⟩ := hdelivered (moves ++ [_]) _ [] rfl rfl
  simp only at hconn hfree hinterest hempty hnone
  rw [← hconn] at hfree hinterest hempty hnone
  refine ⟨_, told, (run.snoc hends).snoc htells, ?_, hone, hrepeat, hfree, hinterest, hempty, hnone (.inl hfew)⟩
  simpa [hinterest, List.isEmpty_iff.1 hnews] using hcount

/-- Word that there is room may come late. An add that waits for room takes the permit and stores its bytes before the
thread that ends the chain gets to the notifier. -/
theorem told_after_room_was_taken : ¬ ∀ (config : Config) (before : List Move) (c : Move) (mid : List Move) (m : Move)
    (s : System) (t : ThreadId) (w : WriteId) (outcome : Outcome), Run (fresh config) (before ++ c :: (mid ++ [m])) s →
    (∀ x ∈ before ++ c :: (mid ++ [m]), x.IsPatient) → c.action = .complete t w outcome → c.brings = [.writable] →
    (∀ x ∈ mid, x.action.thread ≠ some t) → m.action = .run t → m.signal = some (.notify .writable) →
    m.after.conn.permit.held = false ∧ m.after.conn.store.bufferedBytes = 0 := by
  intro h
  let config : Config := { maxBuffered := some 1 }
  obtain ⟨moves, s, run, hpatient, hlater⟩ := Run.exists_of_follow (fresh config)
    [.call 0 (.add { bytes := ⟨#[97]⟩ } .nonBlocking), .run 0, .run 0, .resume 0, .run 0, .run 0,
      .call 0 .registerInterest, .call 0 (.add { bytes := ⟨#[98, 99]⟩ } .nonBlocking)]
    (P := fun moves s => (∀ m ∈ moves, m.IsPatient) ∧
      (s.perform (.complete 1 0 (.ok 1))).any (fun ended =>
        let c := Move.mk s (.complete 1 0 (.ok 1)) ended.1 ended.2
        (ended.1.follow [.run 0, .run 0]).any fun added =>
          (added.2.perform (.run 1)).any fun told =>
            decide (c.brings.map Event.isWritable = [true] ∧ (∀ m ∈ added.1, m.IsPatient) ∧
              (∀ m ∈ added.1, m.action.thread ≠ some 1) ∧ told.2.any Signal.isWritable = true ∧
              told.1.conn.permit.held = true ∧ told.1.conn.store.bufferedBytes = 2)) = true)
    (by decide +kernel)
  obtain ⟨⟨ended, sig⟩, hends, hlater⟩ := (Option.any_eq_true _ _).1 hlater
  obtain ⟨⟨mid, added⟩, hmid, hlater⟩ := (Option.any_eq_true _ _).1 hlater
  obtain ⟨⟨told, word⟩, htells, hlater⟩ := (Option.any_eq_true _ _).1 hlater
  obtain ⟨hbrings, hpatient', hothers, hword, hheld, -⟩ := of_decide_eq_true hlater
  have hall : Run (fresh config)
      (moves ++ ⟨s, .complete 1 0 (.ok 1), ended, sig⟩ :: (mid ++ [⟨added, .run 1, told, word⟩])) told := by
    simpa using ((run.snoc hends).append (.of_follow hmid)).snoc htells
  obtain ⟨hfree, -⟩ := h config moves _ mid _ told 1 0 (.ok 1) hall
    (by simpa [or_imp, forall_and] using ⟨hpatient, trivial, hpatient', trivial⟩) rfl (Event.eq_writable hbrings)
    hothers rfl (Signal.eq_writable hword)
  cases hheld.symm.trans hfree

end System

end Outflow
