import Outflow.Proofs.Overtaking

/-! The bytes of one producer go to the transport in the order in which its adds took them over, even past a chain in
flight, as long as the write that is overtaken is accepted whole. -/
namespace Outflow

/-- What an add is to send. -/
def Call.data : Call → List UInt8
  | .add src _ => src.unsent
  | _ => []

theorem eq_of_coe_eq {α : Type} {l l' : List α} (h : (↑l' : Multiset α) = ↑l) (hl : l.length ≤ 1) : l' = l := by
  match l with
  | [] => simpa using h
  | [x] => exact Multiset.coe_eq_singleton.1 h

theorem Frame.Serves.part_within {f : Frame} {c : Call} {part : List UInt8} (h : f.Serves c part) :
    part <+: c.data := by
  have hstarter {starter : Starter} (h : starter.Serves c part) : part <+: c.data := by
    cases h with
    | add => exact List.prefix_rfl
    | flush => exact List.nil_prefix
  have hgoal {goal : Goal} (h : goal.Serves c part) : part <+: c.data := by
    cases h with
    | flush => exact List.nil_prefix
    | add h => exact ⟨_, h⟩
  cases h with
  | starting h | issuing h => exact hstarter h
  | adding h => exact ⟨_, h⟩
  | awaitingChain h | yielding h | collecting h | sweeping h | writing h | awaitingReply h => exact hgoal h
  | answering | awaitingRoom | admitted | refusing => exact List.nil_prefix

namespace System

variable {config : Config} {s s' : System} {moves : List Move} {a : Action} {sig : Option Signal} {t : ThreadId}
  {frame : Frame} {rest : List Frame}

/-- What an add in the move is to send. -/
def Move.given (m : Move) : List UInt8 :=
  match m.action with
  | .call _ c => c.data
  | _ => []

def given (moves : List Move) : List UInt8 := moves.flatMap Move.given

theorem given_snoc (moves : List Move) (m : Move) : given (moves ++ [m]) = given moves ++ m.given := by
  simp [given]

def Move.isCall (m : Move) : Bool :=
  match m.action with
  | .call _ _ => true
  | _ => false

def keptBack (s : System) : List UInt8 := (s.collect .calls).flatMap s.restOf

/-- What waits to be handed over for a chain. -/
def unhanded (s : System) : List UInt8 :=
  (s.threads.collect Tally.jobs.ofThread).flatMap fun job => job.write.unsent

/-- What is not at the transport, in order. -/
def ashore (s : System) : List UInt8 := s.unhanded ++ (s.keptBack ++ s.conn.store.contents)

theorem keptBack_eq_nil (h : ∀ f ∈ s.tally .calls, f.isSweeping = false) : s.keptBack = [] := by
  rw [keptBack, List.flatMap_eq_nil_iff]
  exact fun f hf => restOf_eq_nil (h f hf)

theorem keptBack_of_none (h : s.tally .calls = 0) : s.keptBack = [] := keptBack_eq_nil (by simp [h])

theorem keptBack_eq {f : Frame} (h : s.tally .calls = f ::ₘ 0) : s.keptBack = s.restOf f :=
  flatMap_of_coe_eq_cons h (by simp)

theorem unhanded_eq_nil (h : s.aboard .jobs = 0) : s.unhanded = [] := by
  rw [aboard, Table.census, Multiset.coe_eq_zero] at h
  simp [unhanded, h]

theorem unhanded_eq {job : Job} (h : s.aboard .jobs = {job}) : s.unhanded = job.write.unsent := by
  rw [aboard, Table.census, Multiset.coe_eq_singleton] at h
  simp [unhanded, h]

theorem card_aboard_le (hsole : Permit.Sole s.conn.permit (s.tally .guards)) : (s.aboard .jobs).card ≤ 1 := by
  have hcard := card_jobs_le hsole
  rw [tally_eq_aboard, Multiset.card_add] at hcard
  omega

theorem unhanded_congr (hsole : Permit.Sole s.conn.permit (s.tally .guards))
    (h : s'.aboard .jobs = s.aboard .jobs) : s'.unhanded = s.unhanded := by
  have heq : s'.threads.collect Tally.jobs.ofThread = s.threads.collect Tally.jobs.ofThread :=
    eq_of_coe_eq h (card_aboard_le hsole)
  rw [unhanded, unhanded, heq]

theorem keptBack_congr {held : Bool} {store : Store} (hr : Ranked held store (s.tally .calls))
    (hcalls : s'.tally .calls = s.tally .calls) (hans : s'.answers = s.answers) : s'.keptBack = s.keptBack := by
  have heq : s'.collect .calls = s.collect .calls := eq_of_coe_eq hcalls hr.single
  have hrest : s'.restOf = s.restOf := by
    funext f
    simp only [restOf, hans]
  rw [keptBack, keptBack, heq, hrest]

section Move

variable {held : Bool} {store : Store} {taken : List UInt8}

/-- Calls are where they were. -/
theorem ashore_same (hsole : Permit.Sole s.conn.permit (s.tally .guards)) (hr : Ranked held store (s.tally .calls))
    (hcalls : s'.tally .calls = s.tally .calls) (hans : s'.answers = s.answers)
    (hjobs : s'.aboard .jobs = s.aboard .jobs) (h : s'.conn.store.contents = s.conn.store.contents ++ taken) :
    s'.ashore = s.ashore ++ taken := by
  rw [ashore, ashore, unhanded_congr hsole hjobs, keptBack_congr hr hcalls hans, h]
  simp

/-- A step that leaves the transport alone only adds to the end. -/
theorem ashore_shifted (hsole : Permit.Sole s.conn.permit (s.tally .guards)) (hr : Ranked held store (s.tally .calls))
    (h : Shifted s a s') : s'.ashore = s.ashore ++ s.takenBy a := by
  have hquietly {s : System} (hquiet : ∀ f ∈ s.tally .calls, f.isBlocking = false) : s.keptBack = [] :=
    keptBack_eq_nil fun f hf => Frame.isSweeping_of_not_blocking (hquiet f hf)
  cases h with
  | aside hcalls hans hjobs hc => exact ashore_same hsole hr hcalls hans hjobs hc
  | @begun f hquiet hf hcalls hjobs hc =>
    have hs' : s'.keptBack = [] := by
      refine keptBack_eq_nil ?_
      rw [hcalls, Multiset.forall_mem_cons]
      exact ⟨hf, fun g hg => Frame.isSweeping_of_not_blocking (hquiet g hg)⟩
    rw [ashore, ashore, unhanded_congr hsole hjobs, hquietly hquiet, hs', hc]
    simp
  | goesOn hf hland hland' hC hcalls hjobs hc =>
    rw [hC] at hr
    rw [hr.alone] at hC hcalls
    rw [ashore, ashore, unhanded_congr hsole hjobs, keptBack_eq hC, keptBack_eq hcalls, hc]
    simp
  | ended hland hC hcalls hjobs hc =>
    rw [hC] at hr
    rw [hr.alone] at hC hcalls
    rw [ashore, ashore, unhanded_congr hsole hjobs, keptBack_eq hC, keptBack_of_none hcalls, hc]
    simp
  | launched hquiet hquiet' hnone hjobs hw hc htaken =>
    rw [ashore, ashore, unhanded_eq hjobs, unhanded_eq_nil (aboard_eq_zero hnone), hquietly hquiet, hquietly hquiet',
      htaken]
    simp [hw, hc]

/-- A write of a chain is handed over. -/
theorem ashore_handed {job : Job} (hsole : Permit.Sole s.conn.permit (s.tally .guards))
    (hr : Ranked held store (s.tally .calls)) (hcalls : s'.tally .calls = s.tally .calls)
    (hans : s'.answers = s.answers) (hjobs : s'.aboard .jobs + {job} = s.aboard .jobs) (hconn : s'.conn = s.conn) :
    job.write.unsent ++ s'.ashore = s.ashore := by
  have hcard := card_aboard_le hsole
  rw [← hjobs, Multiset.card_add, Multiset.card_singleton] at hcard
  have hnone : s'.aboard .jobs = 0 := Multiset.card_eq_zero.1 (by omega)
  rw [hnone, zero_add] at hjobs
  rw [ashore, ashore, unhanded_eq_nil hnone, unhanded_eq hjobs.symm, keptBack_congr hr hcalls hans, hconn]
  rfl

end Move

/-- The write of a chain ends. What was not accepted of it goes out again before anything else. -/
theorem ashore_goesOn {w : WriteId} {write next : Write} {flight : Flight} {isInline : Bool} {outcome : Outcome}
    {conn : Connection} (hwf : s.conn.store.WellFormed) (hsole : Permit.Sole s.conn.permit (s.tally .guards))
    (hr : Ranked s.conn.permit.held s.conn.store (s.tally .calls))
    (hw : s.outstanding.find? w = some (.chain write flight))
    (hset : s.conn.Settled flight isInline outcome write conn (.reissue next)) :
    (((s.endWrite w).setConn conn).push t (.carrying { write := next, flight })).ashore
      = write.unsent.drop outcome.count ++ s.ashore := by
  obtain ⟨count, hok, -, hnext, hc⟩ := hset.unsent_reissue hwf
  have hnone : (s.endWrite w).aboard .jobs = 0 := aboard_eq_zero (jobs_endWrite hsole hw).2
  rw [aboard_endWrite] at hnone
  have hjobs : (((s.endWrite w).setConn conn).push t (.carrying { write := next, flight })).aboard .jobs
      = {⟨next, flight⟩} := by
    simp [aboard_push, Frame.jobs, hnone]
  have hcalls : (((s.endWrite w).setConn conn).push t (.carrying { write := next, flight })).tally .calls
      = s.tally .calls := by
    simp [tally_endWrite _ hw, tally_push, Frame.isCall]
  have hkept : s.keptBack = [] ∨ s.conn.store.contents = [] := by
    by_cases hf : ∃ f ∈ s.tally .calls, f.isSweeping = true
    · obtain ⟨f, hf, hs⟩ := hf
      exact .inr (hr.swept f hf hs)
    · exact .inl (keptBack_eq_nil fun f hm => by simpa using fun hs => hf ⟨f, hm, hs⟩)
  rw [ashore, ashore, unhanded_eq hjobs, unhanded_eq_nil hnone, keptBack_congr hr hcalls rfl, hnext,
    Outcome.written_eq_ok hok]
  rcases hkept with hkept | hkept <;> simp [hkept, hc]

theorem arrival_step {capacity : Nat} (hnum : s.Numbered) (hsound : s.Sound capacity) (hans : s.Answered)
    (hclaim : s.Claimed) (hsole : Permit.Sole s.conn.permit (s.tally .guards))
    (hr : Ranked s.conn.permit.held s.conn.store (s.tally .calls)) (hlatest : s.Latest) (hun : Unreported moves s)
    (h : Step s a s' sig) (hfaith : Move.IsFaithful ⟨s, a, s', sig⟩) (hseq : Move.IsSequential ⟨s, a, s', sig⟩)
    (hturn : Move.IsInTurn ⟨s, a, s', sig⟩) (hwhole : Move.IsWhole ⟨s, a, s', sig⟩) :
    stream (moves ++ [⟨s, a, s', sig⟩]) s' ++ s'.ashore = stream moves s ++ (s.ashore ++ s.takenBy a) := by
  have hfresh := hnum.outstanding _ (Nat.le_refl _)
  have hwf := hsound.store.wellFormed
  -- Most steps leave the transport alone. The others hand one write over, or end one.
  have aside (ha : ∀ w, a.ends w = false) (hnext : s'.nextWrite = s.nextWrite)
      (hout : s'.outstanding = s.outstanding) (hashore : s'.ashore = s.ashore ++ s.takenBy a) :
      stream (moves ++ [⟨s, a, s', sig⟩]) s' ++ s'.ashore = stream moves s ++ (s.ashore ++ s.takenBy a) := by
    rw [stream_aside ha hnext fun w => by rw [hout], hashore]
  have handed {h : Handed} (ha : ∀ w, a.ends w = false) (hnext : s'.nextWrite = s.nextWrite + 1)
      (hout : s'.outstanding = s.outstanding.set s.nextWrite h) (hashore : h.write.unsent ++ s'.ashore = s.ashore)
      (htaken : s.takenBy a = []) :
      stream (moves ++ [⟨s, a, s', sig⟩]) s' ++ s'.ashore = stream moves s ++ (s.ashore ++ s.takenBy a) := by
    rw [stream_handed hun ha hnext hout, htaken, List.append_nil, List.append_assoc, hashore]
  have ended {t w outcome} {h : Handed} (ha : a = .complete t w outcome) (hw : s.outstanding.find? w = some h)
      (hnext : s'.nextWrite = s.nextWrite) (hout : s'.outstanding = s.outstanding.erase w)
      (hlast : w + 1 = s.nextWrite ∨ h.write.unsent.drop outcome.count = [])
      (hashore : s'.ashore = h.write.unsent.drop outcome.count ++ s.ashore) :
      stream (moves ++ [⟨s, a, s', sig⟩]) s' ++ s'.ashore = stream moves s ++ (s.ashore ++ s.takenBy a) := by
    subst ha
    rw [← stream_ended hun hw hnext hout hlast, hashore, takenBy_complete, List.append_nil, List.append_assoc]
  have hshift := shifted_step hnum hwf hans hsole hr.exclusive hr.clear h hfaith fun _ _ ha => by
    simp [(hseq.resting ha).tally_calls]
  cases h with
  | tripExpired hst hans => exact absurd hst (hfaith.not_awaitingReply _ _ _)
  | @driven t rest job queue hst hd =>
    refine handed (fun _ => rfl) rfl rfl (ashore_handed hsole hr ?_ rfl ?_ rfl) (by simp [takenBy_run hst, takes])
    · simp [tally_driven _ hfresh hst hd, Frame.isCall]
    · exact (aboard_driven .jobs hst hd).trans (by simp [Frame.jobs])
  | @carried t rest job hst hd =>
    refine handed (fun _ => rfl) rfl rfl (ashore_handed hsole hr ?_ rfl ?_ rfl) (by simp [takenBy_run hst, takes])
    · simp [tally_carried _ hfresh hd, tally_pop _ hst, Frame.isCall]
    · rw [aboard_pop .jobs hst]
      exact (aboard_carried .jobs hd).trans (by simp [Frame.jobs])
  | @tripBegun t rest buf sweep hst hbuf =>
    have hC : s.tally .calls = .writing buf sweep ::ₘ (s.setStack t rest).tally .calls := calls_pop hst rfl
    have hC' := calls_trip hnum t sweep rest buf
    rw [hC] at hr
    rw [hr.alone] at hC hC'
    have hbare := hturn.aboard_jobs hst hbuf
    have hjobs : ((s.setStack t (.awaitingReply s.nextWrite sweep :: rest)).handOver t (.trip buf)).1.aboard .jobs
        = s.aboard .jobs := by
      simp [aboard_handOver, aboard_replace, aboard_pop _ hst, Frame.jobs]
    refine handed (h := .trip buf) (fun _ => rfl) rfl rfl ?_ (by simp [takenBy_run hst, takes])
    rw [unsent_trip, ashore, ashore, unhanded_eq_nil hbare, unhanded_eq_nil (hjobs.trans hbare), keptBack_eq hC,
      keptBack_eq hC']
    simp [restOf, hnum.answers _ (Nat.le_refl _)]
  | strayEnded hout hw => exact absurd hw (hans.awaited _ _)
  | @tripEnded t w outcome buf hout hw =>
    -- The round trip was handed over last, so that what is left of it comes right behind the stream.
    obtain ⟨sweep, hm⟩ := hclaim.trip w buf hw
    obtain ⟨hlast, -, hbare⟩ := hlatest w sweep hm
    have hC := hr.eq_single hm
    have hC' : ((s.endWrite w).setAnswers (s.answers.set w (.returned outcome buf))).tally .calls
        = .awaitingReply w sweep ::ₘ 0 := by simp [← hC, tally_endWrite _ hw]
    have hbare' : ((s.endWrite w).setAnswers (s.answers.set w (.returned outcome buf))).aboard .jobs = 0 := hbare
    refine ended rfl hw rfl rfl (.inl hlast) ?_
    rw [unsent_trip, ashore, ashore, unhanded_eq_nil hbare, unhanded_eq_nil hbare', keptBack_eq hC, keptBack_eq hC']
    simp [restOf, hans.once w _ hw, Table.find?_set, Answer.left]
  | chainStale hout hw hset =>
    have hcurrent := isCurrent_of_sole hsole hw
    simp [hset.not_isCurrent] at hcurrent
  | chainQuiet hout hw hset | chainTold hout hw hset =>
    obtain ⟨count, hok, -, hdrop, hc, hc'⟩ := hset.unsent_finished hwf
    rw [← Outcome.written_eq_ok hok] at hdrop
    refine ended rfl hw rfl rfl (.inr hdrop) ?_
    simp only [Handed.write, hdrop, List.nil_append]
    refine Eq.trans (b := s.ashore ++ []) (ashore_same hsole hr ?_ rfl ?_ ?_) (List.append_nil _)
    · simp [tally_endWrite _ hw, tally_push, Frame.isCall]
    · simp [aboard_push, Frame.jobs]
    · simp [hc, hc']
  | @chainGoesOn t w outcome write flight conn next hout hw hset =>
    -- Nothing was handed over behind this write, or nothing is left of it.
    have hlast := (Nat.eq_or_lt_of_le (hnum.lt_nextWrite hw)).imp_right (hwhole.drop_eq_nil hw)
    exact ended rfl hw rfl rfl hlast (ashore_goesOn hwf hsole hr hw hset)
  | chainFailed hout hw hset =>
    have hs := hfaith.succeeds hw
    simp [Outcome.not_succeeds hset.written_failed] at hs
  | strayForgotten hw | tripForgotten hw | chainForgotten hw => exact hfaith.elim
  | _ => exact aside (fun _ => rfl) rfl rfl (ashore_shifted hsole hr (hshift (fun _ => rfl) rfl))

/-! ### Runs -/

/-- What was taken over went to the transport, or will, in this order. -/
theorem arrival_run (run : Run (fresh config) moves s) (hfaith : ∀ m ∈ moves, m.IsFaithful)
    (hseq : ∀ m ∈ moves, m.IsSequential) (hturn : ∀ m ∈ moves, m.IsInTurn) (hwhole : ∀ m ∈ moves, m.IsWhole) :
    stream moves s ++ s.ashore = taken moves := by
  induction run with
  | nil => rfl
  | @snoc moves s a s' sig run h ih =>
    simp only [List.forall_mem_append, List.forall_mem_singleton] at hfaith hseq hturn hwhole
    have hback : ∀ m ∈ moves, m.GivesBack := fun m hm => (hfaith.1 m hm).givesBack
    have hstep := arrival_step (numbered_run run) (sound_run run) (answered_run run hback)
      (claimed_run run hback) (sole_run run fun m hm => (hback m hm).kept) (ranked_run run hseq.1)
      (latest_run run hfaith.1 hseq.1 hturn.1 hwhole.1) (unreported_run run) (step_perform h) hfaith.2 hseq.2 hturn.2
      hwhole.2
    rw [hstep, taken_snoc, ← ih hfaith.1 hseq.1 hturn.1 hwhole.1, List.append_assoc]

/-! ### Answers -/

/-- The answers to round trips are counts. -/
def Counted (s : System) : Prop :=
  ∀ w outcome buf, s.answers.find? w = some (.returned outcome buf) → outcome.succeeds = true

theorem counted_run (run : Run (fresh config) moves s) (hsucc : ∀ m ∈ moves, m.Succeeds) : s.Counted := by
  refine run.invariant Move.Succeeds (by simp [Counted, fresh]) (fun s a s' sig h hs hc => ?_) hsucc
  intro w outcome buf hw
  cases h with
  | @tripEnded t v outcome' buf' hout hv =>
    simp only [frame_setAnswers, Table.find?_set] at hw
    split at hw
    · cases hw
      exact hs
    · exact hc w outcome buf hw
  | tripForgotten hv =>
    simp only [frame_setAnswers, Table.find?_set] at hw
    split at hw
    · cases hw
    · exact hc w outcome buf hw
  | tripDropped _ _ | tripFailed _ _ _ | tripDone _ _ _ => exact hc w outcome buf (Table.find?_of_erase _ _ hw)
  | _ => exact hc w outcome buf hw

/-- Without failures only non-blocking calls are refused, those that waited for room in vain. -/
theorem refused_step {err : Error} (herr : s.conn.error = none) (hans : s.Answered) (hcount : s.Counted)
    (h : Step s a s' (some (.replied (.refused err))))
    (hfaith : Move.IsFaithful ⟨s, a, s', some (.replied (.refused err))⟩) :
    ∃ t f rest, (a = .run t ∨ a = .expire t) ∧ (s.thread t).stack = f :: rest ∧ f.isCall = true ∧
      f.isBlocking = false := by
  generalize hsig : some (Signal.replied (Reply.refused err)) = sig at h hfaith
  cases h with
  | refused hst | answered hst => exact ⟨_, _, _, .inl rfl, hst, rfl, rfl⟩
  | roomExpired hst _ => exact ⟨_, _, _, .inr rfl, hst, rfl, rfl⟩
  | addRefused _ _ herr' | flushRefused _ herr' | collectedLate _ herr' => simp [herr] at herr'
  | tripDropped _ hw => exact absurd hw (hans.back _)
  | tripFailed _ hw hout =>
    have hs := hcount _ _ _ hw
    simp [Outcome.not_succeeds hout] at hs
  | tripExpired hst _ => exact absurd hst (hfaith.not_awaitingReply _ _ _)
  | @startedNothing _ _ starter _ _ _ | @issued _ _ _ starter _ => cases starter <;> cases hsig
  | _ => cases hsig

/-- An answer is for the call that is made, or for the one that the innermost frame serves. -/
theorem settled_step {l : Ledger} {shares : List Share} {parts : List (List UInt8)} (hm : Matched s l shares parts)
    (h : Served s a s' sig) : (l.note ⟨s, a, s', sig⟩).settled = l.settled ∨
      ∃ t c reply, sig = some (.replied reply) ∧ (l.note ⟨s, a, s', sig⟩).settled = l.settled ++ [(c, reply)] ∧
        (a = .call t c ∨
          (a = .run t ∨ a = .expire t) ∧ ∃ f rest part, s.openCalls t = f :: rest ∧ f.Serves c part) := by
  cases h with
  | aside ha hsig hcalls htaken => exact .inl (by rw [Ledger.note_of_not_replied hsig, Ledger.enter_of_not_call ha])
  | begun ha hsig hcalls hserves =>
    refine .inl ?_
    rw [Ledger.note_of_not_replied hsig, ha]
    rfl
  | goesOn ha hsig hf hcalls h =>
    have hnot : ∀ t c, a ≠ .call t c := by rcases ha with rfl | rfl <;> simp
    exact .inl (by rw [Ledger.note_of_not_replied hsig, Ledger.enter_of_not_call hnot])
  | @atOnce t c reply ha hsig hcalls h =>
    have hthread : a.thread = some t := by rw [ha]; rfl
    have hpending : (l.enter (.call t c)).pending = [] ++ (t, c) :: l.pending := rfl
    refine .inr ⟨t, c, reply, hsig, ?_, .inl ha⟩
    rw [hsig, Ledger.note_of_replied hthread, ha, Ledger.settle_of_pending hpending (by simp)]
    rfl
  | @ended t f rest reply ha hsig hf hcalls h =>
    have hnot : ∀ t c, a ≠ .call t c := by rcases ha with rfl | rfl <;> simp
    have hthread : a.thread = some t := by rcases ha with rfl | rfl <;> rfl
    obtain ⟨before, r, after, rfl, hbefore, hr, hserves, -⟩ := hm.split hf
    have hpending := hm.pending
    simp only [List.map_append, List.map_cons, hr] at hpending
    refine .inr ⟨t, r.call, reply, hsig, ?_, .inr ⟨ha, f, rest, r.part, hf, hserves⟩⟩
    rw [hsig, Ledger.note_of_replied hthread, Ledger.enter_of_not_call hnot,
      Ledger.settle_of_pending hpending (by simpa using hbefore)]

/-- Without failures no blocking call is refused. -/
theorem settled_run (run : Run (fresh config) moves s) (hfaith : ∀ m ∈ moves, m.IsFaithful)
    (hsucc : ∀ m ∈ moves, m.Succeeds) :
    ∀ e ∈ (ledger moves).settled, e.1.isBlocking = false ∨ e.2.isRefusal = false := by
  induction run with
  | nil => simp [ledger]
  | @snoc moves s a s' sig run h ih =>
    simp only [List.forall_mem_append, List.forall_mem_singleton] at hfaith hsucc
    have hstep := step_perform h
    obtain ⟨shares, parts, hm, -, -⟩ := ledger_run run
    rw [ledger_snoc]
    rcases settled_step hm (served_step hstep) with hsame | ⟨t, c, reply, rfl, hnew, hcall⟩
    · rw [hsame]
      exact ih hfaith.1 hsucc.1
    · rw [hnew, List.forall_mem_append, List.forall_mem_singleton]
      refine ⟨ih hfaith.1 hsucc.1, ?_⟩
      cases reply with
      | done | pending more => exact .inr rfl
      | refused err =>
        have hans := answered_run run fun m hm => (hfaith.1 m hm).givesBack
        obtain ⟨u, f, rest, hu, hst, hf, hb⟩ := refused_step (error_run run hfaith.1) hans (counted_run run hsucc.1)
          hstep hfaith.2
        rcases hcall with rfl | ⟨ht, f', rest', part, hf', hserves⟩
        · simp at hu
        · obtain rfl : u = t := by rcases hu with rfl | rfl <;> simpa [eq_comm] using ht
          rw [openCalls_of_stack hst hf, List.cons.injEq] at hf'
          exact .inl (hserves.isBlocking ▸ hf'.1 ▸ hb)

/-- What adds took over is the data of those that were accepted, and some of the one in progress. -/
theorem taken_within (run : Run (fresh config) moves s) (hfaith : ∀ m ∈ moves, m.IsFaithful)
    (hseq : ∀ m ∈ moves, m.IsSequential) (hsucc : ∀ m ∈ moves, m.Succeeds) :
    taken moves <+: (ledger moves).settled.flatMap accepted ++ (ledger moves).pending.flatMap fun e => e.2.data := by
  obtain ⟨shares, parts, hm, -, hled⟩ := ledger_run run
  obtain ⟨hone, htaken⟩ := hled hseq
  rw [htaken, Share.total, flatten_eq_accepted hm.settled (settled_run run hfaith hsucc), hm.pending,
    List.flatMap_map, List.prefix_append_right_inj]
  cases shares with
  | nil => exact List.prefix_rfl
  | cons r others =>
    obtain rfl : others = [] := by
      rw [List.length_cons] at hone
      exact List.length_eq_zero_iff.1 (by omega)
    have hserves := hm.serves r.thread
    simp only [List.filter_singleton, beq_self_eq_true, cond_true, List.forall₂_cons_right_iff] at hserves
    obtain ⟨f, frames, hr, -, -⟩ := hserves
    simpa using hr.part_within

/-- Between calls the data of the adds that were accepted was taken over. -/
theorem taken_eq_accepted (run : Run (fresh config) moves s) (hfaith : ∀ m ∈ moves, m.IsFaithful)
    (hseq : ∀ m ∈ moves, m.IsSequential) (hsucc : ∀ m ∈ moves, m.Succeeds) (hrest : s.Resting) :
    taken moves = (ledger moves).settled.flatMap accepted := by
  obtain ⟨shares, parts, hm, -, hled⟩ := ledger_run run
  obtain rfl := hm.shares_eq_nil hrest
  rw [(hled hseq).2, Share.total, flatten_eq_accepted hm.settled (settled_run run hfaith hsucc)]
  exact List.append_nil _

/-! ### With the transport idle -/

theorem stream_eq_reported (hdone : ∀ w, s.outstanding.find? w = none) :
    stream moves s = reported moves s.nextWrite := by
  refine List.flatMap_congr fun w _ => ?_
  rw [portion, unanswered, hdone]
  exact List.append_nil _

theorem Resting.ashore_eq (hrest : s.Resting) (hdone : ∀ w, s.outstanding.find? w = none) :
    s.ashore = s.inFlight ++ s.conn.store.contents := by
  have hidle : s.outstanding.collect Tally.jobs.ofHanded = [] := by
    refine List.eq_nil_iff_forall_not_mem.2 fun job hjob => ?_
    obtain ⟨w, h, hw, -⟩ := (Table.mem_collect _ _).1 hjob
    simp [hdone w] at hw
  rw [ashore, keptBack_of_none hrest.tally_calls, inFlight, collect, hidle, List.append_nil, List.nil_append]
  rfl

/-- What the transport accepted, write after write, is the data of the adds in their order, although blocking calls
went past chains in flight: the writes that they overtook were accepted whole, and nothing of their chains was still to
be handed over. Between calls only what a chain has next and what is stored is missing from it. -/
theorem order_survives_overtaking (run : Run (fresh config) moves s) (hfaith : ∀ m ∈ moves, m.IsFaithful)
    (hseq : ∀ m ∈ moves, m.IsSequential) (hsucc : ∀ m ∈ moves, m.Succeeds) (hturn : ∀ m ∈ moves, m.IsInTurn)
    (hwhole : ∀ m ∈ moves, m.IsWhole) (hdone : ∀ w, s.outstanding.find? w = none) :
    (reported moves s.nextWrite <+:
      (ledger moves).settled.flatMap accepted ++ (ledger moves).pending.flatMap fun e => e.2.data) ∧
    (s.Resting → reported moves s.nextWrite ++ (s.inFlight ++ s.conn.store.contents)
      = (ledger moves).settled.flatMap accepted) := by
  have harrival := arrival_run run hfaith hseq hturn hwhole
  rw [stream_eq_reported hdone] at harrival
  refine ⟨List.IsPrefix.trans ⟨_, harrival⟩ (taken_within run hfaith hseq hsucc), fun hrest => ?_⟩
  rw [← hrest.ashore_eq hdone, harrival, taken_eq_accepted run hfaith hseq hsucc hrest]

/-- Two bytes are at the transport. A blocking flush waits in vain and hands the third one over, and then the
transport accepts the first two after all. -/
theorem order_survives_overtaking_late_write : ∃ moves s, Run (fresh {}) moves s ∧ s.Resting ∧
    (∃ m ∈ moves, ¬ m.IsPatient) ∧ reported moves s.nextWrite = [97, 98, 99] ∧
    reported moves s.nextWrite ++ (s.inFlight ++ s.conn.store.contents) = (ledger moves).settled.flatMap accepted := by
  obtain ⟨moves, s, run, hfaith, hseq, hsucc, hturn, hwhole, hempty, hrest, hlate, hbytes⟩ :=
    Run.exists_of_follow (fresh {})
      [.call 0 (.add { bytes := ⟨#[97, 98]⟩ } .nonBlocking), .run 0, .run 0, .resume 0, .run 0, .run 0,
        .call 0 (.add { bytes := ⟨#[99]⟩ } .nonBlocking), .call 0 (.flush .blocking), .expire 0, .run 0, .run 0, .run 0,
        .complete 0 1 (.ok 1), .resume 0, .run 0, .run 0, .run 0, .complete 1 0 (.ok 2)]
      (P := fun moves s => (∀ m ∈ moves, m.IsFaithful) ∧ (∀ m ∈ moves, m.IsSequential) ∧ (∀ m ∈ moves, m.Succeeds) ∧
        (∀ m ∈ moves, m.IsInTurn) ∧ (∀ m ∈ moves, m.IsWhole) ∧ s.outstanding.entries = [] ∧ s.Resting ∧
        (∃ m ∈ moves, ¬ m.IsPatient) ∧ reported moves s.nextWrite = [97, 98, 99]) (by decide +kernel)
  have hdone (w : WriteId) : s.outstanding.find? w = none := by simp [Table.find?, hempty]
  have horder := (order_survives_overtaking run hfaith hseq hsucc hturn hwhole hdone).2 hrest
  exact ⟨moves, s, run, hrest, hlate, hbytes, horder⟩

/-- The transport accepts only the first byte of the write that was overtaken, and the chain hands the second one over
again behind the third. -/
theorem overtaken_partial_write : ¬ ∀ (config : Config) (moves : List Move) (s : System), Run (fresh config) moves s →
    (∀ m ∈ moves, m.IsFaithful) → (∀ m ∈ moves, m.IsSequential) → (∀ m ∈ moves, m.Succeeds) →
    (∀ w, s.outstanding.find? w = none) → s.Resting →
    reported moves s.nextWrite <+: (ledger moves).settled.flatMap accepted := by
  intro h
  obtain ⟨moves, s, run, hfaith, hseq, hsucc, hempty, hrest, hbytes, hdata⟩ :=
    Run.exists_of_follow (fresh {})
      [.call 0 (.add { bytes := ⟨#[97, 98]⟩ } .nonBlocking), .run 0, .run 0, .resume 0, .run 0, .run 0,
        .call 0 (.add { bytes := ⟨#[99]⟩ } .nonBlocking), .call 0 (.flush .blocking), .expire 0, .run 0, .run 0, .run 0,
        .complete 0 1 (.ok 1), .resume 0, .run 0, .run 0, .run 0, .complete 1 0 (.ok 1), .run 1, .resume 1, .run 1,
        .complete 1 2 (.ok 1)]
      (P := fun moves s => (∀ m ∈ moves, m.IsFaithful) ∧ (∀ m ∈ moves, m.IsSequential) ∧ (∀ m ∈ moves, m.Succeeds) ∧
        s.outstanding.entries = [] ∧ s.Resting ∧ reported moves s.nextWrite = [97, 99, 98] ∧
        (ledger moves).settled.flatMap accepted = [97, 98, 99]) (by decide +kernel)
  have hdone (w : WriteId) : s.outstanding.find? w = none := by simp [Table.find?, hempty]
  have horder := h {} moves s run hfaith hseq hsucc hdone hrest
  rw [hbytes, hdata] at horder
  revert horder
  decide

/-- It is not enough that the writes that are overtaken are accepted whole. Here the chain goes on on another thread,
and a blocking flush is faster. -/
theorem overtaken_waiting_write : ¬ ∀ (config : Config) (moves : List Move) (s : System), Run (fresh config) moves s →
    (∀ m ∈ moves, m.IsFaithful) → (∀ m ∈ moves, m.IsSequential) → (∀ m ∈ moves, m.Succeeds) →
    (∀ m ∈ moves, m.IsWhole) → (∀ w, s.outstanding.find? w = none) → s.Resting →
    reported moves s.nextWrite <+: (ledger moves).settled.flatMap accepted := by
  intro h
  obtain ⟨moves, s, run, hfaith, hseq, hsucc, hwhole, hempty, hrest, hbytes, hdata⟩ :=
    Run.exists_of_follow (fresh {})
      [.call 0 (.add { bytes := ⟨#[97]⟩ } .nonBlocking), .run 0, .run 0, .resume 0, .run 0, .run 0,
        .call 0 (.add { bytes := ⟨#[98]⟩ } .nonBlocking), .complete 1 0 (.ok 1),
        .call 0 (.add { bytes := ⟨#[99]⟩ } .nonBlocking), .call 0 (.flush .blocking), .expire 0, .run 0, .run 0, .run 0,
        .complete 0 1 (.ok 1), .resume 0, .run 0, .run 0, .run 0, .run 1, .resume 1, .run 1, .complete 1 2 (.ok 1)]
      (P := fun moves s => (∀ m ∈ moves, m.IsFaithful) ∧ (∀ m ∈ moves, m.IsSequential) ∧ (∀ m ∈ moves, m.Succeeds) ∧
        (∀ m ∈ moves, m.IsWhole) ∧ s.outstanding.entries = [] ∧ s.Resting ∧ reported moves s.nextWrite = [97, 99, 98] ∧
        (ledger moves).settled.flatMap accepted = [97, 98, 99]) (by decide +kernel)
  have hdone (w : WriteId) : s.outstanding.find? w = none := by simp [Table.find?, hempty]
  have horder := h {} moves s run hfaith hseq hsucc hwhole hdone hrest
  rw [hbytes, hdata] at horder
  revert horder
  decide

end System

end Outflow
