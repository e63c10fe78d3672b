import Outflow.Proofs.Shift

/-! The bytes that are not confirmed, in the order in which they will be, and what follows for a producer. -/
namespace Outflow

section Single

variable {α β : Type} {l : List α} {x : α} {M : Multiset α} {φ : α → List β}

theorem flatMap_of_coe_eq_cons (h : (↑l : Multiset α) = x ::ₘ M) (hM : ∀ y ∈ M, φ y = []) : l.flatMap φ = φ x := by
  have hx : x ∈ l := Multiset.mem_coe.1 (h ▸ Multiset.mem_cons_self x M)
  obtain ⟨before, after, rfl⟩ := List.append_of_mem hx
  have hothers : (↑(before ++ after) : Multiset α) = M := by
    rw [← Multiset.cons_inj_right x, ← h, Multiset.cons_coe, Multiset.coe_eq_coe]
    exact List.perm_middle.symm
  have hnil : (before ++ after).flatMap φ = [] := by
    rw [List.flatMap_eq_nil_iff]
    exact fun y hy => hM y (hothers ▸ Multiset.mem_coe.2 hy)
  rw [List.flatMap_append, List.append_eq_nil_iff] at hnil
  simp [hnil]

end Single

namespace System

variable {config : Config} {s s' : System} {moves : List Move} {a : Action} {sig : Option Signal} {t : ThreadId}

/-! ### Round trips -/

/-- Somebody waits for each round trip, at the transport or answered. -/
structure Claimed (s : System) : Prop where
  trip : ∀ w buf, s.outstanding.find? w = some (.trip buf) → ∃ sweep, .awaitingReply w sweep ∈ s.tally .calls
  answer : ∀ w answer, s.answers.find? w = some answer → ∃ sweep, .awaitingReply w sweep ∈ s.tally .calls

theorem claimed_fresh (config : Config) : (fresh config).Claimed := by
  constructor <;> simp [fresh]

theorem find?_of_set_chain {T : Table Handed} {v w : WriteId} {write : Write} {flight : Flight} {buf : Buffer}
    (hv : (T.set w (.chain write flight)).find? v = some (.trip buf)) : T.find? v = some (.trip buf) := by
  rw [Table.find?_set] at hv
  split at hv
  · simp at hv
  · exact hv

/-- Who waits goes on waiting. -/
theorem claimed_same (hc : s.Claimed)
    (hwaits : ∀ w sweep, .awaitingReply w sweep ∈ s.tally .calls → .awaitingReply w sweep ∈ s'.tally .calls)
    (htrip : ∀ w buf, s'.outstanding.find? w = some (.trip buf) → s.outstanding.find? w = some (.trip buf))
    (hans : s'.answers = s.answers) : s'.Claimed := by
  refine ⟨fun w buf hw => ?_, fun w answer hw => ?_⟩
  · obtain ⟨sweep, hm⟩ := hc.trip w buf (htrip w buf hw)
    exact ⟨sweep, hwaits w sweep hm⟩
  · obtain ⟨sweep, hm⟩ := hc.answer w answer (hans ▸ hw)
    exact ⟨sweep, hwaits w sweep hm⟩

theorem claimed_picked {w : WriteId} {sweep : Sweep} {C : Multiset Frame} {answer : Answer} (hc : s.Claimed)
    (hans : s.Answered) (hw : s.answers.find? w = some answer)
    (hcalls : s.tally .calls = .awaitingReply w sweep ::ₘ C) (hsub : ∀ f ∈ C, f ∈ s'.tally .calls)
    (hout : s'.outstanding = s.outstanding) (hans' : s'.answers = s.answers.erase w) : s'.Claimed := by
  have hother {v sweep'} (hv : v ≠ w) (hm : .awaitingReply v sweep' ∈ s.tally .calls) :
      .awaitingReply v sweep' ∈ s'.tally .calls := by
    rw [hcalls, Multiset.mem_cons] at hm
    rcases hm with heq | hm
    · cases heq
      exact absurd rfl hv
    · exact hsub _ hm
  refine ⟨fun v buf hv => ?_, fun v answer' hv => ?_⟩
  · rw [hout] at hv
    have hne : v ≠ w := by
      rintro rfl
      simp [hans.once v _ hv] at hw
    obtain ⟨sweep', hm⟩ := hc.trip v buf hv
    exact ⟨sweep', hother hne hm⟩
  · rw [hans', Table.find?_erase] at hv
    split at hv
    · simp at hv
    · next hne =>
      obtain ⟨sweep', hm⟩ := hc.answer v answer' hv
      exact ⟨sweep', hother hne hm⟩

theorem claimed_step (hnum : s.Numbered) (hans : s.Answered) (hc : s.Claimed) (h : Step s a s' sig)
    (hback : Move.GivesBack ⟨s, a, s', sig⟩) : s'.Claimed := by
  have hfresh := hnum.outstanding _ (Nat.le_refl _)
  cases h with
  | strayForgotten hw | tripForgotten hw | chainForgotten hw => exact hback.elim
  | tripExpired hst hans => exact absurd hst (hback.not_awaitingReply _ _ _)
  | tripDropped hst hw => exact absurd hw (hans.back _)
  | tripFailed hst hw hout =>
    exact claimed_picked hc hans hw (calls_pop hst rfl) (fun _ hm => hm) rfl rfl
  | tripDone hst hw hout =>
    refine claimed_picked hc hans hw (calls_pop hst rfl) (fun f hm => ?_) rfl rfl
    rw [tally_setAnswers, calls_replace _ _ _ _ rfl]
    exact Multiset.mem_cons_of_mem hm
  | @tripEnded t w outcome buf hout hw =>
    obtain ⟨sweep, hm⟩ := hc.trip w buf hw
    have hcalls : ((s.endWrite w).setAnswers (s.answers.set w (.returned outcome buf))).tally .calls
        = s.tally .calls := by
      simp [tally_endWrite _ hw]
    refine ⟨fun v buf' hv => ?_, fun v answer hv => ?_⟩
    · rw [hcalls]
      exact hc.trip v buf' (Table.find?_of_erase _ _ hv)
    · rw [hcalls]
      simp only [frame_setAnswers, Table.find?_set] at hv
      split at hv
      · next heq => exact ⟨sweep, heq ▸ hm⟩
      · exact hc.answer v answer hv
  | @tripBegun t rest buf sweep hst hbuf =>
    have hcalls : ((s.setStack t (.awaitingReply s.nextWrite sweep :: rest)).handOver t (.trip buf)).1.tally .calls
        = .awaitingReply s.nextWrite sweep ::ₘ (s.setStack t rest).tally .calls := by
      simp [tally_trip _ hfresh, Frame.isCall]
    have hkept {v sweep'} (hm : .awaitingReply v sweep' ∈ s.tally .calls) :
        .awaitingReply v sweep' ∈ (s.setStack t rest).tally .calls := by
      simpa [tally_pop _ hst, Frame.isCall] using hm
    refine ⟨fun v buf' hv => ?_, fun v answer hv => ?_⟩
    · simp only [frame_handOver, Table.find?_set] at hv
      rw [hcalls]
      split at hv
      · next heq => exact ⟨sweep, heq ▸ Multiset.mem_cons_self _ _⟩
      · obtain ⟨sweep', hm⟩ := hc.trip v buf' hv
        exact ⟨sweep', Multiset.mem_cons_of_mem (hkept hm)⟩
    · rw [hcalls]
      obtain ⟨sweep', hm⟩ := hc.answer v answer hv
      exact ⟨sweep', Multiset.mem_cons_of_mem (hkept hm)⟩
  | addNothing _ _ | addRefused _ _ _ | addQueued _ _ _ _ _ | flushRefused _ _ | flushHeld _ _ _
  | flushNothing _ _ _ _ | registered _ _ | reset _ | recycle _ | transportPending => exact ⟨hc.trip, hc.answer⟩
  | addBlocking _ _ _ | addGranted _ _ _ _ | addFull _ _ _ _ _ | flushAwaits _ _ _ | flushCollects _ _ _
  | flushBegun _ _ _ _ | registeredFree _ _ =>
    exact claimed_same hc (fun _ _ hm => by simp [tally_push, tally_begin, hm]) (fun _ _ hw => hw) rfl
  | driven hst hd =>
    refine claimed_same hc (fun _ _ hm => ?_) (fun _ _ hw => find?_of_set_chain hw) rfl
    simpa [tally_driven _ hfresh hst hd, Frame.isCall] using hm
  | carried hst hd =>
    refine claimed_same hc (fun _ _ hm => ?_) (fun _ _ hw => find?_of_set_chain hw) rfl
    simpa [tally_carried _ hfresh hd, tally_pop _ hst, Frame.isCall] using hm
  | driveDone hst hd =>
    refine claimed_same hc (fun _ _ hm => ?_) (fun _ _ hw => hw) rfl
    simpa [tally_driveDone _ hd, tally_pop _ hst, Frame.isCall] using hm
  | deferred hst hd =>
    refine claimed_same hc (fun _ _ hm => ?_) (fun _ _ hw => hw) rfl
    simpa [tally_deferred _ hd, tally_pop _ hst, Frame.isCall] using hm
  | answered hst | issued hst | addDone hst _ | collectedLate hst _ | roomExpired hst _ | sweptFlush hst _ _ _
  | startedNothing hst _ | refused hst | transportReturned hst | notified hst =>
    refine claimed_same hc (fun _ _ hm => ?_) (fun _ _ hw => hw) rfl
    simpa [tally_pop _ hst, Frame.isCall] using hm
  | started hst htake =>
    refine claimed_same hc (fun _ _ hm => ?_) (fun _ _ hw => hw) rfl
    simpa [tally_begin, tally_pop _ hst, Frame.isCall] using hm
  | absorbed hst _ _ | filledBehind hst _ _ _ | filled hst _ _ _ | roomMade hst _ | admittedLate hst _ | admitted hst _
  | chainAwaited hst _ | yielded hst | collected hst _ | sweptChunk hst _ | sweptPrimary hst _ _ | sweptAdd hst _ _ _
  | tripsDone hst _ | chainExpired hst _ | attached hst | told hst | toldFailure hst =>
    refine claimed_same hc (fun _ _ hm => ?_) (fun _ _ hw => hw) rfl
    simpa [tally_pop _ hst, tally_replace, Frame.isCall] using hm
  | strayEnded hout hw | chainStale hout hw hset | chainQuiet hout hw hset | chainTold hout hw hset
  | chainGoesOn hout hw hset | chainFailed hout hw hset =>
    refine claimed_same hc (fun _ _ hm => ?_) (fun _ _ hv => Table.find?_of_erase _ _ hv) rfl
    simpa [tally_endWrite _ hw, tally_push, Frame.isCall] using hm

/-- Where nobody waits there is no round trip, and no answer. -/
theorem tally_trips_eq_zero (hans : s.Answered) (hclaim : s.Claimed)
    (hnone : ∀ f ∈ s.tally .calls, f.awaitsReply = false) : s.tally .trips = 0 := by
  have hthread : ∀ th, Tally.trips.ofThread th = [] := by simp [Tally.ofThread]
  refine Multiset.eq_zero_of_forall_notMem fun buf hbuf => ?_
  simp only [tally, collect, Multiset.mem_coe, List.mem_append, Table.mem_collect, hthread, List.not_mem_nil,
    and_false, exists_false, false_or] at hbuf
  obtain ⟨w, h, hw, hm⟩ := hbuf
  cases h with
  | chain write flight => simp at hm
  | trip buf' =>
    obtain ⟨sweep, hf⟩ := hclaim.trip w buf' hw
    simpa [Frame.awaitsReply] using hnone _ hf
  | stray buf' => exact hans.awaited w buf' hw

theorem census_answers_eq_zero {β : Type} (φ : Answer → List β) (hclaim : s.Claimed)
    (hnone : ∀ f ∈ s.tally .calls, f.awaitsReply = false) : s.answers.census φ = 0 := by
  refine Multiset.eq_zero_of_forall_notMem fun x hx => ?_
  obtain ⟨w, answer, hw, -⟩ := (Table.mem_collect _ _).1 (Multiset.mem_coe.1 hx)
  obtain ⟨sweep, hf⟩ := hclaim.answer w answer hw
  simpa [Frame.awaitsReply] using hnone _ hf

/-! ### The line -/

/-- The bytes of the write of a chain that are not confirmed, buffer by buffer. -/
def inFlight (s : System) : List UInt8 := (s.collect .jobs).flatMap fun job => job.write.unsent

theorem inFlight_eq_nil (h : s.tally .jobs = 0) : s.inFlight = [] := by
  rw [tally, Multiset.coe_eq_zero] at h
  simp [inFlight, h]

theorem inFlight_eq {job : Job} (h : s.tally .jobs = {job}) : s.inFlight = job.write.unsent := by
  rw [tally, Multiset.coe_eq_singleton] at h
  simp [inFlight, h]

theorem inFlight_congr (hsole : Permit.Sole s.conn.permit (s.tally .guards)) (h : s'.tally .jobs = s.tally .jobs) :
    s'.inFlight = s.inFlight := by
  rcases Nat.le_one_iff_eq_zero_or_eq_one.1 (card_jobs_le hsole) with hcard | hcard
  · rw [Multiset.card_eq_zero] at hcard
    rw [inFlight_eq_nil hcard, inFlight_eq_nil (h.trans hcard)]
  · obtain ⟨job, hjob⟩ := Multiset.card_eq_one.1 hcard
    rw [inFlight_eq hjob, inFlight_eq (h.trans hjob)]

/-- The write of a chain that is at the transport is the only one. -/
theorem jobs_endWrite (hsole : Permit.Sole s.conn.permit (s.tally .guards)) {w : WriteId} {write : Write}
    {flight : Flight} (hw : s.outstanding.find? w = some (.chain write flight)) :
    s.tally .jobs = {⟨write, flight⟩} ∧ (s.endWrite w).tally .jobs = 0 := by
  have hjobs : s.tally .jobs = ⟨write, flight⟩ ::ₘ (s.endWrite w).tally .jobs := tally_endWrite _ hw
  have hcard := card_jobs_le hsole
  rw [hjobs, Multiset.card_cons] at hcard
  have hnone : (s.endWrite w).tally .jobs = 0 := Multiset.card_eq_zero.1 (by omega)
  exact ⟨by rw [hjobs, hnone]; rfl, hnone⟩

/-! ### The line -/

/-- What is left of a round trip. -/
def underway (s : System) (w : WriteId) : List UInt8 :=
  match s.outstanding.find? w with
  | some h => h.write.unsent
  | none => (s.answers.find? w).elim [] Answer.left

/-- What a blocking call writes out, in its order. -/
def lineOf (s : System) : Frame → List UInt8
  | .sweeping sweep => sweep.unsent
  | .writing buf sweep => buf.unsent ++ sweep.unsent
  | .awaitingReply w sweep => s.underway w ++ sweep.unsent
  | _ => []

theorem lineOf_of_hasLanded {f : Frame} (h : s.HasLanded f) : s.lineOf f = s.restOf f := by
  cases f with
  | awaitingReply w sweep => simp [lineOf, restOf, underway, h w sweep rfl]
  | _ => rfl

def ahead (s : System) : List UInt8 := (s.collect .calls).flatMap s.lineOf

/-- All bytes that are not confirmed, in order. -/
def line (s : System) : List UInt8 := s.ahead ++ (s.inFlight ++ s.conn.store.contents)

theorem lineOf_eq_nil {f : Frame} (hf : f.isSweeping = false) : s.lineOf f = [] := by
  cases f <;> first | rfl | simp [Frame.isSweeping] at hf

theorem ahead_eq_nil (h : ∀ f ∈ s.tally .calls, f.isSweeping = false) : s.ahead = [] := by
  rw [ahead, List.flatMap_eq_nil_iff]
  exact fun f hf => lineOf_eq_nil (h f hf)

theorem ahead_eq_nil_of_quiet (h : ∀ f ∈ s.tally .calls, f.isBlocking = false) : s.ahead = [] :=
  ahead_eq_nil fun f hf => Frame.isSweeping_of_not_blocking (h f hf)

theorem ahead_eq {f : Frame} {C : Multiset Frame} (h : s.tally .calls = f ::ₘ C)
    (hC : ∀ f' ∈ C, f'.isBlocking = false) : s.ahead = s.lineOf f :=
  flatMap_of_coe_eq_cons h fun f' hf' => lineOf_eq_nil (Frame.isSweeping_of_not_blocking (hC f' hf'))

theorem ahead_congr (hex : Exclusive (s.tally .calls)) (h : s'.tally .calls = s.tally .calls)
    (hline : ∀ f ∈ s.tally .calls, s'.lineOf f = s.lineOf f) : s'.ahead = s.ahead := by
  by_cases hb : ∃ f ∈ s.tally .calls, f.isBlocking = true
  · obtain ⟨f, hf, hb⟩ := hb
    have hone : s.tally .calls = f ::ₘ 0 := hex f hf hb
    rw [ahead_eq hone (by simp), ahead_eq (h.trans hone) (by simp), hline f hf]
  · have hquiet : ∀ f ∈ s.tally .calls, f.isBlocking = false := fun f hf => by simpa using fun h => hb ⟨f, hf, h⟩
    rw [ahead_eq_nil_of_quiet hquiet, ahead_eq_nil_of_quiet (h ▸ hquiet)]

/-- While a chain is in flight no blocking call writes. -/
theorem not_isSweeping (hl : Lined s.conn.permit.held s.conn.store (s.tally .calls))
    (hheld : s.conn.permit.held = true) : ∀ f ∈ s.tally .calls, f.isSweeping = false := by
  intro f hf
  refine Frame.isSweeping_of_not_writing ?_
  by_contra hw
  have := hl.calm f hf (by simpa using hw)
  simp [hheld] at this

section Move

variable {f f' : Frame} {C : Multiset Frame} {confirmed taken : List UInt8}

/-- A call goes on. -/
theorem line_next (hsole : Permit.Sole s.conn.permit (s.tally .guards)) (hex : Exclusive (s.tally .calls))
    (hC : s.tally .calls = f ::ₘ C) (hC' : s'.tally .calls = f' ::ₘ C) (hjobs : s'.tally .jobs = s.tally .jobs)
    (h : confirmed ++ (s'.lineOf f' ++ (s.inFlight ++ s'.conn.store.contents))
      = s.lineOf f ++ (s.inFlight ++ s.conn.store.contents) ++ taken) : confirmed ++ s'.line = s.line ++ taken := by
  rw [hC] at hex
  rwa [line, line, ahead_eq hC hex.not_blocking, ahead_eq hC' hex.not_blocking, inFlight_congr hsole hjobs]

/-- Bytes are added at the end, or go from one call to another or to the store, past a chain that is not in flight. -/
theorem line_of_ahead (hsole : Permit.Sole s.conn.permit (s.tally .guards)) (hjobs : s'.tally .jobs = s.tally .jobs)
    {out out' : List UInt8} (hs : s.ahead = out) (hs' : s'.ahead = out') (hpast : out ++ s.inFlight = s.inFlight ++ out)
    (hpast' : out' ++ s.inFlight = s.inFlight ++ out')
    (h : out' ++ s'.conn.store.contents = out ++ s.conn.store.contents ++ taken) : s'.line = s.line ++ taken := by
  calc s'.line = out' ++ s.inFlight ++ s'.conn.store.contents := by
        rw [line, hs', inFlight_congr hsole hjobs, List.append_assoc]
    _ = s.inFlight ++ (out ++ s.conn.store.contents ++ taken) := by rw [hpast', List.append_assoc, h]
    _ = out ++ s.inFlight ++ s.conn.store.contents ++ taken := by simp only [hpast, List.append_assoc]
    _ = s.line ++ taken := by rw [line, hs, List.append_assoc out]

/-- A step that leaves the transport alone only adds to the end of the line. -/
theorem line_shifted (hsole : Permit.Sole s.conn.permit (s.tally .guards))
    (hl : Lined s.conn.permit.held s.conn.store (s.tally .calls)) (hout : s'.outstanding = s.outstanding)
    (h : Shifted s a s') : s'.line = s.line ++ s.takenBy a := by
  have htally (hjobs : s'.aboard .jobs = s.aboard .jobs) : s'.tally .jobs = s.tally .jobs := by
    rw [tally_eq_aboard, tally_eq_aboard, hjobs, hout]
  -- No chain is in flight while a call writes.
  have hpast {f C} (hC : s.tally .calls = f ::ₘ C) {out : List UInt8} (hnone : f.isWriting = false → out = []) :
      out ++ s.inFlight = s.inFlight ++ out := by
    cases hw : f.isWriting with
    | false => simp [hnone hw]
    | true =>
      have hfree := hl.calm f (hC ▸ Multiset.mem_cons_self f C) hw
      simp [inFlight_eq_nil (jobs_eq_zero hsole hfree)]
  have hrest {f} (hw : f.isWriting = false) : s.restOf f = [] := restOf_eq_nil (Frame.isSweeping_of_not_writing hw)
  cases h with
  | aside hcalls hans hjobs hc =>
    have hahead : s'.ahead = s.ahead := by
      refine ahead_congr hl.exclusive hcalls fun f _ => ?_
      cases f <;> simp [lineOf, underway, hout, hans]
    rw [line, line, hahead, inFlight_congr hsole (htally hjobs), hc]
    simp
  | begun hquiet hf hcalls hjobs hc =>
    have hs' := (ahead_eq hcalls hquiet).trans (lineOf_eq_nil hf)
    exact line_of_ahead hsole (htally hjobs) (ahead_eq_nil_of_quiet hquiet) hs' (by simp) (by simp) hc
  | @goesOn f f' C hf hland hland' hC hcalls hjobs hc =>
    have hquiet := Exclusive.not_blocking (hC ▸ hl.exclusive)
    have hs := (ahead_eq hC hquiet).trans (lineOf_of_hasLanded hland)
    have hs' := (ahead_eq hcalls hquiet).trans (lineOf_of_hasLanded hland')
    refine line_of_ahead hsole (htally hjobs) hs hs' (hpast hC hrest) (hpast hC fun hw => restOf_eq_nil ?_) hc
    exact hf.resolve_left (by simp [hw])
  | @ended f C hland hC hcalls hjobs hc =>
    have hquiet := Exclusive.not_blocking (hC ▸ hl.exclusive)
    have hs := (ahead_eq hC hquiet).trans (lineOf_of_hasLanded hland)
    have hs' := ahead_eq_nil_of_quiet (hcalls ▸ hquiet)
    exact line_of_ahead hsole (htally hjobs) hs hs' (hpast hC hrest) (by simp) hc
  | @launched job hquiet hquiet' hnone hjobs hw hc htaken =>
    have hlaunched : s'.tally .jobs = {job} := by
      rw [tally_eq_aboard] at hnone
      have hsea : s.outstanding.census Tally.jobs.ofHanded = 0 :=
        Multiset.le_zero.1 (hnone ▸ Multiset.le_add_left _ _)
      rw [tally_eq_aboard, hjobs, hout, hsea, add_zero]
    rw [line, line, ahead_eq_nil_of_quiet hquiet, ahead_eq_nil_of_quiet hquiet', inFlight_eq_nil hnone,
      inFlight_eq hlaunched, htaken]
    simp [hw, hc]

/-- The write of a chain goes to the transport. -/
theorem line_handed {job : Job} (hsole : Permit.Sole s.conn.permit (s.tally .guards))
    (hl : Lined s.conn.permit.held s.conn.store (s.tally .calls)) (hjob : job ∈ s.tally .jobs)
    (hcalls : s'.tally .calls = s.tally .calls) (hjobs : s'.tally .jobs = s.tally .jobs) (hconn : s'.conn = s.conn) :
    s'.line = s.line := by
  have hquiet := not_isSweeping hl (held_of_mem_jobs hsole hjob)
  rw [line, line, ahead_eq_nil hquiet, ahead_eq_nil (hcalls ▸ hquiet), inFlight_congr hsole hjobs, hconn]

/-- A chain goes on, or ends. -/
theorem line_chain (hl : Lined s.conn.permit.held s.conn.store (s.tally .calls)) (hheld : s.conn.permit.held = true)
    (hcalls : s'.tally .calls = s.tally .calls)
    (h : confirmed ++ (s'.inFlight ++ s'.conn.store.contents) = s.inFlight ++ s.conn.store.contents) :
    confirmed ++ s'.line = s.line := by
  have hquiet := not_isSweeping hl hheld
  rwa [line, line, ahead_eq_nil hquiet, ahead_eq_nil (hcalls ▸ hquiet), List.nil_append, List.nil_append]

theorem line_finished {w : WriteId} {write : Write} {flight : Flight} {isInline notify : Bool} {outcome : Outcome}
    (hwf : s.conn.store.WellFormed) (hsole : Permit.Sole s.conn.permit (s.tally .guards))
    (hl : Lined s.conn.permit.held s.conn.store (s.tally .calls))
    (hw : s.outstanding.find? w = some (.chain write flight))
    (hset : s.conn.Settled flight isInline outcome write s'.conn (.finished notify))
    (hcalls : s'.tally .calls = s.tally .calls) (hjobs : s'.tally .jobs = (s.endWrite w).tally .jobs) :
    s.confirmedBy (.complete t w outcome) ++ s'.line = s.line := by
  obtain ⟨count, hok, -, hdrop, hc, hc'⟩ := hset.unsent_finished hwf
  obtain ⟨hjob, hnone⟩ := jobs_endWrite hsole hw
  have hall : write.unsent.take count = write.unsent := by
    simpa [hdrop] using List.take_append_drop count write.unsent
  refine line_chain hl (held_of_mem_jobs hsole (hjob ▸ Multiset.mem_singleton_self _)) hcalls ?_
  rw [inFlight_eq_nil (hjobs.trans hnone), inFlight_eq hjob, hc, hc', confirmedBy_complete hw,
    Outcome.written_eq_ok hok]
  simpa [Handed.write] using hall

end Move

theorem confirmedBy_eq_nil (ha : ∀ w, a.ends w = false) : s.confirmedBy a = [] := by
  cases a with
  | complete t w outcome => simp [Action.ends] at ha
  | _ => rfl

theorem line_step (hnum : s.Numbered) (hwf : s.conn.store.WellFormed) (hans : s.Answered) (hclaim : s.Claimed)
    (hsole : Permit.Sole s.conn.permit (s.tally .guards))
    (hl : Lined s.conn.permit.held s.conn.store (s.tally .calls)) (h : Step s a s' sig)
    (hfaith : Move.IsFaithful ⟨s, a, s', sig⟩) (hord : Move.IsOrderly ⟨s, a, s', sig⟩) :
    s.confirmedBy a ++ s'.line = s.line ++ s.takenBy a := by
  have hfresh := hnum.outstanding _ (Nat.le_refl _)
  have hshift := shifted_step hnum hwf hans hsole hl.exclusive hl.clear h hfaith fun _ _ => hord.quiet
  cases h with
  | @tripBegun t rest buf sweep hst hbuf =>
    refine line_next hsole hl.exclusive (calls_pop hst rfl) (calls_trip hnum _ _ _ _)
      (by simp [tally_trip _ hfresh, tally_pop _ hst, Frame.jobs]) ?_
    simp [takenBy_run hst, takes, lineOf, confirmedBy, underway, Table.find?_set, unsent_trip]
  | tripExpired hst hans => exact absurd hst (hfaith.not_awaitingReply _ _ _)
  | strayEnded hout hw => exact absurd hw (hans.awaited _ _)
  | @tripEnded t w outcome buf hout hw =>
    obtain ⟨sweep, hm⟩ := hclaim.trip w buf hw
    have hC : s.tally .calls = .awaitingReply w sweep ::ₘ 0 := hl.exclusive _ hm rfl
    have hC' : ((s.endWrite w).setAnswers (s.answers.set w (.returned outcome buf))).tally .calls
        = .awaitingReply w sweep ::ₘ 0 := by simp [← hC, tally_endWrite _ hw]
    refine line_next hsole hl.exclusive hC hC' (by simp [tally_endWrite _ hw]) ?_
    simp [lineOf, confirmedBy_complete hw, underway, hw, unsent_trip, Table.find?_erase, Table.find?_set, Answer.left]
    rw [← List.append_assoc, List.take_append_drop]
  | @driven t rest job queue hst hd =>
    have hmem : job ∈ s.tally .jobs := by rw [tally_eq _ _ t]; simp [Tally.ofThread, hst, hd]
    have hline : (s.launch t rest queue job).line = s.line := by
      refine line_handed hsole hl hmem ?_ ?_ rfl <;> simp [tally_driven _ hfresh hst hd, Frame.isCall, Frame.jobs]
    simp [confirmedBy, takenBy_run hst, takes, hline]
  | @carried t rest job hst hd =>
    have hmem : job ∈ s.tally .jobs := by rw [tally_pop _ hst]; simp [Frame.jobs]
    have hline : (s.launch t rest [] job).line = s.line := by
      refine line_handed hsole hl hmem ?_ ?_ rfl <;>
        simp [tally_carried _ hfresh hd, tally_pop _ hst, Frame.isCall, Frame.jobs]
    simp [confirmedBy, takenBy_run hst, takes, hline]
  | chainStale hout hw hset =>
    have hcurrent := isCurrent_of_sole hsole hw
    simp [hset.not_isCurrent] at hcurrent
  | chainQuiet hout hw hset =>
    rw [line_finished hwf hsole hl hw hset (by simp [tally_endWrite _ hw]) (by simp)]
    exact (List.append_nil _).symm
  | chainTold hout hw hset =>
    rw [line_finished hwf hsole hl hw hset (by simp [tally_endWrite _ hw, tally_push, Frame.isCall])
      (by simp [tally_push, Frame.jobs])]
    exact (List.append_nil _).symm
  | @chainGoesOn t w _ write flight conn next hout hw hset =>
    obtain ⟨count, hok, -, hnext, hc⟩ := hset.unsent_reissue hwf
    obtain ⟨hjob, hnone⟩ := jobs_endWrite hsole hw
    have hheld := held_of_mem_jobs hsole (hjob ▸ Multiset.mem_singleton_self _)
    have hjob' : (((s.endWrite w).setConn conn).push t (.carrying { write := next, flight })).tally .jobs
        = {⟨next, flight⟩} := by simp [tally_push, Frame.jobs, hnone]
    refine (line_chain hl hheld (by simp [tally_endWrite _ hw, tally_push, Frame.isCall]) ?_).trans
      (List.append_nil _).symm
    rw [inFlight_eq hjob, inFlight_eq hjob', confirmedBy_complete hw, Outcome.written_eq_ok hok, hnext]
    simp only [Handed.write, frame_push, frame_setConn, hc, List.append_nil]
    rw [← List.append_assoc, List.take_append_drop]
  | chainFailed hout hw hset =>
    have hs := hfaith.succeeds hw
    simp [Outcome.not_succeeds hset.written_failed] at hs
  | strayForgotten hw | tripForgotten hw | chainForgotten hw => exact hfaith.elim
  | _ =>
    rw [confirmedBy_eq_nil fun _ => rfl, List.nil_append]
    exact line_shifted hsole hl rfl (hshift (fun _ => rfl) rfl)

/-! ### Runs -/

theorem claimed_run (run : Run (fresh config) moves s) (hback : ∀ m ∈ moves, m.GivesBack) : s.Claimed := by
  induction run with
  | nil => exact claimed_fresh config
  | snoc run h ih =>
    simp only [List.forall_mem_append, List.forall_mem_singleton] at hback
    exact claimed_step (numbered_run run) (answered_run run hback.1) (ih hback.1) (step_perform h) hback.2

theorem lined_run (run : Run (fresh config) moves s) (hback : ∀ m ∈ moves, m.GivesBack)
    (hord : ∀ m ∈ moves, m.IsOrderly) : Lined s.conn.permit.held s.conn.store (s.tally .calls) := by
  induction run with
  | nil => exact ⟨by simp, by simp, clear_of_front rfl⟩
  | snoc run h ih =>
    simp only [List.forall_mem_append, List.forall_mem_singleton] at hback hord
    exact lined_step (numbered_run run) (sound_run run).store.wellFormed
      (sole_run run fun m hm => (hback.1 m hm).kept) (ih hback.1 hord.1) (step_perform h) hord.2

/-- What was taken over was confirmed, or waits in line. -/
theorem line_run (run : Run (fresh config) moves s) (hfaith : ∀ m ∈ moves, m.IsFaithful)
    (hord : ∀ m ∈ moves, m.IsOrderly) : confirmed moves ++ s.line = taken moves := by
  induction run with
  | nil => rfl
  | @snoc moves s a s' sig run h ih =>
    simp only [List.forall_mem_append, List.forall_mem_singleton] at hfaith hord
    have hback : ∀ m ∈ moves, m.GivesBack := fun m hm => (hfaith.1 m hm).givesBack
    have hstep := line_step (numbered_run run) (sound_run run).store.wellFormed (answered_run run hback)
      (claimed_run run hback) (sole_run run fun m hm => (hback m hm).kept) (lined_run run hback hord.1)
      (step_perform h) hfaith.2 hord.2
    simp only [confirmed, taken, List.flatMap_append, List.flatMap_singleton] at ih ⊢
    rw [← ih hfaith.1 hord.1, List.append_assoc, List.append_assoc]
    exact congrArg _ hstep

end System

end Outflow
