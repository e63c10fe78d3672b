import Outflow.Proofs.Delivery
import Outflow.Proofs.Keeping

/-! What a connection says about data that is left, against what the transport has confirmed, as long as nobody
makes a blocking call. It looks at its store, which misses a write that carries no primary buffer. -/
namespace Outflow

def Call.isNonBlocking : Call → Bool
  | .add _ .nonBlocking | .flush .nonBlocking => true
  | _ => false

theorem Call.not_blocking {c : Call} (h : c.isNonBlocking = true) : c.isBlocking = false := by
  cases c with
  | add src mode | flush mode => cases mode <;> simp_all [isNonBlocking, isBlocking]
  | _ => rfl

theorem Starter.Serves.not_blocking {starter : Starter} {c : Call} {part : List UInt8} (h : starter.Serves c part) :
    c.isBlocking = false := by
  cases h <;> rfl

theorem Goal.Serves.isBlocking {goal : Goal} {c : Call} {part : List UInt8} (h : goal.Serves c part) :
    c.isBlocking = true := by
  cases h <;> rfl

/-- The frames of blocking calls are known by their kind. -/
theorem Frame.Serves.isBlocking {f : Frame} {c : Call} {part : List UInt8} (h : f.Serves c part) :
    f.isBlocking = c.isBlocking := by
  cases h with
  | starting h | issuing h => exact h.not_blocking.symm
  | awaitingChain h | yielding h | collecting h | sweeping h | writing h | awaitingReply h => exact h.isBlocking.symm
  | answering | adding h | awaitingRoom | admitted | refusing => rfl

theorem Frame.not_blocking_of_not_isCall {f : Frame} (h : f.isCall = false) : f.isBlocking = false := by
  cases f <;> first | rfl | simp [isCall] at h

theorem Frame.awaits_of_not_blocking {f : Frame} (h : f.isBlocking = false) :
    f.awaitsReply = false ∧ f.awaitsChain = false := by
  cases f <;> first | exact ⟨rfl, rfl⟩ | simp [isBlocking] at h

theorem Connection.Settled.error {c c' : Connection} {f : Flight} {isInline : Bool} {outcome : Outcome}
    {write : Write} {v : Verdict} (h : Settled c f isInline outcome write c' v) (hv : ∀ err, v ≠ .failed err) :
    c'.error = c.error := by
  cases h with
  | @failed err hw hg => exact absurd rfl (hv err)
  | stale hg | alone hw hg hs hb hr | gathered hw hg hs | finished hw hg hs hb => rfl

theorem Store.primaryPending_eq_false_iff {s : Store} :
    s.primaryPending = false ↔ s.primaries = 1 ∧ s.front = [] := by
  cases hp : s.primary <;> simp [primaryPending, primaries, front, hp]

/-- A store has nothing to report if nothing is in it and its primary buffer is. -/
theorem Store.quiet_iff {s : Store} (h : s.WellFormed) :
    (s.primaryPending || s.hasPending) = false ↔ s.primaries = 1 ∧ s.contents = [] := by
  rw [Bool.or_eq_false_iff, primaryPending_eq_false_iff, hasPending_eq_false_iff, ← queued_eq_nil_iff h, contents_eq,
    List.append_eq_nil_iff, and_assoc]

namespace System

variable {config : Config} {s s' : System} {moves : List Move} {a : Action} {sig : Option Signal}

/-- Calls are non-blocking adds and flushes, and writes end with a count. -/
def Move.IsNonBlocking (m : Move) : Prop :=
  match m.action with
  | .call _ c => c.isNonBlocking = true
  | .abandon _ => False
  | .complete _ _ outcome => outcome.succeeds = true
  | _ => True

instance : DecidablePred Move.IsNonBlocking
  | ⟨_, .call _ _, _, _⟩ | ⟨_, .complete _ _ _, _, _⟩ => inferInstanceAs (Decidable (_ = _))
  | ⟨_, .abandon _, _, _⟩ => inferInstanceAs (Decidable False)
  | ⟨_, .run _, _, _⟩ | ⟨_, .expire _, _, _⟩ | ⟨_, .resume _, _, _⟩ | ⟨_, .transportPending _, _, _⟩ =>
    inferInstanceAs (Decidable True)

theorem Move.IsNonBlocking.of_call {m : Move} (h : m.IsNonBlocking) {t : ThreadId} {c : Call}
    (ha : m.action = .call t c) : c.isNonBlocking = true := by
  simpa [Move.IsNonBlocking, ha] using h

/-! ### Who makes calls -/

/-- Each call of a ledger was made. -/
theorem ledger_forall {P : Call → Prop} (h : ∀ m ∈ moves, ∀ t c, m.action = .call t c → P c) :
    (∀ e ∈ (ledger moves).pending, P e.2) ∧ ∀ e ∈ (ledger moves).settled, P e.1 := by
  induction moves using List.reverseRecOn with
  | nil => simp [ledger]
  | append_singleton moves m ih =>
    simp only [List.forall_mem_append, List.forall_mem_singleton] at h
    obtain ⟨hpending, hsettled⟩ := ih h.1
    have henter : ∀ e ∈ ((ledger moves).enter m.action).pending, P e.2 := by
      cases ha : m.action with
      | call t c =>
        simp only [Ledger.enter, List.forall_mem_cons]
        exact ⟨h.2 t c ha, hpending⟩
      | _ => exact hpending
    have hkept : ((ledger moves).enter m.action).settled = (ledger moves).settled := by
      cases m.action <;> rfl
    rw [ledger_snoc]
    unfold Ledger.note
    split
    · unfold Ledger.settle
      split
      · next e he =>
        refine ⟨fun e' he' => henter e' (List.mem_of_mem_eraseP he'), ?_⟩
        simp only [hkept, List.forall_mem_append, List.forall_mem_singleton]
        exact ⟨hsettled, henter e (List.mem_of_find?_eq_some he)⟩
      · exact ⟨henter, hkept ▸ hsettled⟩
    · exact ⟨henter, hkept ▸ hsettled⟩

theorem exists_share {frames : List Frame} {shares : List Share} {f : Frame}
    (h : List.Forall₂ (fun f r => f.Serves r.call r.part) frames shares) (hf : f ∈ frames) :
    ∃ r ∈ shares, f.Serves r.call r.part := by
  induction h with
  | nil => simp at hf
  | cons hserves _ ih =>
    rcases List.mem_cons.1 hf with rfl | hf
    · exact ⟨_, List.mem_cons_self, hserves⟩
    · obtain ⟨r, hr, hserves⟩ := ih hf
      exact ⟨r, List.mem_cons_of_mem _ hr, hserves⟩

/-- Each frame of a call is one of a non-blocking add or flush. -/
theorem serves_run (run : Run (fresh config) moves s) (hnb : ∀ m ∈ moves, m.IsNonBlocking) {f : Frame}
    (hf : f ∈ s.tally .calls) : ∃ c part, f.Serves c part ∧ c.isNonBlocking = true := by
  obtain ⟨shares, parts, hm, -, -⟩ := ledger_run run
  obtain ⟨t, ht⟩ := mem_calls_iff.1 hf
  obtain ⟨r, hr, hserves⟩ := exists_share (hm.serves t) ht
  have hcalls := (ledger_forall (P := fun c => c.isNonBlocking = true) fun m hm t c => (hnb m hm).of_call).1
  rw [hm.pending, List.forall_mem_map] at hcalls
  exact ⟨r.call, r.part, hserves, hcalls r (List.mem_of_mem_filter hr)⟩

theorem not_blocking_run (run : Run (fresh config) moves s) (hnb : ∀ m ∈ moves, m.IsNonBlocking) :
    ∀ f ∈ s.tally .calls, f.isBlocking = false := by
  intro f hf
  obtain ⟨c, part, hserves, hc⟩ := serves_run run hnb hf
  exact hserves.isBlocking.trans (Call.not_blocking hc)

theorem faithful_run (run : Run (fresh config) moves s) (hnb : ∀ m ∈ moves, m.IsNonBlocking) :
    ∀ m ∈ moves, m.IsFaithful ∧ m.IsOrderly := by
  induction run with
  | nil => simp
  | @snoc moves s a s' sig run h ih =>
    simp only [List.forall_mem_append, List.forall_mem_singleton] at hnb ⊢
    refine ⟨ih hnb.1, ?_⟩
    have hquiet := not_blocking_run run hnb.1
    have htop : ∀ t, ∀ f ∈ (s.thread t).stack.head?, f.isBlocking = false := by
      intro t f hf
      cases hcall : f.isCall with
      | false => exact Frame.not_blocking_of_not_isCall hcall
      | true =>
        refine hquiet f (mem_calls_iff.2 ⟨t, ?_⟩)
        exact List.mem_filter.2 ⟨List.mem_of_mem_head? hf, hcall⟩
    cases a with
    | call t c =>
      have hc : c.isNonBlocking = true := hnb.2
      refine ⟨?_, fun f hf => ⟨Call.not_blocking hc, hquiet f hf⟩⟩
      cases c <;> first | rfl | simp [Call.isNonBlocking] at hc
    | expire t =>
      have hawaits := fun f hf => Frame.awaits_of_not_blocking (htop t f hf)
      exact ⟨fun f hf => (hawaits f hf).1, fun f hf => (hawaits f hf).2⟩
    | complete t w outcome => exact ⟨fun _ _ _ => hnb.2, trivial⟩
    | abandon w => exact hnb.2.elim
    | run t | resume t | transportPending pending => exact ⟨trivial, trivial⟩

/-! ### What is reported -/

theorem error_step (herr : s.conn.error = none) (h : Step s a s' sig) (hfaith : Move.IsFaithful ⟨s, a, s', sig⟩) :
    s'.conn.error = none := by
  cases h with
  | addQueued hout hsrc herr' hheld hroom =>
    rw [Connection.queue?_eq_ok hroom]
    exact herr
  | @recycle t hout => exact absurd rfl (hfaith.kept t)
  | chainQuiet hout hw hset | chainTold hout hw hset | chainGoesOn hout hw hset =>
    exact (hset.error (by simp)).trans herr
  | chainFailed hout hw hset =>
    have hs := hfaith.succeeds hw
    simp [Outcome.not_succeeds hset.written_failed] at hs
  | _ => exact herr

theorem error_run (run : Run (fresh config) moves s) (hfaith : ∀ m ∈ moves, m.IsFaithful) : s.conn.error = none := by
  induction run with
  | nil => rfl
  | snoc run h ih =>
    simp only [List.forall_mem_append, List.forall_mem_singleton] at hfaith
    exact error_step (ih hfaith.1) (step_perform h) hfaith.2

/-- The answer of a non-blocking flush is what `hasData` says when it is given. -/
theorem reply_eq_hasData (run : Run (fresh config) moves s) (hnb : ∀ m ∈ moves, m.IsNonBlocking) (h : Step s a s' sig)
    {more : Bool} (hsig : sig = some (.replied (.pending more))) : s'.hasData = more := by
  cases h with
  | flushHeld hout herr hheld | flushNothing hout herr hfree htake =>
    cases hsig
    rfl
  | @issued t rest m starter hst | @startedNothing t rest starter g hst htake =>
    cases starter <;> cases hsig
    rfl
  | @answered t rest reply hst =>
    obtain ⟨c, part, hserves, hc⟩ := serves_run run hnb (calls_pop hst rfl ▸ Multiset.mem_cons_self _ _)
    cases hserves
    simp [Call.isNonBlocking] at hc
  | @sweptFlush t rest sweep hst hswept hp hg =>
    have hblocking := not_blocking_run run hnb _ (calls_pop hst rfl ▸ Multiset.mem_cons_self _ _)
    simp [Frame.isBlocking] at hblocking
  | _ => cases hsig

theorem answers_run (run : Run (fresh config) moves s) (hnb : ∀ m ∈ moves, m.IsNonBlocking) :
    ∀ m ∈ moves, ∀ more, m.signal = some (.replied (.pending more)) → m.after.hasData = more := by
  induction run with
  | nil => simp
  | snoc run h ih =>
    simp only [List.forall_mem_append, List.forall_mem_singleton] at hnb ⊢
    exact ⟨ih hnb.1, fun more hsig => reply_eq_hasData run hnb.1 (step_perform h) hsig⟩

/-- Nothing is reported exactly if nothing is stored and no write in flight carries the primary buffer. -/
theorem hasData_eq_false_iff (run : Run (fresh config) moves s) (hnb : ∀ m ∈ moves, m.IsNonBlocking)
    (hpending : s.transportPending = false) : s.hasData = false ↔
      s.conn.store.contents = [] ∧ ∀ job ∈ s.collect .jobs, job.write.primaries = [] := by
  have hfaith : ∀ m ∈ moves, m.IsFaithful := fun m hm => (faithful_run run hnb m hm).1
  have hback : ∀ m ∈ moves, m.GivesBack := fun m hm => (hfaith m hm).givesBack
  have hone := onePrimary_run run hback fun m hm => (faithful_run run hnb m hm).2
  have hzero := lent_eq_zero_iff (answered_run run hback) (claimed_run run hback)
    fun f hf => Frame.isSweeping_of_not_blocking (not_blocking_run run hnb f hf)
  have hreport : s.hasData = (s.conn.store.primaryPending || s.conn.store.hasPending) := by
    simp [hasData, Connection.hasData, hpending, error_run run hfaith]
  have hprimaries : s.conn.store.primaries = 1 ↔ s.lent = 0 := by
    have : s.conn.store.primaries + s.lent = 1 := hone
    omega
  rw [hreport, Store.quiet_iff (sound_run run).store.wellFormed, hprimaries, hzero, and_comm]

/-- Accepted data was taken over, and between calls nothing else was. -/
theorem accepted_taken (run : Run (fresh config) moves s) (hnb : ∀ m ∈ moves, m.IsNonBlocking) :
    ((ledger moves).settled.flatMap accepted).Subperm (taken moves) ∧
    (s.Resting → ((ledger moves).settled.flatMap accepted).Perm (taken moves)) := by
  obtain ⟨shares, parts, hm, hperm, -⟩ := ledger_run run
  have hcalls := (ledger_forall (P := fun c => c.isNonBlocking = true) fun m hm t c => (hnb m hm).of_call).2
  have hparts := flatten_eq_accepted hm.settled fun e he => .inl (Call.not_blocking (hcalls e he))
  rw [Share.total, hparts] at hperm
  refine ⟨hperm.symm.subperm_left.1 (List.sublist_append_left _ _).subperm, fun hrest => ?_⟩
  simpa [hm.shares_eq_nil hrest] using hperm.symm

/-- In a run without blocking calls, nothing is reported although bytes are not confirmed exactly if nothing is
stored and one write without the primary buffer is in flight. The flushes of the run report the same. -/
theorem report_exact (run : Run (fresh config) moves s) (hnb : ∀ m ∈ moves, m.IsNonBlocking)
    (hpending : s.transportPending = false) :
    ((s.hasData = false ∧ confirmed moves ≠ taken moves) ↔
      s.conn.store.contents = [] ∧ ∃ job, s.collect .jobs = [job] ∧ job.write.primaries = []) ∧
    ((ledger moves).settled.flatMap accepted).Subperm (taken moves) ∧
    (s.Resting → ((ledger moves).settled.flatMap accepted).Perm (taken moves)) ∧
    ∀ m ∈ moves, ∀ more, m.signal = some (.replied (.pending more)) → m.after.hasData = more := by
  have hfaith : ∀ m ∈ moves, m.IsFaithful := fun m hm => (faithful_run run hnb m hm).1
  have hline := line_run run hfaith fun m hm => (faithful_run run hnb m hm).2
  have hquiet : s.ahead = [] := ahead_eq_nil_of_quiet (not_blocking_run run hnb)
  have hcard : (s.collect .jobs).length ≤ 1 := card_jobs_le (sole_run run fun m hm => (hfaith m hm).kept)
  obtain ⟨hsub, hperm⟩ := accepted_taken run hnb
  refine ⟨?_, hsub, hperm, answers_run run hnb⟩
  rw [hasData_eq_false_iff run hnb hpending, and_assoc]
  refine and_congr_right fun hnone => ?_
  have hleft : confirmed moves ≠ taken moves ↔ s.inFlight ≠ [] := by
    rw [← hline, line, hquiet, hnone]
    simp
  rw [hleft]
  cases hjobs : s.collect .jobs with
  | nil => simp [inFlight, hjobs]
  | cons job others =>
    obtain rfl : others = [] := by
      rw [hjobs, List.length_cons] at hcard
      exact List.length_eq_zero_iff.1 (by omega)
    have hjob : job.write.unsent ≠ [] := (sound_job (sound_run run) (by simp [hjobs])).unsent_ne_nil
    simp [inFlight, hjobs, hjob]

/-- The primary buffer is back after the first write. The second one carries what was queued meanwhile, and the
transport confirms half of it. -/
theorem report_exact_second_write : ∃ moves s, Run (fresh {}) moves s ∧ s.hasData = false ∧
    confirmed moves = [97, 98, 99] ∧ ((ledger moves).settled.flatMap accepted).Perm [97, 98, 99, 100] ∧
    s.conn.store.contents = [] ∧ ∃ job, s.collect .jobs = [job] ∧ job.write.primaries = [] := by
  obtain ⟨moves, s, run, hnb, hpending, hrest, hdata, hconfirmed, htaken⟩ := Run.exists_of_follow (fresh {})
    [.call 0 (.add { bytes := ⟨#[97, 98]⟩ } .nonBlocking), .run 0, .run 0, .resume 0, .run 0, .run 0,
      .call 0 (.add { bytes := ⟨#[99, 100]⟩ } .nonBlocking), .complete 1 0 (.ok 2), .run 1, .resume 1, .run 1,
      .complete 2 1 (.ok 1), .run 2, .resume 2, .run 2, .call 0 (.flush .nonBlocking)]
    (P := fun moves s => (∀ m ∈ moves, m.IsNonBlocking) ∧ s.transportPending = false ∧ s.Resting ∧ s.hasData = false ∧
      confirmed moves = [97, 98, 99] ∧ taken moves = [97, 98, 99, 100]) (by decide +kernel)
  obtain ⟨hexact, -, hperm, -⟩ := report_exact run hnb hpending
  have hne : confirmed moves ≠ taken moves := by simp [hconfirmed, htaken]
  exact ⟨moves, s, run, hdata, hconfirmed, htaken ▸ hperm hrest, hexact.1 ⟨hdata, hne⟩⟩

/-- Nothing is reported while accepted bytes are not confirmed. -/
theorem report_too_early : ¬ ∀ (config : Config) (moves : List Move) (s : System), Run (fresh config) moves s →
    (∀ m ∈ moves, m.IsNonBlocking) → s.transportPending = false → s.hasData = false →
    ((ledger moves).settled.flatMap accepted).Subperm (confirmed moves) := by
  intro h
  obtain ⟨moves, s, run, hnb, hpending, hdata, haccepted, hconfirmed⟩ := Run.exists_of_follow (fresh {})
    [.call 0 (.add { bytes := ⟨#[97, 98]⟩ } .nonBlocking), .run 0, .run 0, .resume 0, .run 0, .run 0,
      .call 0 (.add { bytes := ⟨#[99, 100]⟩ } .nonBlocking), .complete 1 0 (.ok 2), .run 1, .resume 1, .run 1]
    (P := fun moves s => (∀ m ∈ moves, m.IsNonBlocking) ∧ s.transportPending = false ∧ s.hasData = false ∧
      (ledger moves).settled.flatMap accepted = [97, 98, 99, 100] ∧ confirmed moves = [97, 98]) (by decide +kernel)
  have hle := (h {} moves s run hnb hpending hdata).length_le
  rw [haccepted, hconfirmed] at hle
  simp at hle

end System

end Outflow
