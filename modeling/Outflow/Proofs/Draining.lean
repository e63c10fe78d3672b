import Outflow.Proofs.Arrival
import Outflow.Proofs.Custody
import Outflow.Proofs.Locality
import Outflow.Proofs.Notices

/-! How a chain comes to its end. As long as nothing is added and the transport accepts something of each write, each
end of a write but the last one issues one more write with all that is left, and what is left gets less each time. -/
namespace Outflow

/-- The write is of the chain with marker `k`. -/
def Handed.isOf (k : MarkerId) : Handed → Bool
  | chain _ flight => flight.marker == k
  | trip _ | stray _ => false

theorem Handed.countP_jobs (k : MarkerId) (h : Handed) :
    (↑(Tally.jobs.ofHanded h) : Multiset Job).countP (fun job => job.flight.marker = k) = (h.isOf k).toNat := by
  cases h with
  | chain write flight =>
    rw [Tally.ofHanded_chain, Tally.jobs_ofJob, Multiset.coe_countP, List.countP_singleton, isOf]
    by_cases hk : flight.marker = k
    · simp [hk]
    · simp [hk, beq_eq_false_iff_ne.2 hk]
  | trip buf | stray buf => rfl

def Frame.awaitsRoom : Frame → Bool
  | awaitingRoom _ _ _ => true
  | _ => false

namespace System

variable {config : Config} {s s' : System} {earlier moves : List Move} {a : Action} {sig : Option Signal}
  {t : ThreadId} {w : WriteId} {write : Write} {flight flight' : Flight} {frame : Frame} {rest : List Frame}
  {k : MarkerId} {whole acked : List UInt8}

/-- The thread hands the write over next, or when it comes back to its loop. -/
def HandsOver (s : System) (t : ThreadId) (job : Job) : Prop :=
  (∃ rest, (s.thread t).stack = .carrying job :: rest) ∨
    (job ∈ (s.thread t).deferral.waiting ∧ .driving ∈ (s.thread t).stack)

theorem exists_handsOver (hl : s.Looped) (hs : s.Stacked) {job : Job} (hj : job ∈ s.aboard .jobs) :
    ∃ t, s.HandsOver t job := by
  obtain ⟨t, th, hfind, hjob⟩ := (Table.mem_collect _ _).1 (Multiset.mem_coe.1 hj)
  obtain rfl : s.thread t = th := by simp [thread, hfind]
  refine ⟨t, ?_⟩
  simp only [Tally.ofThread, List.mem_append, List.mem_flatMap, Tally.jobs_ofFrame, Tally.jobs_ofJob,
    List.mem_singleton, exists_eq_right'] at hjob
  obtain ⟨f, hf, hcarries⟩ | hwaits := hjob
  · obtain rfl : f = .carrying job := by cases f <;> simp_all [Frame.jobs]
    cases hst : (s.thread t).stack with
    | nil => simp [hst] at hf
    | cons top rest =>
      rw [hst, List.mem_cons] at hf
      obtain rfl | hbelow := hf
      · exact .inl ⟨rest, hst⟩
      · cases hs.below hst _ hbelow
  · cases hd : (s.thread t).deferral with
    | idle => simp [hd] at hwaits
    | running queue =>
      obtain ⟨above, below, hst, -⟩ := hl.exists_driving hd
      exact .inr ⟨hwaits, by simp [hst]⟩

theorem HandsOver.sound {capacity : Nat} {job : Job} (h : s.HandsOver t job) (hsound : s.Sound capacity) :
    job.write.WellFormed capacity := by
  obtain ⟨rest, hst⟩ | ⟨hwaits, -⟩ := h
  · exact sound_frame hsound hst
  · exact (hsound.threads t).waiting job hwaits

/-! ### Writes that are issued and writes that end -/

/-- A write of the chain ends. -/
def Move.settles (k : MarkerId) (m : Move) : Bool :=
  match m.action with
  | .complete _ w _ => (m.before.outstanding.find? w).any (Handed.isOf k)
  | _ => false

/-- A write of the chain goes to the transport. -/
def Move.issues (k : MarkerId) (m : Move) : Bool :=
  match m.signal with
  | some (.handed w) => (m.after.outstanding.find? w).any (Handed.isOf k)
  | _ => false

/-- How many writes of the chain have ended. -/
def ended (k : MarkerId) (moves : List Move) : Nat := moves.countP (Move.settles k)

/-- How many writes of the chain went to the transport. -/
def issued (k : MarkerId) (moves : List Move) : Nat := moves.countP (Move.issues k)

theorem ended_snoc (k : MarkerId) (moves : List Move) (m : Move) :
    ended k (moves ++ [m]) = ended k moves + (m.settles k).toNat :=
  countP_snoc _ _ _

theorem issued_snoc (k : MarkerId) (moves : List Move) (m : Move) :
    issued k (moves ++ [m]) = issued k moves + (m.issues k).toNat :=
  countP_snoc _ _ _

/-- How many writes of the chain are at the transport. -/
def afloat (s : System) (k : MarkerId) : Nat :=
  (s.outstanding.census Tally.jobs.ofHanded).countP fun job => job.flight.marker = k

theorem afloat_handed (hnum : s.Numbered) {h : Handed} (hout : s'.outstanding = s.outstanding.set s.nextWrite h) :
    s'.afloat k + (Move.settles k ⟨s, .run t, s', some (.handed s.nextWrite)⟩).toNat
      = s.afloat k + (Move.issues k ⟨s, .run t, s', some (.handed s.nextWrite)⟩).toNat := by
  have hissued : Move.issues k ⟨s, .run t, s', some (.handed s.nextWrite)⟩ = h.isOf k := by
    simp [Move.issues, hout, Table.find?_set]
  rw [hissued, afloat, afloat, hout, Table.census_set,
    Table.census_erase_of_find?_eq_none _ _ _ (hnum.outstanding _ (Nat.le_refl _)), Multiset.countP_add,
    Handed.countP_jobs, Nat.add_comm (h.isOf k).toNat]
  rfl

theorem afloat_ended {outcome : Outcome} {h : Handed} (hw : s.outstanding.find? w = some h)
    (hout : s'.outstanding = s.outstanding.erase w) (hsig : ∀ v, sig ≠ some (.handed v)) :
    s'.afloat k + (Move.settles k ⟨s, .complete t w outcome, s', sig⟩).toNat
      = s.afloat k + (Move.issues k ⟨s, .complete t w outcome, s', sig⟩).toNat := by
  have hsettled : Move.settles k ⟨s, .complete t w outcome, s', sig⟩ = h.isOf k := by
    simp [Move.settles, hw]
  have hissued : Move.issues k ⟨s, .complete t w outcome, s', sig⟩ = false := by
    unfold Move.issues
    split
    · next v hv => exact absurd hv (hsig v)
    · rfl
  rw [hsettled, hissued, afloat, afloat, hout, s.outstanding.census_eq w, hw, Multiset.countP_add,
    Option.elim_some, Handed.countP_jobs]
  exact Nat.add_comm _ _

/-- A write of the chain that was issued is at the transport until it ends. -/
theorem afloat_step (hnum : s.Numbered) (h : Step s a s' sig) (hanswered : ∀ w, a ≠ .abandon w) :
    s'.afloat k + (Move.settles k ⟨s, a, s', sig⟩).toNat = s.afloat k + (Move.issues k ⟨s, a, s', sig⟩).toNat := by
  cases h with
  | driven _ _ | carried _ _ | tripBegun _ _ => exact afloat_handed hnum rfl
  | strayEnded _ hw | tripEnded _ hw | chainStale _ hw _ | chainQuiet _ hw _ | chainTold _ hw _ | chainGoesOn _ hw _
  | chainFailed _ hw _ => exact afloat_ended hw rfl (by simp)
  | strayForgotten _ | tripForgotten _ | chainForgotten _ => exact absurd rfl (hanswered _)
  | @tripExpired t rest w sweep hst hans =>
    have hsame : (s.disown w).tally .jobs = s.tally .jobs := tally_disown _ s w
    rw [tally_eq_aboard, tally_eq_aboard, aboard_disown, add_right_inj] at hsame
    exact congrArg (Multiset.countP fun job => job.flight.marker = k) hsame
  | _ => rfl

/-- Nothing is added, no call blocks, the connection is not recycled, and the transport accepts something of each write
that it answers. -/
def Move.Drains (m : Move) : Prop :=
  match m.action with
  | .call _ c => c.data = [] ∧ c.isBlocking = false ∧ c.isRecycle = false
  | .run t => (m.before.thread t).stack.head?.any Frame.awaitsRoom = false
  | .complete _ _ outcome => 0 < outcome.count
  | .abandon _ => False
  | _ => True

instance : DecidablePred Move.Drains
  | ⟨_, .call _ _, _, _⟩ => inferInstanceAs (Decidable (_ ∧ _ ∧ _))
  | ⟨_, .run _, _, _⟩ => inferInstanceAs (Decidable (_ = _))
  | ⟨_, .complete _ _ _, _, _⟩ => inferInstanceAs (Decidable (_ < _))
  | ⟨_, .abandon _, _, _⟩ => inferInstanceAs (Decidable False)
  | ⟨_, .expire _, _, _⟩ | ⟨_, .resume _, _, _⟩ | ⟨_, .transportPending _, _, _⟩ => inferInstanceAs (Decidable True)

theorem Move.Drains.isPrompt {m : Move} (h : m.Drains) : m.IsPrompt := by
  obtain ⟨before, a, after, sig⟩ := m
  cases a with
  | call t c => exact h.2.1
  | _ => trivial

theorem Move.Drains.recyclesFree {m : Move} (h : m.Drains) : m.RecyclesFree := by
  obtain ⟨before, a, after, sig⟩ := m
  cases a with
  | call t c =>
    cases c with
    | recycle => cases h.2.2
    | _ => trivial
  | _ => trivial

theorem Move.Drains.isAnswered {m : Move} (h : m.Drains) : m.IsAnswered := by
  obtain ⟨before, a, after, sig⟩ := m
  cases a with
  | abandon w => exact h.elim
  | _ => trivial

/-! ### What is left -/

/-- The chain has one write, which carries all that the transport has not accepted, if not on its first way there. Or it
is over, and all was accepted. -/
inductive Draining (whole : List UInt8) (flight : Flight) (s : System) (acked : List UInt8) : Prop
  | underWay (write : Write) (hjob : ⟨write, flight⟩ ∈ s.chains)
      (hleft : acked ++ (write.unsent ++ s.conn.store.contents) = whole)
      (hswept : acked ≠ [] → s.conn.store.contents = [])
  | finished (hfree : s.conn.permit.held = false) (hempty : s.conn.store.contents = [])
      (hgone : ∀ job ∈ s.tally .jobs, job.flight.marker ≠ flight.marker) (hall : acked = whole)

namespace Draining

variable (hd : Draining whole flight s acked)

include hd

theorem aside (hpermit : s'.conn.permit = s.conn.permit) (hjobs : s'.tally .jobs = s.tally .jobs)
    (hcontents : s'.conn.store.contents = s.conn.store.contents) (hack : s.acknowledgedBy flight.marker a = []) :
    Draining whole flight s' (acked ++ s.acknowledgedBy flight.marker a) := by
  rw [hack, List.append_nil]
  cases hd with
  | underWay write hjob hleft hswept =>
    exact .underWay write (chains_congr hpermit hjobs ▸ hjob) (hcontents ▸ hleft) (hcontents ▸ hswept)
  | finished hfree hempty hgone hall => exact .finished (hpermit ▸ hfree) (hcontents ▸ hempty) (hjobs ▸ hgone) hall

/-- Only a chain that is over leaves the permit free. -/
theorem of_free (hfree : s.conn.permit.held = false) : s.conn.store.contents = [] ∧
    (∀ job ∈ s.tally .jobs, job.flight.marker ≠ flight.marker) ∧ acked = whole := by
  cases hd with
  | underWay write hjob hleft hswept =>
    have hheld := (Permit.isCurrent_iff.1 (Multiset.mem_filter.1 hjob).2).1
    rw [hfree] at hheld
    cases hheld
  | finished _ hempty hgone hall => exact ⟨hempty, hgone, hall⟩

/-- No chain begins, since nothing is stored. -/
theorem not_begun {capacity : Nat} (hsound : s.Sound capacity) (hfree : s.conn.permit.held = false) {store : Store}
    (htake : s.conn.takeWrite = (store, some write)) : False :=
  absurd ((unsent_takeWrite hsound.store.wellFormed htake).1.trans (hd.of_free hfree).1)
    (sound_takeWrite hsound.store htake).2.unsent_ne_nil

/-- No frame has the permit in hand. -/
theorem not_holder (hman : s.Manned) (hst : (s.thread t).stack = frame :: rest) {g : Guard} (hg : g ∈ frame.holders) :
    False := by
  have hmem : g ∈ s.tally .waiters := by
    rw [tally_pop _ hst]
    exact Multiset.mem_add.2 (.inl hg)
  cases hd with
  | underWay write hjob hleft hswept => simp [(hman.chains_of_mem hjob).2] at hmem
  | finished hfree hempty hgone hall =>
    have hcard := hman
    rw [Manned, hfree] at hcard
    have hnone : s.tally .waiters = 0 := Multiset.card_eq_zero.1 (by simp at hcard; simp [hcard])
    simp [hnone] at hmem

/-- A write that has a say when it ends is the one of the chain. -/
theorem of_current (hman : s.Manned) (hw : s.outstanding.find? w = some (.chain write flight'))
    (hcurrent : s.conn.permit.isCurrent flight'.guard = true) : flight' = flight ∧
    acked ++ (write.unsent ++ s.conn.store.contents) = whole ∧ (acked ≠ [] → s.conn.store.contents = []) := by
  cases hd with
  | underWay write' hjob hleft hswept =>
    have hmem := mem_chains_of_outstanding hw hcurrent
    rw [(hman.chains_of_mem hjob).1, Multiset.mem_singleton] at hmem
    cases hmem
    exact ⟨rfl, hleft, hswept⟩
  | finished hfree hempty hgone hall => simp [Permit.isCurrent, hfree] at hcurrent

/-- A write that has no say when it ends is of another chain. -/
theorem marker_ne (hdistinct : s.Distinct)
    (hw : s.outstanding.find? w = some (.chain write flight'))
    (hstale : s.conn.permit.isCurrent flight'.guard = false) : flight'.marker ≠ flight.marker := by
  intro hk
  cases hd with
  | underWay write' hjob hleft hswept =>
    obtain ⟨hmem, hcurrent⟩ := Multiset.mem_filter.1 hjob
    cases hdistinct.eq_of_marker (mem_jobs_of_outstanding hw) hmem hk
    simp [hstale] at hcurrent
  | finished hfree hempty hgone hall => exact hgone _ (mem_jobs_of_outstanding hw) hk

end Draining

theorem draining_step {capacity : Nat} (hnum : s.Numbered) (hsound : s.Sound capacity) (hman : s.Manned)
    (hdistinct : s.Distinct)
    (hnb : ∀ f ∈ s.tally .calls, f.isBlocking = false) (hd : Draining whole flight s acked) (h : Step s a s' sig)
    (hdrains : Move.Drains ⟨s, a, s', sig⟩) :
    Draining whole flight s' (acked ++ s.acknowledgedBy flight.marker a) := by
  have hfresh := hnum.outstanding _ (Nat.le_refl _)
  have hwf := hsound.store.wellFormed
  cases h with
  | addNothing _ _ | addRefused _ _ _ | flushRefused _ _ | flushHeld _ _ _ | registered _ _ | reset _
  | transportPending => exact hd.aside rfl rfl rfl rfl
  | addBlocking _ hsrc _ | addGranted _ hsrc _ _ | addQueued _ hsrc _ _ _ | addFull _ hsrc _ _ _ =>
    exact absurd hdrains.1 (Chunk.hasRemaining_iff_unsent.1 hsrc)
  | flushAwaits _ _ _ | flushCollects _ _ _ => cases hdrains.2.1
  | recycle _ => cases hdrains.2.2
  | flushNothing _ _ hfree _ =>
    obtain ⟨hempty, hgone, hall⟩ := hd.of_free hfree
    refine .finished ?_ hempty hgone ((List.append_nil _).trans hall)
    simp [Permit.release, Permit.isCurrent, Permit.grant, Permit.nextGuard]
  | flushBegun _ _ hfree htake => exact (hd.not_begun hsound hfree htake).elim
  | registeredFree _ _ => exact hd.aside rfl (by simp [tally_push, Frame.jobs]) rfl rfl
  | answered hst | issued hst | roomExpired hst _ | transportReturned hst | notified hst =>
    exact hd.aside rfl (by simp [tally_pop _ hst, Frame.jobs]) rfl rfl

  | attached hst | told hst | toldFailure hst =>
    exact hd.aside rfl (by simp [tally_pop _ hst, tally_replace, Frame.jobs]) rfl rfl
  | driven hst hq => exact hd.aside rfl (by simp [tally_driven _ hfresh hst hq, Frame.jobs]) rfl rfl
  | driveDone hst hq => exact hd.aside rfl (by simp [tally_driveDone _ hq, tally_pop _ hst, Frame.jobs]) rfl rfl
  | carried hst hq =>
    exact hd.aside rfl (by simp [tally_carried _ hfresh hq, tally_pop _ hst, Frame.jobs]) rfl rfl
  | deferred hst hq => exact hd.aside rfl (by simp [tally_deferred _ hq, tally_pop _ hst, Frame.jobs]) rfl rfl
  | startedNothing hst _ | started hst _ | admittedLate hst _ | admitted hst _ | refused hst =>
    exact (hd.not_holder hman hst (List.mem_singleton_self _)).elim
  | roomMade hst _ => simp [Move.Drains, hst, Frame.awaitsRoom] at hdrains
  | strayEnded _ hw | tripEnded _ hw =>
    exact hd.aside rfl (by simp [tally_endWrite _ hw]) rfl (acknowledgedBy_other hw rfl _ _)
  | chainStale _ hw hset =>
    have hne := hd.marker_ne hdistinct hw hset.not_isCurrent
    rw [acknowledgedBy_chain hw, if_neg hne, List.append_nil]
    cases hd with
    | underWay write hjob hleft hswept =>
      exact .underWay write (chains_endWrite hw hset.not_isCurrent ▸ hjob) hleft hswept
    | finished hfree hempty hgone hall =>
      refine .finished hfree hempty (fun job hj => hgone job ?_) hall
      rw [tally_endWrite _ hw]
      exact Multiset.mem_add.2 (.inr hj)
  | chainQuiet _ hw hset | chainTold _ hw hset =>
    obtain ⟨rfl, hleft, hswept⟩ := hd.of_current hman hw (hset.isCurrent (by simp))
    obtain ⟨count, hwritten, hcurrent, hdrop, hempty, hempty'⟩ := hset.unsent_finished hwf
    refine .finished ?_ hempty' ?_ ?_
    · simp [hset.permit, Permit.release, hcurrent]
    · simpa [tally_push, Frame.jobs] using hdistinct.marker_ne_of_endWrite hw
    · rw [acknowledgedBy_chain hw, if_pos rfl, Outcome.written_eq_ok hwritten,
        List.take_of_length_le (List.drop_eq_nil_iff.1 hdrop), ← hleft, hempty, List.append_nil]
  | @chainGoesOn t w outcome write flight conn next _ hw hset =>
    obtain ⟨rfl, hleft, hswept⟩ := hd.of_current hman hw (hset.isCurrent (by simp))
    obtain ⟨count, hwritten, hcurrent, hnext, hempty'⟩ := hset.unsent_reissue hwf
    refine .underWay next (Multiset.mem_filter.2 ⟨by simp [tally_push, Frame.jobs], ?_⟩) ?_ fun _ => hempty'
    · exact (congrArg (fun p => p.isCurrent flight.guard) hset.permit).trans hcurrent
    · have hbytes : write.unsent.take count ++ next.unsent = write.unsent ++ s.conn.store.contents := by
        rw [hnext, ← List.append_assoc, List.take_append_drop]
      rw [acknowledgedBy_chain hw, if_pos rfl, Outcome.written_eq_ok hwritten, ← hleft]
      simp [hempty', hbytes]
  | chainFailed _ _ hset =>
    have hcount : 0 < _ := hdrains
    rw [Outcome.count_eq_zero hset.written_failed] at hcount
    exact absurd hcount (Nat.lt_irrefl 0)
  | strayForgotten _ | tripForgotten _ | chainForgotten _ => exact hdrains.elim
  | addDone hst _ | absorbed hst _ _ | filledBehind hst _ _ _ | filled hst _ _ _ | chainAwaited hst _ | yielded hst
  | collectedLate hst _ | collected hst _
  | sweptChunk hst _ | sweptPrimary hst _ _ | sweptFlush hst _ _ _ | sweptAdd hst _ _ _ | tripBegun hst _
  | tripsDone hst _ | tripDropped hst _ | tripFailed hst _ _ | tripDone hst _ _ | chainExpired hst _
  | tripExpired hst _ => exact (not_blocking_top hnb hst rfl rfl).elim

/-- No other chain begins meanwhile. -/
theorem Draining.next_eq {capacity : Nat} (hd : Draining whole flight s acked) (hsound : s.Sound capacity)
    (hman : s.Manned) (h : Step s a s' sig) : s'.markers.next = s.markers.next := by
  cases h with
  | flushBegun _ _ hfree htake => exact (hd.not_begun hsound hfree htake).elim
  | started hst _ => exact (hd.not_holder hman hst (List.mem_singleton_self _)).elim
  | _ => rfl

/-- Each end of a write of the chain confirms a byte of it at least. -/
theorem settles_le {capacity : Nat} (hsound : s.Sound capacity) (hdrains : Move.Drains ⟨s, a, s', sig⟩) :
    (Move.settles k ⟨s, a, s', sig⟩).toNat ≤ (s.acknowledgedBy k a).length := by
  cases a with
  | complete t w outcome =>
    cases hw : s.outstanding.find? w with
    | none => simp [Move.settles, hw]
    | some handed =>
      cases handed with
      | trip buf | stray buf => simp [Move.settles, hw, Handed.isOf]
      | chain write flight =>
        rw [acknowledgedBy_chain hw]
        by_cases hk : flight.marker = k
        · have hcount : 0 < outcome.count := hdrains
          have hlength := List.length_pos_iff.2 (hsound.outstanding w _ hw).unsent_ne_nil
          simp [Move.settles, hw, Handed.isOf, hk]
          omega
        · simp [Move.settles, hw, Handed.isOf, hk]
  | _ => exact Nat.zero_le _

/-- A run without blocking calls in which the transport answers each write. It has confirmed `acked` of the chain. -/
structure Ongoing (config : Config) (moves : List Move) (s : System) (whole : List UInt8) (flight : Flight)
    (acked : List UInt8) : Prop where
  run : Run (fresh config) moves s
  keeps : KeepsCount moves
  calls : ∀ m ∈ moves, m.IsPrompt ∧ m.RecyclesFree
  answered : ∀ m ∈ moves, m.IsAnswered
  draining : Draining whole flight s acked

namespace Ongoing

variable (ho : Ongoing config moves s whole flight acked)

include ho

theorem sound : s.Sound config.bufferSize := sound_run ho.run

theorem manned : s.Manned := manned_run ho.run ho.keeps fun m hm => (ho.calls m hm).2

theorem distinct : s.Distinct := distinct_run ho.run

theorem not_blocking : ∀ f ∈ s.tally .calls, f.isBlocking = false :=
  not_blocking_of_calls ho.run fun m hm _ _ ha => (ho.calls m hm).1.of_call ha

theorem snoc (h : s.perform a = some (s', sig)) (hdrains : Move.Drains ⟨s, a, s', sig⟩)
    (hk : KeepsCount (moves ++ [⟨s, a, s', sig⟩])) :
    Ongoing config (moves ++ [⟨s, a, s', sig⟩]) s' whole flight (acked ++ s.acknowledgedBy flight.marker a) where
  run := ho.run.snoc h
  keeps := hk
  calls := List.forall_mem_append.2 ⟨ho.calls, List.forall_mem_singleton.2 ⟨hdrains.isPrompt, hdrains.recyclesFree⟩⟩
  answered := List.forall_mem_append.2 ⟨ho.answered, List.forall_mem_singleton.2 hdrains.isAnswered⟩
  draining := draining_step (numbered_run ho.run) ho.sound ho.manned ho.distinct ho.not_blocking ho.draining
    (step_perform h) hdrains

end Ongoing

/-- How far the chain is after `moves`, of which it had one write at the transport before. -/
structure Tallied (flight : Flight) (moves : List Move) (s : System) : Prop where
  count : s.afloat flight.marker + ended flight.marker moves = issued flight.marker moves + 1
  confirmed : ended flight.marker moves ≤ (acknowledged flight.marker moves).length

theorem Tallied.acknowledged_ne_nil (h : Tallied flight moves s)
    (hsome : 0 < ended flight.marker moves) : acknowledged flight.marker moves ≠ [] :=
  List.length_pos_iff.1 (hsome.trans_le h.confirmed)

theorem tallied_run (ho : Ongoing config earlier s whole flight []) (hone : s.afloat flight.marker = 1)
    (later : Run s moves s') (hk : KeepsCount (earlier ++ moves)) (hdrains : ∀ m ∈ moves, m.Drains) :
    Ongoing config (earlier ++ moves) s' whole flight (acknowledged flight.marker moves) ∧ Tallied flight moves s' ∧
      s'.markers.next = s.markers.next := by
  induction later with
  | nil => exact ⟨by simpa [acknowledged] using ho, ⟨hone, Nat.zero_le _⟩, rfl⟩
  | @snoc moves s₁ a s₂ sig later h ih =>
    simp only [List.forall_mem_append, List.forall_mem_singleton] at hdrains
    rw [← List.append_assoc] at hk
    obtain ⟨ho₁, ⟨hcount, hconfirmed⟩, hnext⟩ := ih hk.left hdrains.1
    have hstep := step_perform h
    have hafloat := afloat_step (k := flight.marker) (numbered_run ho₁.run) hstep hdrains.2.isAnswered.kept
    have hends := settles_le (k := flight.marker) ho₁.sound hdrains.2
    refine ⟨?_, ⟨?_, ?_⟩, (ho₁.draining.next_eq ho₁.sound ho₁.manned hstep).trans hnext⟩
    · rw [← List.append_assoc, acknowledged_snoc]
      exact ho₁.snoc h hdrains.2 hk
    · rw [ended_snoc, issued_snoc]
      omega
    · rw [ended_snoc, acknowledged_snoc, List.length_append]
      exact Nat.add_le_add hconfirmed hends

/-- The chain is over, and everything is back as it was before any data. -/
structure Drained (s : System) (k : MarkerId) : Prop where
  free : s.conn.permit.held = false
  empty : s.conn.store.bufferedBytes = 0
  primary : ∃ p, s.conn.store.primary = some p ∧ p.hasRemaining = false
  gone : ∀ job ∈ s.collect .jobs, job.flight.marker ≠ k

theorem countP_jobs (hdistinct : s.Distinct) {job : Job} (hj : job ∈ s.tally .jobs) (hk : job.flight.marker = k) :
    (s.aboard .jobs).countP (fun other => other.flight.marker = k) + s.afloat k = 1 := by
  subst hk
  have hcount := Multiset.count_eq_one_of_mem hdistinct (Multiset.mem_map_of_mem _ hj)
  rw [Multiset.count_map] at hcount
  rw [afloat, ← Multiset.countP_add, ← tally_eq_aboard, Multiset.countP_eq_card_filter]
  simpa [eq_comm] using hcount

theorem afloat_eq_one (hdistinct : s.Distinct) (hw : s.outstanding.find? w = some (.chain write flight))
    (hk : flight.marker = k) : s.afloat k = 1 := by
  have hone := countP_jobs hdistinct (mem_jobs_of_outstanding hw) hk
  have hmem : ⟨write, flight⟩ ∈ s.outstanding.census Tally.jobs.ofHanded :=
    (Table.mem_collect _ _).2 ⟨w, _, hw, List.mem_singleton_self _⟩
  have hpos : 0 < s.afloat k := Multiset.countP_pos_of_mem hmem hk
  omega

theorem afloat_eq_zero (hgone : ∀ job ∈ s.tally .jobs, job.flight.marker ≠ k) : s.afloat k = 0 := by
  refine Multiset.countP_eq_zero.2 fun job hj => hgone job ?_
  rw [tally_eq_aboard]
  exact Multiset.mem_add.2 (.inr hj)

/-- A write of a chain is at the transport, or with a thread that hands it over. -/
theorem afloat_or_handsOver (hdistinct : s.Distinct) (hl : s.Looped)
    (hs : s.Stacked) {job : Job} (hj : job ∈ s.tally .jobs) :
    (∃ v, s.outstanding.find? v = some (.chain job.write job.flight)) ∧ s.afloat job.flight.marker = 1 ∨
      (∃ t, s.HandsOver t job) ∧ s.afloat job.flight.marker = 0 := by
  have hone := countP_jobs hdistinct hj rfl
  rw [tally_eq_aboard, Multiset.mem_add] at hj
  obtain haboard | hafloat := hj
  · have hpos : 0 < (s.aboard .jobs).countP (fun other => other.flight.marker = job.flight.marker) :=
      Multiset.countP_pos_of_mem haboard rfl
    exact .inr ⟨exists_handsOver hl hs haboard, by omega⟩
  · obtain ⟨v, handed, hv, hjob⟩ := (Table.mem_collect _ _).1 (Multiset.mem_coe.1 hafloat)
    cases handed with
    | chain write flight =>
      obtain rfl : job = ⟨write, flight⟩ := by simpa using hjob
      exact .inl ⟨⟨v, hv⟩, afloat_eq_one hdistinct hv rfl⟩
    | trip buf | stray buf => simp at hjob

/-- What the transport has not accepted of a chain with `write`, counting what is stored. -/
def unaccepted (s : System) (write : Write) : List UInt8 := write.unsent ++ s.conn.store.contents

/-- A write that is at the transport after the first one carries everything. -/
theorem Draining.unsent_next {next : Write} (hd : Draining whole flight s acked)
    (hdistinct : s.Distinct)
    (hw : s.outstanding.find? w = some (.chain next flight')) (hmarker : flight'.marker = flight.marker)
    (hacked : acked ≠ []) : acked ++ next.unsent = whole := by
  cases hd with
  | underWay write hjob hleft hswept =>
    cases hdistinct.eq_of_marker (mem_jobs_of_outstanding hw) (Multiset.mem_filter.1 hjob).1 hmarker
    rw [← hleft, hswept hacked, List.append_nil]
  | finished hfree hempty hgone hall => exact absurd hmarker (hgone _ (mem_jobs_of_outstanding hw))

namespace Ongoing

variable (ho : Ongoing config moves s whole flight acked)

include ho

/-- The chain has a write under way, with bytes that the transport has not accepted. -/
theorem exists_write (hheld : s.conn.permit.held = true) :
    ∃ next, s.chains = {⟨next, flight⟩} ∧ next.unsent ≠ [] ∧ acked ++ s.unaccepted next = whole ∧
      (acked ≠ [] → s.conn.store.contents = []) ∧
      ((∃ v, s.outstanding.find? v = some (.chain next flight)) ∧ s.afloat flight.marker = 1 ∨
        (∃ t, s.HandsOver t ⟨next, flight⟩) ∧ s.afloat flight.marker = 0) := by
  cases ho.draining with
  | underWay next hjob hleft hswept =>
    have hwhere := afloat_or_handsOver ho.distinct (looped_run ho.run) (stacked_run ho.run)
      (Multiset.mem_filter.1 hjob).1
    refine ⟨next, (ho.manned.chains_of_mem hjob).1, ?_, hleft, hswept, hwhere⟩
    obtain ⟨⟨v, hv⟩, -⟩ | ⟨⟨t, ht⟩, -⟩ := hwhere
    · exact (ho.sound.outstanding v _ hv).unsent_ne_nil
    · exact (ht.sound ho.sound).unsent_ne_nil
  | finished hfree hempty hgone hall =>
    rw [hfree] at hheld
    cases hheld

theorem drained (hfree : s.conn.permit.held = false) : s.Drained flight.marker := by
  obtain ⟨hempty, hgone, -⟩ := ho.draining.of_free hfree
  refine ⟨hfree, ?_, (store_of_free ho.run ho.keeps ho.calls ho.answered hfree).1, hgone⟩
  exact (Store.contents_eq_nil_iff ho.sound.store.wellFormed).1 hempty

end Ongoing

/-! ### The way to the end -/

/-- Threads go on and writes end, without calls. -/
structure Onward (s : System) (moves : List Move) (s' : System) : Prop where
  run : Run s moves s'
  drains : ∀ m ∈ moves, m.Drains
  no_calls : ∀ m ∈ moves, ∀ t c, m.action ≠ .call t c

theorem Onward.nil : Onward s [] s := ⟨.nil, by simp, by simp⟩

theorem Onward.one (h : s.perform a = some (s', sig)) (hdrains : Move.Drains ⟨s, a, s', sig⟩)
    (hcall : ∀ t c, a ≠ .call t c) : Onward s [⟨s, a, s', sig⟩] s' :=
  ⟨Run.nil.snoc h, List.forall_mem_singleton.2 hdrains, List.forall_mem_singleton.2 hcall⟩

theorem Onward.of_run (h : s.perform (.run t) = some (s', sig)) (hst : (s.thread t).stack = frame :: rest)
    (hf : frame.awaitsRoom = false) : Onward s [⟨s, .run t, s', sig⟩] s' :=
  .one h (by simp [Move.Drains, hst, hf]) (by simp)

theorem Onward.append {mid : System} {later : List Move} (h : Onward s moves mid) (h' : Onward mid later s') :
    Onward s (moves ++ later) s' :=
  ⟨h.run.append h'.run, List.forall_mem_append.2 ⟨h.drains, h'.drains⟩,
    List.forall_mem_append.2 ⟨h.no_calls, h'.no_calls⟩⟩

/-- Nobody gets the permit. -/
theorem generation_step (hnb : ∀ f ∈ s.tally .calls, f.isBlocking = false) (h : Step s a s' sig)
    (hdrains : Move.Drains ⟨s, a, s', sig⟩) (hcall : ∀ t c, a ≠ .call t c) :
    s'.conn.permit.generation = s.conn.permit.generation := by
  cases h with
  | addQueued _ _ _ _ _ | addGranted _ _ _ _ | flushBegun _ _ _ _ | flushNothing _ _ _ _ | recycle _ =>
    exact absurd rfl (hcall _ _)
  | roomMade hst _ => simp [Move.Drains, hst, Frame.awaitsRoom] at hdrains
  | chainAwaited hst _ | yielded hst => exact (not_blocking_top hnb hst rfl rfl).elim
  | chainForgotten _ => exact hdrains.elim
  | startedNothing _ _ | refused _ => exact Permit.generation_release _ _
  | chainQuiet _ _ hset | chainTold _ _ hset | chainFailed _ _ hset =>
    exact (congrArg Permit.generation hset.permit).trans (Permit.generation_release _ _)
  | chainGoesOn _ _ hset => exact congrArg Permit.generation hset.permit
  | _ => rfl

theorem Ongoing.onward {later : List Move} (ho : Ongoing config moves s whole flight acked) (h : Onward s later s') :
    Ongoing config (moves ++ later) s' whole flight (acked ++ acknowledged flight.marker later) := by
  obtain ⟨run, hdrains, hcall⟩ := h
  induction run with
  | nil => simpa [acknowledged] using ho
  | @snoc later s₁ a s₂ sig run h ih =>
    simp only [List.forall_mem_append, List.forall_mem_singleton] at hdrains hcall
    have ho₁ := ih hdrains.1 hcall.1
    have hsame := generation_step ho₁.not_blocking (step_perform h) hdrains.2 hcall.2
    rw [← List.append_assoc, acknowledged_snoc, ← List.append_assoc]
    refine ho₁.snoc h hdrains.2 (ho₁.keeps.imp (fun hfew => ?_) fun hkept => ?_)
    · simpa [renewals, Move.renewals, Permit.renewals, hsame] using hfew
    · exact List.forall_mem_append.2 ⟨hkept, List.forall_mem_singleton.2 fun t => hcall.2 t _⟩

/-- The notifier returns. -/
theorem exists_noticed {deferral : Deferral Job} {event : Event}
    (hth : s.thread t = { stack := .notifying event :: rest, deferral }) : ∃ later s', Onward s later s' ∧
      s'.thread t = { stack := rest, deferral } := by
  have hnext : s.perform (.resume t) = some (s.setStack t rest, none) := by simp [perform, resume, hth]
  exact ⟨_, _, .one hnext trivial (by simp), by simp [hth]⟩

/-- A failure is attached, and then the notifier told. -/
theorem exists_attached {deferral : Deferral Job} {err : Error}
    (hth : s.thread t = { stack := .attaching err :: rest, deferral }) : ∃ later s', Onward s later s' ∧
      s'.thread t = { stack := rest, deferral } := by
  have hnext : s.perform (.resume t)
      = some (s.setStack t (.notifying (.error err) :: rest), some (.notify (.error err))) := by
    simp [perform, resume, hth]
  have hnoticed : (s.setStack t (.notifying (.error err) :: rest)).thread t
      = { stack := .notifying (.error err) :: rest, deferral } := by simp [hth]
  obtain ⟨later, s', honward, hs'⟩ := exists_noticed hnoticed
  exact ⟨_, s', (Onward.one hnext trivial (by simp)).append honward, hs'⟩

/-- What a thread has to tell it tells. -/
theorem exists_told {deferral : Deferral Job} {event : Event}
    (hth : s.thread t = { stack := .telling event :: rest, deferral }) : ∃ later s', Onward s later s' ∧
      s'.thread t = { stack := rest, deferral } := by
  have hst : (s.thread t).stack = .telling event :: rest := by rw [hth]
  have hnext : s.perform (.run t) = some (s.runTelling t rest event) := by simp [perform, System.run, hst]
  obtain ⟨later, s', honward, hs'⟩ : ∃ later s', Onward (s.runTelling t rest event).1 later s' ∧
      s'.thread t = { stack := rest, deferral } := by
    cases event with
    | writable =>
      have hnoticed : (s.setStack t (.notifying .writable :: rest)).thread t
          = { stack := .notifying .writable :: rest, deferral } := by simp [hth]
      exact exists_noticed hnoticed
    | error err =>
      have hattached : (s.setStack t (.attaching err :: rest)).thread t
          = { stack := .attaching err :: rest, deferral } := by simp [hth]
      exact exists_attached hattached
  exact ⟨_, s', (Onward.of_run hnext hst rfl).append honward, hs'⟩

/-- A thread with a loop under way gets rid of its innermost frame, if that is not the loop. -/
theorem Ongoing.exists_unwound (ho : Ongoing config moves s whole flight acked) (hheld : s.conn.permit.held = true)
    {queue : List Job} (hth : s.thread t = { stack := frame :: rest, deferral := .running queue })
    (hf : frame.isDriving = false) : ∃ later s' more, Onward s later s' ∧
      s'.thread t = { stack := rest, deferral := .running (queue ++ more) } := by
  have hst : (s.thread t).stack = frame :: rest := by rw [hth]
  have hpopped : (s.setStack t rest).thread t = { stack := rest, deferral := .running (queue ++ []) } := by
    simp [hth]
  cases frame with
  | inTransport w =>
    have hnext : s.perform (.resume t) = some (s.setStack t rest, none) := by simp [perform, resume, hst]
    exact ⟨_, _, [], .one hnext trivial (by simp), hpopped⟩
  | notifying event =>
    obtain ⟨later, s', honward, hs'⟩ := exists_noticed hth
    exact ⟨later, s', [], honward, by simpa using hs'⟩
  | attaching err =>
    obtain ⟨later, s', honward, hs'⟩ := exists_attached hth
    exact ⟨later, s', [], honward, by simpa using hs'⟩
  | telling event =>
    obtain ⟨later, s', honward, hs'⟩ := exists_told hth
    exact ⟨later, s', [], honward, by simpa using hs'⟩
  | answering reply =>
    have hnext : s.perform (.run t) = some (s.setStack t rest, some (.replied reply)) := by
      simp [perform, System.run, hst, answer]
    exact ⟨_, _, [], .of_run hnext hst rfl, hpopped⟩
  | issuing m starter =>
    have hnext : s.perform (.run t) = some ((s.setStack t rest).setMarkers (s.markers.exit m),
        some (.replied (starter.reply s.hasData))) := by
      simp [perform, System.run, hst]
      rfl
    exact ⟨_, _, [], .of_run hnext hst rfl, hpopped⟩
  | carrying job =>
    exact ⟨_, _, [job], .of_run (perform_deferred hth) hst rfl, by simp [thread_setThread]⟩
  | awaitingRoom src buffered limit =>
    have hnext : s.perform (.expire t)
        = some (s.setStack t rest, some (.replied (.refused (.overloaded buffered limit)))) := by
      simp [perform, expire, hst, hheld, answer]
    exact ⟨_, _, [], .one hnext trivial (by simp), hpopped⟩
  | driving => cases hf
  | starting starter g | admitted src g | refusing err g =>
    exact (ho.draining.not_holder ho.manned hst (List.mem_singleton_self _)).elim
  | adding src | awaitingChain goal | yielding goal g | collecting goal | sweeping sweep | writing buf sweep
  | awaitingReply w sweep => exact (not_blocking_top ho.not_blocking hst rfl rfl).elim

theorem mem_jobs_of_waiting {job : Job} (hwaits : job ∈ (s.thread t).deferral.waiting) : job ∈ s.tally .jobs := by
  rw [tally_eq _ s t]
  refine Multiset.mem_add.2 (.inl (List.mem_append_right _ ?_))
  simpa using hwaits

theorem Ongoing.held_of_waiting {job : Job} (ho : Ongoing config moves s whole flight acked)
    (hwaits : job ∈ (s.thread t).deferral.waiting) (hmarker : job.flight.marker = flight.marker) :
    s.conn.permit.held = true := by
  by_contra hfree
  exact (ho.draining.of_free (by simpa using hfree)).2.1 job (mem_jobs_of_waiting hwaits) hmarker

/-- A thread comes back to its loop. -/
theorem Ongoing.exists_looping {job : Job} (hmarker : job.flight.marker = flight.marker) {above below : List Frame}
    {queue : List Job} (ho : Ongoing config moves s whole flight acked)
    (hth : s.thread t = { stack := above ++ .driving :: below, deferral := .running queue }) (hjob : job ∈ queue)
    (habove : ∀ f ∈ above, f.isDriving = false) : ∃ later s' more, Onward s later s' ∧
      s'.thread t = { stack := .driving :: below, deferral := .running (queue ++ more) } := by
  induction above generalizing moves s acked queue with
  | nil => exact ⟨[], s, [], .nil, by simpa using hth⟩
  | cons f above ih =>
    rw [List.forall_mem_cons] at habove
    have hheld := ho.held_of_waiting (t := t) (by simpa [hth] using hjob) hmarker
    obtain ⟨first, mid, more, honward, hmid⟩ := ho.exists_unwound hheld hth habove.1
    obtain ⟨later, s', more', honward', hs'⟩ :=
      ih (ho.onward honward) hmid (List.mem_append_left _ hjob) habove.2
    exact ⟨first ++ later, s', more ++ more', honward.append honward', by rw [hs', List.append_assoc]⟩

/-- A write that waits for a loop is handed over, after those that wait in front of it. -/
theorem Ongoing.exists_handed_of_waiting {job : Job} (hmarker : job.flight.marker = flight.marker)
    {before after : List Job} {above below : List Frame} (ho : Ongoing config moves s whole flight acked)
    (hth : s.thread t = { stack := above ++ .driving :: below, deferral := .running (before ++ job :: after) })
    (habove : ∀ f ∈ above, f.isDriving = false) : ∃ later s', Onward s later s' ∧
      ∃ v, s'.outstanding.find? v = some (.chain job.write job.flight) := by
  induction before generalizing moves s acked above after with
  | nil =>
    obtain ⟨first, mid, more, honward, hmid⟩ := ho.exists_looping hmarker hth (by simp) habove
    have hnext : Onward mid _ _ := .of_run (perform_driven hmid) (congrArg Thread.stack hmid) rfl
    exact ⟨_, _, honward.append hnext, mid.nextWrite, by simp [Table.find?_set]⟩
  | cons other before ih =>
    obtain ⟨first, mid, more, honward, hmid⟩ := ho.exists_looping hmarker hth (by simp) habove
    have hnext : Onward mid _ _ := .of_run (perform_driven hmid) (congrArg Thread.stack hmid) rfl
    have hqueue : (mid.launch t below (before ++ job :: after ++ more) other).thread t
        = { stack := [.inTransport mid.nextWrite] ++ .driving :: below,
            deferral := .running (before ++ job :: (after ++ more)) } := by simp
    obtain ⟨later, s', honward', hv⟩ := ih ((ho.onward honward).onward hnext) hqueue (by simp [Frame.isDriving])
    exact ⟨_, s', (honward.append hnext).append honward', hv⟩

theorem Ongoing.exists_handed_of_running {job : Job} (hmarker : job.flight.marker = flight.marker)
    {before after : List Job} (ho : Ongoing config moves s whole flight acked)
    (hq : (s.thread t).deferral = .running (before ++ job :: after)) : ∃ later s', Onward s later s' ∧
      ∃ v, s'.outstanding.find? v = some (.chain job.write job.flight) := by
  obtain ⟨above, below, hst, habove⟩ := (looped_run ho.run).exists_driving hq
  exact ho.exists_handed_of_waiting hmarker (by rw [← hst, ← hq]) habove

/-- A write that a thread has is handed over. -/
theorem Ongoing.exists_handed {job : Job} (ho : Ongoing config moves s whole flight acked) (ht : s.HandsOver t job)
    (hmarker : job.flight.marker = flight.marker) : ∃ later s', Onward s later s' ∧
      ∃ v, s'.outstanding.find? v = some (.chain job.write job.flight) := by
  obtain ⟨rest, hst⟩ | ⟨hwaits, -⟩ := ht
  · cases hq : (s.thread t).deferral with
    | idle =>
      have hth : s.thread t = { stack := .carrying job :: rest, deferral := .idle } := by rw [← hst, ← hq]
      exact ⟨_, _, .of_run (perform_carried hth) hst rfl, s.nextWrite, by simp [Table.find?_set]⟩
    | running queue =>
      have hth : s.thread t = { stack := .carrying job :: rest, deferral := .running queue } := by rw [← hst, ← hq]
      have hnext : Onward s _ _ := .of_run (perform_deferred hth) hst rfl
      have hqueue : ((s.setThread t { stack := rest, deferral := .running (queue ++ [job]) }).thread t).deferral
          = .running (queue ++ [job]) := by simp [thread_setThread]
      obtain ⟨later, s', honward, hv⟩ := (ho.onward hnext).exists_handed_of_running hmarker hqueue
      exact ⟨_, s', hnext.append honward, hv⟩
  · cases hq : (s.thread t).deferral with
    | idle => simp [hq] at hwaits
    | running queue =>
      rw [hq] at hwaits
      obtain ⟨before, after, rfl⟩ := List.append_of_mem hwaits
      exact ho.exists_handed_of_running hmarker hq

/-- The end of a write of a chain can be reported from any thread that is outside. -/
theorem exists_completed (hout : (s.thread t).isOutside = true)
    (hw : s.outstanding.find? w = some (.chain write flight)) (outcome : Outcome) :
    ∃ s' sig, s.perform (.complete t w outcome) = some (s', sig) := by
  obtain ⟨conn, v, hsettle, -⟩ :=
    Connection.settle_cases s.conn flight (s.markers.isInline flight.marker t) outcome write
  simp only [perform, hout, if_true, complete, hw, hsettle]
  cases v with
  | finished notify => cases notify <;> exact ⟨_, _, rfl⟩
  | _ => exact ⟨_, _, rfl⟩

/-- Without calls the chain comes to its end, if threads go on and the transport accepts a byte at a time. -/
theorem Ongoing.exists_drained (ho : Ongoing config moves s whole flight acked) :
    ∃ later s', Onward s later s' ∧ s'.Drained flight.marker := by
  induction hn : whole.length - acked.length using Nat.strong_induction_on generalizing moves s acked with
  | _ n ih =>
    cases hheld : s.conn.permit.held with
    | false => exact ⟨[], s, .nil, ho.drained hheld⟩
    | true =>
      obtain ⟨next, -, hne, hleft, -, hwhere⟩ := ho.exists_write hheld
      have hhanded : ∃ later s', Onward s later s' ∧ ∃ v, s'.outstanding.find? v = some (.chain next flight) := by
        obtain ⟨⟨v, hv⟩, -⟩ | ⟨⟨t, ht⟩, -⟩ := hwhere
        · exact ⟨[], s, .nil, v, hv⟩
        · exact ho.exists_handed ht rfl
      obtain ⟨first, mid, honward, v, hv⟩ := hhanded
      obtain ⟨t, hout⟩ := mid.exists_outside
      obtain ⟨s₁, sig, hends⟩ := exists_completed hout hv (.ok 1)
      have hdrains : Move.Drains ⟨mid, .complete t v (.ok 1), s₁, sig⟩ := Nat.one_pos
      have hnext := honward.append (.one hends hdrains (by simp))
      -- The byte that was accepted last is no longer left.
      have hless : whole.length - (acked ++ acknowledged flight.marker
          (first ++ [⟨mid, .complete t v (.ok 1), s₁, sig⟩])).length < n := by
        have hsettled := settles_le (k := flight.marker) (ho.onward honward).sound hdrains
        have hpos := List.length_pos_iff.2 hne
        simp only [Move.settles, hv, Option.any_some, Handed.isOf, beq_self_eq_true, Bool.toNat_true] at hsettled
        rw [← hn, ← hleft, acknowledged_snoc]
        simp only [unaccepted, List.length_append]
        omega
      obtain ⟨later, s', honward', hdrained⟩ := ih _ hless (ho.onward hnext) rfl
      exact ⟨_, s', hnext.append honward', hdrained⟩

/-- In a run without blocking calls, as long as the transport answers each write, a chain in flight ends with at most as
many ends of writes as there are bytes left, if nothing is added and the transport accepts something each time. Each of
them but the last one issues one write with all that is left. After the last one everything is as it was before any
data, and no other chain has begun. Until then the chain can be brought to its end. -/
theorem draining_terminates (run : Run (fresh config) earlier s) (later : Run s moves s')
    (hk : KeepsCount (earlier ++ moves)) (hearlier : ∀ m ∈ earlier, m.IsPrompt ∧ m.RecyclesFree)
    (hanswered : ∀ m ∈ earlier, m.IsAnswered) (hw : s.outstanding.find? w = some (.chain write flight))
    (hcurrent : s.conn.permit.isCurrent flight.guard = true ∨ ∀ m ∈ earlier, ∀ t, m.action ≠ .call t .recycle)
    (hdrains : ∀ m ∈ moves, m.Drains) :
    s'.markers.next = s.markers.next ∧
    (∀ before m after v next flight', moves = before ++ m :: after → m.signal = some (.handed v) →
      m.after.outstanding.find? v = some (.chain next flight') → flight'.marker = flight.marker →
      acknowledged flight.marker (before ++ [m]) ++ next.unsent = s.unaccepted write) ∧
    ((∃ next, s'.chains = {⟨next, flight⟩} ∧ next.unsent ≠ [] ∧
        acknowledged flight.marker moves ++ s'.unaccepted next = s.unaccepted write ∧
        ended flight.marker moves < (s.unaccepted write).length ∧
        ((∃ v, s'.outstanding.find? v = some (.chain next flight)) ∧
            issued flight.marker moves = ended flight.marker moves ∨
          (∃ t, s'.HandsOver t ⟨next, flight⟩) ∧ s'.conn.store.contents = [] ∧
            issued flight.marker moves + 1 = ended flight.marker moves)) ∨
      s'.Drained flight.marker ∧ acknowledged flight.marker moves = s.unaccepted write ∧
        ended flight.marker moves ≤ (s.unaccepted write).length ∧
        issued flight.marker moves + 1 = ended flight.marker moves) ∧
    ∃ rest s'', Run s' rest s'' ∧ (∀ m ∈ rest, m.Drains) ∧ s''.Drained flight.marker := by
  have hsay : s.conn.permit.isCurrent flight.guard = true :=
    hcurrent.elim id fun hkept => isCurrent_of_sole (sole_run run hkept) hw
  have hd : Draining (s.unaccepted write) flight s [] :=
    .underWay write (mem_chains_of_outstanding hw hsay) rfl fun h => absurd rfl h
  have ho : Ongoing config earlier s (s.unaccepted write) flight [] := ⟨run, hk.left, hearlier, hanswered, hd⟩
  have hone := afloat_eq_one ho.distinct hw rfl
  obtain ⟨ho', htallied, hnext⟩ := tallied_run ho hone later hk hdrains
  refine ⟨hnext, ?_, ?_, ?_⟩
  · rintro before m after v next flight' rfl hsig hv hmarker
    obtain ⟨hbefore, hperform⟩ := later.split rfl
    rw [List.append_cons, ← List.append_assoc] at hk
    rw [List.append_cons, List.forall_mem_append] at hdrains
    obtain ⟨ho', htallied, -⟩ := tallied_run ho hone (hbefore.snoc hperform) hk.left hdrains.1
    refine ho'.draining.unsent_next ho'.distinct hv hmarker (htallied.acknowledged_ne_nil ?_)
    -- The first write of the chain was there before, so this one was issued as another one had ended.
    have hissued : m.issues flight.marker = true := by simp [Move.issues, hsig, hv, Handed.isOf, hmarker]
    have hcount := htallied.count
    rw [afloat_eq_one ho'.distinct hv hmarker, issued_snoc, hissued, Bool.toNat_true] at hcount
    omega
  · have hcount := htallied.count
    have hconfirmed := htallied.confirmed
    cases hheld : s'.conn.permit.held with
    | true =>
      obtain ⟨next, hchains, hne, hleft, hswept, hwhere⟩ := ho'.exists_write hheld
      refine .inl ⟨next, hchains, hne, hleft, ?_, ?_⟩
      · have hpos := List.length_pos_iff.2 hne
        rw [← hleft, unaccepted, List.length_append, List.length_append]
        omega
      · obtain ⟨hv, hafloat⟩ | ⟨ht, hafloat⟩ := hwhere
        · exact .inl ⟨hv, by omega⟩
        · exact .inr ⟨ht, hswept (htallied.acknowledged_ne_nil (by omega)), by omega⟩
    | false =>
      obtain ⟨-, hgone, hall⟩ := ho'.draining.of_free hheld
      have hafloat := afloat_eq_zero hgone
      exact .inr ⟨ho'.drained hheld, hall, hall ▸ hconfirmed, by omega⟩
  · obtain ⟨rest, s'', honward, hdrained⟩ := ho'.exists_drained
    exact ⟨rest, s'', honward.run, honward.drains, hdrained⟩

/-- Two bytes are at the transport and a third one is queued. The transport accepts one byte, then all that is left. -/
theorem draining_terminates_partial_write : ∃ earlier moves s s' write flight, Run (fresh {}) earlier s ∧
    s.outstanding.find? 0 = some (.chain write flight) ∧ Run s moves s' ∧ (∀ m ∈ moves, m.Drains) ∧
    s'.Drained flight.marker ∧ acknowledged flight.marker moves = [97, 98, 99] ∧
    issued flight.marker moves + 1 = ended flight.marker moves := by
  obtain ⟨earlier, s, run, ⟨hearlier, hanswered⟩, hfollow⟩ := Run.exists_of_follow (fresh {})
    [.call 0 (.add { bytes := ⟨#[97, 98]⟩ } .nonBlocking), .run 0, .run 0, .resume 0, .run 0, .run 0,
      .call 0 (.add { bytes := ⟨#[99]⟩ } .nonBlocking)]
    (P := fun earlier s => ((∀ m ∈ earlier, m.IsPrompt ∧ m.RecyclesFree) ∧ ∀ m ∈ earlier, m.IsAnswered) ∧
      ((s.outstanding.find? 0).any fun h => h.isChain && (Tally.guards.ofHanded h).all s.conn.permit.isCurrent &&
        decide (s.unaccepted h.write = [97, 98, 99]) &&
        (s.follow [.complete 1 0 (.ok 1), .run 1, .resume 1, .run 1, .complete 1 1 (.ok 5)]).any fun later =>
          decide (renewals (earlier ++ later.1) < 2 ^ 64) && decide (∀ m ∈ later.1, m.Drains) &&
          !later.2.conn.permit.held) = true) (by decide +kernel)
  obtain ⟨handed, hw, hhanded⟩ := (Option.any_eq_true _ _).1 hfollow
  simp only [Bool.and_eq_true, decide_eq_true_eq] at hhanded
  obtain ⟨⟨⟨hchain, hcurrent⟩, hwhole⟩, hlater⟩ := hhanded
  obtain ⟨⟨moves, s'⟩, hmoves, hend⟩ := (Option.any_eq_true _ _).1 hlater
  simp only [Bool.and_eq_true, decide_eq_true_eq, Bool.not_eq_true'] at hend
  obtain ⟨⟨hfew, hdrains⟩, hfree⟩ := hend
  cases handed with
  | trip buf | stray buf => cases hchain
  | chain write flight =>
    have later := Run.of_follow hmoves
    have hsay : s.conn.permit.isCurrent flight.guard = true := by simpa using hcurrent
    obtain ⟨-, -, ⟨next, hchains, -⟩ | ⟨hdrained, hall, -, hcount⟩, -⟩ :=
      draining_terminates run later (.inl hfew) hearlier hanswered hw (.inl hsay) hdrains
    · have hnone : s'.chains = 0 := by simp [chains, Permit.isCurrent, hfree]
      rw [hnone] at hchains
      cases Multiset.zero_ne_singleton _ hchains
    · exact ⟨earlier, moves, s, s', write, flight, run, hw, later, hdrains, hdrained, hall.trans hwhole, hcount⟩

end System

end Outflow
