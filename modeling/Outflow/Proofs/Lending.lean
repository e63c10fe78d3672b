import Outflow.Proofs.Stream

/-! There is one primary buffer. It is in the store, or lent to a write, or with the blocking call that writes it
out. -/
namespace Outflow

def Buffer.isPrimary : Buffer → Bool
  | primary _ => true
  | chunk _ => false

theorem Buffer.isPrimary_drop (count : Nat) (b : Buffer) : (b.drop count).isPrimary = b.isPrimary := by
  cases b <;> rfl

theorem countP_isPrimary_dropAll (count : Nat) (bufs : List Buffer) :
    (dropAll count bufs).countP Buffer.isPrimary = bufs.countP Buffer.isPrimary := by
  induction bufs generalizing count with
  | nil => rfl
  | cons b bufs ih => simp [dropAll, List.countP_cons, ih, Buffer.isPrimary_drop]

namespace Store

variable {s : Store} {bufs : List Buffer}

/-- How many primary buffers a store has. -/
def primaries (s : Store) : Nat := s.primary.toList.length

theorem primaries_le_one (s : Store) : s.primaries ≤ 1 := by
  unfold primaries
  cases s.primary <;> simp

@[simp]
theorem primaries_pushOverflow (s : Store) (src : Chunk) : (s.pushOverflow src).primaries = s.primaries := by
  simp [primaries]

@[simp]
theorem primaries_ensurePrimary (s : Store) : s.ensurePrimary.primaries = 1 := by
  obtain ⟨p, hp⟩ := s.primary_ensurePrimary
  simp [primaries, hp]

@[simp]
theorem primaries_transfer (s : Store) (src : Chunk) : (s.transfer src).1.primaries = s.primaries := by
  unfold transfer primaries
  cases hp : s.primary <;> simp [hp]

@[simp]
theorem primaries_append (s : Store) (src : Chunk) : (s.append src).primaries = s.primaries := by
  unfold append
  split <;> simp

theorem primaries_takePrimaryIfPending (s : Store) :
    s.takePrimaryIfPending.1.primaries + s.takePrimaryIfPending.2.toList.length = s.primaries := by
  obtain ⟨p, hp, -, heq⟩ | ⟨-, heq⟩ := s.takePrimaryIfPending_cases
  · simp [heq, primaries, hp]
  · simp [heq]

theorem primaries_restorePrimary (s : Store) (p : Primary) : (s.restorePrimary p).primaries = 1 := by
  unfold restorePrimary primaries
  cases hp : s.primary <;> simp [hp]

@[simp]
theorem primaries_discard (s : Store) : s.discard.1.primaries = s.primaries := by
  cases hp : s.primary <;> simp [discard, primaries, hp]

/-! ### Buffers that come back -/

/-- The stores that the primary buffers among `bufs` come back to, one after another. -/
def restoring (s : Store) : List Buffer → List Store
  | [] => []
  | .primary p :: bufs => s :: (s.reclaim (.primary p)).restoring bufs
  | .chunk _ :: bufs => s.restoring bufs

/-- The buffers that are allocated if each of `stores` makes sure that it has one. -/
def allocated (stores : List Store) : Nat := stores.countP primaryIsLent

/-- The buffers that are dropped if one comes back to each of `stores`. -/
def discarded (stores : List Store) : Nat := stores.countP fun s => !s.primaryIsLent

theorem primaryIsLent_iff : s.primaryIsLent = true ↔ s.primaries = 0 := by
  unfold primaryIsLent primaries
  cases s.primary <;> simp

theorem primaryIsLent_eq_false_iff : s.primaryIsLent = false ↔ s.primaries = 1 := by
  unfold primaryIsLent primaries
  cases s.primary <;> simp

@[simp]
theorem allocated_nil : allocated [] = 0 := rfl

@[simp]
theorem discarded_nil : discarded [] = 0 := rfl

theorem discarded_append (xs ys : List Store) : discarded (xs ++ ys) = discarded xs + discarded ys :=
  List.countP_append

theorem allocated_eq_zero {stores : List Store} (h : ∀ r ∈ stores, r.primaryIsLent = false) : allocated stores = 0 := by
  simpa [allocated, List.countP_eq_zero] using h

theorem discarded_eq_zero {stores : List Store} (h : ∀ r ∈ stores, r.primaryIsLent = true) : discarded stores = 0 := by
  simpa [discarded, List.countP_eq_zero] using h

theorem discarded_singleton (s : Store) : discarded [s] = s.primaries := by
  unfold discarded primaryIsLent primaries
  cases hp : s.primary <;> simp [hp]

theorem primaries_add_allocated (s : Store) : s.primaries + allocated [s] = 1 := by
  unfold allocated primaryIsLent primaries
  cases hp : s.primary <;> simp [hp]

theorem restorePrimary_balance (s : Store) (p : Primary) :
    (s.restorePrimary p).primaries + discarded [s] = s.primaries + 1 := by
  rw [primaries_restorePrimary, discarded_singleton, Nat.add_comm]

theorem reclaim_balance (s : Store) (bufs : List Buffer) :
    (bufs.foldl reclaim s).primaries + discarded (s.restoring bufs) = s.primaries + bufs.countP Buffer.isPrimary := by
  induction bufs generalizing s with
  | nil => rfl
  | cons b bufs ih =>
    cases b with
    | primary p =>
      have hback : (s.reclaim (.primary p)).primaries + discarded [s] = s.primaries + 1 := restorePrimary_balance s _
      have hrest := ih (s.reclaim (.primary p))
      have hcons : discarded (s.restoring (.primary p :: bufs))
          = discarded [s] + discarded ((s.reclaim (.primary p)).restoring bufs) := discarded_append [s] _
      rw [List.foldl_cons, hcons, List.countP_cons_of_pos rfl]
      omega
    | chunk c => exact ih s

theorem drain_balance (s : Store) (bufs : List Buffer) :
    (s.drain bufs).1.primaries + (s.drain bufs).2.countP Buffer.isPrimary
        + discarded (s.takePrimaryIfPending.1.restoring (bufs.filter fun b => !b.hasRemaining))
      = s.primaries + bufs.countP Buffer.isPrimary := by
  have htake := s.primaries_takePrimaryIfPending
  have hsplit := List.countP_eq_countP_filter_add bufs Buffer.isPrimary Buffer.hasRemaining
  have hback := reclaim_balance s.takePrimaryIfPending.1 (bufs.filter fun b => !b.hasRemaining)
  have hstore : (s.drain bufs).1.primaries
      = ((bufs.filter fun b => !b.hasRemaining).foldl reclaim s.takePrimaryIfPending.1).primaries := rfl
  have hheld : (s.takePrimaryIfPending.2.toList.map Buffer.primary).countP Buffer.isPrimary
      = s.takePrimaryIfPending.2.toList.length := by
    cases s.takePrimaryIfPending.2 <;> rfl
  have hqueued : (s.overflow.map Buffer.chunk).countP Buffer.isPrimary = 0 := by
    simp [List.countP_map, Function.comp_def, Buffer.isPrimary]
  rw [hstore, drain_snd, List.countP_append, List.countP_append, hheld, hqueued]
  omega

theorem salvage_balance (s : Store) (b : Option Buffer) :
    (s.salvage b).1.primaries + discarded (s.restoring b.toList) = s.primaries + b.toList.countP Buffer.isPrimary := by
  match b with
  | some (.primary p) => exact restorePrimary_balance s p.clear
  | some (.chunk c) => rfl
  | none => rfl

/-- With one buffer at most there is room for it when it comes back. -/
theorem restoring_lent (h : s.primaries + bufs.countP Buffer.isPrimary ≤ 1) :
    ∀ r ∈ s.restoring bufs, r.primaryIsLent = true := by
  induction bufs generalizing s with
  | nil => simp [restoring]
  | cons b bufs ih =>
    cases b with
    | primary p =>
      rw [List.countP_cons_of_pos rfl] at h
      have hone := primaries_restorePrimary s (if p.hasRemaining then p else p.clear)
      rw [restoring, List.forall_mem_cons]
      refine ⟨primaryIsLent_iff.2 (by omega), ih ?_⟩
      rw [reclaim, hone]
      omega
    | chunk c => exact ih h

end Store

namespace Write

def primaries (w : Write) : List Buffer := w.buffers.filter Buffer.isPrimary

theorem length_primaries (w : Write) : w.primaries.length = w.buffers.countP Buffer.isPrimary :=
  List.countP_eq_length_filter.symm

end Write

/-- The primary buffers that a chain goes on with. -/
def Verdict.primaries : Verdict → Nat
  | reissue next => next.primaries.length
  | stale | finished _ | failed _ => 0

namespace Connection

variable {c c' : Connection} {f : Flight} {isInline : Bool} {outcome : Outcome} {write : Write} {v : Verdict}

theorem primaries_takeWrite {store : Store} (htake : c.takeWrite = (store, some write)) :
    store.primaries + write.primaries.length = c.store.primaries := by
  unfold takeWrite at htake
  split at htake
  · cases htake
    rw [Write.length_primaries]
    exact c.store.drain_balance []
  · have hpr := c.store.primaries_takePrimaryIfPending
    cases hp : c.store.takePrimaryIfPending.2 with
    | none => simp [hp] at htake
    | some p =>
      simp only [hp, Option.map_some, Prod.mk.injEq, Option.some.injEq] at htake
      obtain ⟨rfl, rfl⟩ := htake
      rw [hp] at hpr
      exact hpr

theorem primaries_dropAll (hone : c.store.primaries + write.primaries.length ≤ 1) (count : Nat) :
    c.store.primaries + (dropAll count write.buffers).countP Buffer.isPrimary ≤ 1 := by
  rwa [countP_isPrimary_dropAll, ← Write.length_primaries]

/-- The stores that primary buffers come back to when a write of a chain ends. -/
def restoring (c : Connection) (f : Flight) (outcome : Outcome) (write : Write) : List Store :=
  if c.permit.isCurrent f.guard then
    match outcome.written with
    | .error _ => c.store.restoring write.buffers
    | .ok count =>
      let bufs := dropAll count write.buffers
      if c.store.hasFollowUp || bufs.any Buffer.hasRemaining then
        c.store.takePrimaryIfPending.1.restoring (bufs.filter fun b => !b.hasRemaining)
      else c.store.restoring bufs
  else []

theorem Settled.balance (h : Settled c f isInline outcome write c' v) (hv : v ≠ .stale) :
    c'.store.primaries + v.primaries + Store.discarded (c.restoring f outcome write)
      = c.store.primaries + write.primaries.length := by
  rw [Write.length_primaries]
  cases h with
  | stale hg => exact absurd rfl hv
  | failed hw hg =>
    simp only [restoring, hg, if_true, hw, Verdict.primaries, Store.primaries_discard]
    exact c.store.reclaim_balance write.buffers
  | @alone count buf hw hg hs hb hr =>
    have hcount := countP_isPrimary_dropAll count write.buffers
    have hkept : [buf].filter (fun b => !b.hasRemaining) = [] := by simp [hr]
    have hmore : (c.store.hasFollowUp || [buf].any Buffer.hasRemaining) = true := by simp [hr]
    rw [← hcount, hb]
    simp only [restoring, hg, if_true, hw, hb, hmore, hkept, Verdict.primaries, Write.length_primaries]
    rfl
  | @gathered count hw hg hs =>
    have hmore : (c.store.hasFollowUp || (dropAll count write.buffers).any Buffer.hasRemaining) = true := by
      rwa [Bool.or_eq_true]
    simp only [restoring, hg, if_true, hw, hmore, Verdict.primaries, Write.length_primaries]
    rw [← countP_isPrimary_dropAll count write.buffers]
    exact c.store.drain_balance (dropAll count write.buffers)
  | @finished count hw hg hs hb =>
    have hnone : (dropAll count write.buffers).any Buffer.hasRemaining = false := by simpa using hb
    simp only [restoring, hg, if_true, hw, hs, hnone, Bool.or_self, Bool.false_eq_true, if_false, Verdict.primaries,
      finish]
    rw [← countP_isPrimary_dropAll count write.buffers]
    exact c.store.reclaim_balance (dropAll count write.buffers)

theorem restoring_lent (h : c.store.primaries + write.primaries.length ≤ 1) :
    ∀ r ∈ c.restoring f outcome write, r.primaryIsLent = true := by
  unfold restoring
  split
  · split
    · exact Store.restoring_lent (by rwa [← Write.length_primaries])
    · next count hw =>
      have hdrop := primaries_dropAll h count
      dsimp only
      split
      · have htake := c.store.primaries_takePrimaryIfPending
        have hfilter := List.countP_eq_countP_filter_add (dropAll count write.buffers) Buffer.isPrimary
          Buffer.hasRemaining
        exact Store.restoring_lent (by omega)
      · exact Store.restoring_lent hdrop
  · simp

/-- The end of a write neither adds a primary buffer nor loses one. -/
theorem Settled.primaries_kept (h : Settled c f isInline outcome write c' v) (hv : v ≠ .stale)
    (hone : c.store.primaries + write.primaries.length ≤ 1) :
    c'.store.primaries + v.primaries = c.store.primaries + write.primaries.length := by
  have hbalance := h.balance hv
  rwa [Store.discarded_eq_zero (restoring_lent hone)] at hbalance

theorem primaries_absorb (c : Connection) (src : Chunk) : (c.absorb src).1.primaries
    = if c.store.hasPending || c.permit.held then c.store.primaries else 1 := by
  unfold absorb
  split <;> simp

end Connection

def Buffer.primaries (b : Buffer) : List Buffer := [b].filter isPrimary

theorem Buffer.length_primaries (b : Buffer) : b.primaries.length = [b].countP isPrimary :=
  List.countP_eq_length_filter.symm

@[simp]
theorem Buffer.primaries_primary (p : Primary) : (primary p).primaries = [primary p] := rfl

@[simp]
theorem Buffer.primaries_chunk (c : Chunk) : (chunk c).primaries = [] := rfl

def Sweep.primaries (sweep : Sweep) : List Buffer := sweep.primary.toList.map .primary

def Frame.primaries : Frame → List Buffer
  | carrying job => job.write.primaries
  | sweeping sweep | awaitingReply _ sweep => sweep.primaries
  | writing buf sweep => buf.primaries ++ sweep.primaries
  | _ => []

theorem Frame.isPrimary_of_mem {f : Frame} {b : Buffer} (hb : b ∈ f.primaries) : b.isPrimary = true := by
  cases f with
  | carrying job => exact (List.mem_filter.1 hb).2
  | sweeping sweep | awaitingReply w sweep =>
    obtain ⟨p, -, rfl⟩ := List.mem_map.1 hb
    rfl
  | writing buf sweep =>
    rcases List.mem_append.1 hb with hb | hb
    · exact (List.mem_filter.1 hb).2
    · obtain ⟨p, -, rfl⟩ := List.mem_map.1 hb
      rfl
  | _ => simp [primaries] at hb

theorem Sweep.wellFormed_of_mem {capacity : Nat} {sweep : Sweep} (h : sweep.WellFormed capacity) {b : Buffer}
    (hb : b ∈ sweep.primaries) : b.WellFormed capacity := by
  obtain ⟨p, hp, rfl⟩ := List.mem_map.1 hb
  exact h.primary p (Option.mem_toList.1 hp)

theorem Frame.wellFormed_of_mem {capacity : Nat} {f : Frame} (h : f.Sound capacity) {b : Buffer}
    (hb : b ∈ f.primaries) : b.WellFormed capacity := by
  cases f with
  | carrying job =>
    have hjob : job.write.WellFormed capacity := h
    exact hjob.buffers b (List.mem_filter.1 hb).1
  | sweeping sweep | awaitingReply w sweep => exact Sweep.wellFormed_of_mem h hb
  | writing buf sweep =>
    rcases List.mem_append.1 hb with hb | hb
    · obtain rfl := List.mem_singleton.1 (List.mem_filter.1 hb).1
      exact h.1
    · exact Sweep.wellFormed_of_mem h.2 hb
  | _ => simp [primaries] at hb

theorem Frame.primaries_of_not_sweeping {f : Frame} (hcall : f.isCall = true) (h : f.isSweeping = false) :
    f.primaries = [] := by
  cases f with
  | carrying job => simp [isCall] at hcall
  | sweeping sweep | writing buf sweep | awaitingReply w sweep => simp [isSweeping] at h
  | _ => rfl

theorem Frame.primaries_eq_jobs {f : Frame} (hf : f.isCall = false) :
    f.primaries = f.jobs.flatMap fun job => job.write.primaries := by
  cases f with
  | carrying job => simp [primaries, jobs]
  | inTransport w | attaching err | notifying event | telling event | driving => rfl
  | _ => simp [isCall] at hf

def Answer.primaries : Answer → List Buffer
  | returned _ buf => buf.primaries
  | dropped => []

@[simps]
def Tally.primaries : Tally Buffer where
  ofFrame := Frame.primaries
  ofJob job := job.write.primaries
  ofTrip := Buffer.primaries

theorem Buffer.length_primaries_drop (count : Nat) (b : Buffer) :
    (b.drop count).primaries.length = b.primaries.length := by
  cases b <;> rfl

theorem Store.primaries_swept (s : Store) (goal : Goal) :
    s.swept.primaries + (s.sweep goal).primaries.length = s.primaries := by
  rw [Sweep.primaries, List.length_map]
  exact s.takeOverflow.1.primaries_takePrimaryIfPending

namespace System

variable {config : Config} {s s' : System} {moves : List Move} {a : Action} {sig : Option Signal} {t : ThreadId}
  {w : WriteId} {frame : Frame} {rest : List Frame} {held : Bool} {store : Store}

/-- The primary buffers that are not in the store. -/
def lent (s : System) : Nat := (s.tally .primaries).card + (s.answers.census Answer.primaries).card

/-- One primary buffer exists. -/
def OnePrimary (s : System) : Prop := s.conn.store.primaries + s.lent = 1

theorem sound_job {capacity : Nat} (h : s.Sound capacity) {job : Job} (hj : job ∈ s.collect .jobs) :
    job.write.WellFormed capacity := by
  obtain ⟨t, f, hf, hj⟩ | ⟨t, job', hjob, hj⟩ | ⟨w, handed, hw, hj⟩ := s.cases_of_mem_collect hj
  · have hframe := (h.threads t).stack f hf
    cases f with
    | carrying job' =>
      obtain rfl := List.mem_singleton.1 hj
      exact hframe
    | _ => simp [Frame.jobs] at hj
  · obtain rfl := List.mem_singleton.1 hj
    exact (h.threads t).waiting job hjob
  · have hhanded := h.outstanding w handed hw
    cases handed with
    | chain write flight =>
      obtain rfl := List.mem_singleton.1 hj
      exact hhanded
    | trip buf | stray buf => simp at hj

/-- Every primary buffer there is: in the store, with a call or a write, or on its way back to a call. -/
def primaryBuffers (s : System) : List Primary :=
  s.conn.store.primary.toList ++
    (s.collect .primaries ++ s.answers.collect Answer.primaries).filterMap Buffer.toPrimary?

theorem isPrimary_of_lent {b : Buffer} (hb : b ∈ s.collect .primaries ++ s.answers.collect Answer.primaries) :
    b.isPrimary = true := by
  rcases List.mem_append.1 hb with hb | hb
  · obtain ⟨t, f, -, hb⟩ | ⟨t, job, -, hb⟩ | ⟨w, h, -, hb⟩ := s.cases_of_mem_collect hb
    · exact Frame.isPrimary_of_mem hb
    · exact (List.mem_filter.1 hb).2
    · cases h <;> exact (List.mem_filter.1 hb).2
  · obtain ⟨w, answer, -, hb⟩ := (Table.mem_collect _ _).1 hb
    cases answer with
    | returned outcome buf => exact (List.mem_filter.1 hb).2
    | dropped => simp [Answer.primaries] at hb

theorem length_primaryBuffers (s : System) : s.primaryBuffers.length = s.conn.store.primaries + s.lent := by
  have hall : ((s.collect .primaries ++ s.answers.collect Answer.primaries).filterMap Buffer.toPrimary?).length
      = (s.collect .primaries ++ s.answers.collect Answer.primaries).length := by
    rw [List.filterMap_length_eq_length]
    intro b hb
    have hprimary := isPrimary_of_lent hb
    cases b with
    | primary p => rfl
    | chunk c => simp [Buffer.isPrimary] at hprimary
  rw [primaryBuffers, List.length_append, hall, List.length_append]
  rfl

theorem wellFormed_primaryBuffers {capacity : Nat} (h : s.Sound capacity) :
    ∀ p ∈ s.primaryBuffers, p.WellFormed ∧ p.capacity = capacity := by
  intro p hp
  rcases List.mem_append.1 hp with hp | hp
  · obtain ⟨hwf, hcap⟩ := h.store.wellFormed.primary p (Option.mem_toList.1 hp)
    exact ⟨hwf, hcap.trans h.store.size⟩
  · obtain ⟨b, hb, hbp⟩ := List.mem_filterMap.1 hp
    have hsound : b.WellFormed capacity := by
      rcases List.mem_append.1 hb with hb | hb
      · obtain ⟨t, f, hf, hb⟩ | ⟨t, job, hjob, hb⟩ | ⟨w, handed, hw, hb⟩ := s.cases_of_mem_collect hb
        · exact Frame.wellFormed_of_mem ((h.threads t).stack f hf) hb
        · exact ((h.threads t).waiting job hjob).buffers b (List.mem_filter.1 hb).1
        · have hhanded := h.outstanding w handed hw
          cases handed with
          | chain write flight => exact hhanded.buffers b (List.mem_filter.1 hb).1
          | trip buf | stray buf =>
            obtain rfl := List.mem_singleton.1 (List.mem_filter.1 hb).1
            exact hhanded
      · obtain ⟨w, answer, hw, hb⟩ := (Table.mem_collect _ _).1 hb
        have hanswer := h.answers w answer hw
        cases answer with
        | returned outcome buf =>
          obtain rfl := List.mem_singleton.1 (List.mem_filter.1 hb).1
          exact hanswer
        | dropped => simp [Answer.primaries] at hb
    cases b with
    | primary q =>
      obtain rfl := Option.some.inj hbp
      exact hsound
    | chunk c => simp [Buffer.toPrimary?] at hbp

theorem onePrimary_fresh (config : Config) : (fresh config).OnePrimary := rfl

/-- Where no call has buffers, those of chains are left. -/
theorem tally_primaries_eq (hans : s.Answered) (hclaim : s.Claimed)
    (hcalls : ∀ f ∈ s.tally .calls, f.isSweeping = false) :
    s.tally .primaries = (s.tally .jobs).bind fun job => ↑job.write.primaries := by
  have hnone : ∀ f ∈ s.tally .calls, f.awaitsReply = false := fun f hf =>
    Frame.awaitsReply_of_not_sweeping (hcalls f hf)
  have hbind : (s.tally .calls).bind (fun f => (↑(Tally.primaries.ofFrame f) : Multiset Buffer)) = 0 := by
    refine Multiset.eq_zero_of_forall_notMem fun b hb => ?_
    obtain ⟨f, hf, hm⟩ := Multiset.mem_bind.1 hb
    simp [Frame.primaries_of_not_sweeping (isCall_of_mem_calls hf) (hcalls f hf)] at hm
  rw [tally_split s fun f hf => Frame.primaries_eq_jobs hf, hbind, tally_trips_eq_zero hans hclaim hnone]
  simp

theorem answers_primaries_eq_zero (hclaim : s.Claimed) (hcalls : ∀ f ∈ s.tally .calls, f.isSweeping = false) :
    s.answers.census Answer.primaries = 0 :=
  census_answers_eq_zero _ hclaim fun f hf => Frame.awaitsReply_of_not_sweeping (hcalls f hf)

theorem lent_eq (hans : s.Answered) (hclaim : s.Claimed) (hcalls : ∀ f ∈ s.tally .calls, f.isSweeping = false) :
    s.lent = ((s.tally .jobs).bind fun job => (↑job.write.primaries : Multiset Buffer)).card := by
  rw [lent, answers_primaries_eq_zero hclaim hcalls, tally_primaries_eq hans hclaim hcalls, Multiset.card_zero,
    Nat.add_zero]

theorem lent_eq_zero_iff (hans : s.Answered) (hclaim : s.Claimed)
    (hcalls : ∀ f ∈ s.tally .calls, f.isSweeping = false) :
    s.lent = 0 ↔ ∀ job ∈ s.collect .jobs, job.write.primaries = [] := by
  rw [lent_eq hans hclaim hcalls, tally, Multiset.coe_bind, Multiset.coe_card, List.length_eq_zero_iff,
    List.flatMap_eq_nil_iff]

/-- Where no call has buffers, a primary buffer is in the store or in a write of a chain. -/
theorem mem_primaryBuffers_iff (hans : s.Answered) (hclaim : s.Claimed)
    (hcalls : ∀ f ∈ s.tally .calls, f.isSweeping = false) (p : Primary) : p ∈ s.primaryBuffers ↔
      s.conn.store.primary = some p ∨ ∃ job ∈ s.collect .jobs, .primary p ∈ job.write.buffers := by
  have hanswers : s.answers.collect Answer.primaries = [] :=
    (Multiset.coe_eq_zero _).1 (answers_primaries_eq_zero hclaim hcalls)
  have hlent : ∀ b, b ∈ s.collect .primaries ↔ ∃ job ∈ s.collect .jobs, b ∈ job.write.primaries := by
    intro b
    rw [← Multiset.mem_coe]
    change b ∈ s.tally .primaries ↔ _
    rw [tally_primaries_eq hans hclaim hcalls, Multiset.mem_bind]
    rfl
  have hprimary : ∀ b : Buffer, b.toPrimary? = some p ↔ b = .primary p := by
    intro b
    cases b <;> simp [Buffer.toPrimary?]
  simp only [primaryBuffers, hanswers, List.append_nil, List.mem_append, Option.mem_toList, List.mem_filterMap,
    hprimary, exists_eq_right, hlent, Write.primaries, List.mem_filter, Buffer.isPrimary, and_true]

theorem lent_eq_zero (hans : s.Answered) (hclaim : s.Claimed) (hjobs : s.tally .jobs = 0)
    (hcalls : ∀ f ∈ s.tally .calls, f.isSweeping = false) : s.lent = 0 := by
  rw [lent_eq hans hclaim hcalls, hjobs]
  rfl

/-- Beside another call none has buffers. -/
theorem not_sweeping_of_lined (hl : Lined held store (s.tally .calls)) (hst : (s.thread t).stack = frame :: rest)
    (hf : frame.isCall = true) : ∀ f ∈ (s.setStack t rest).tally .calls, f.isSweeping = false := by
  rw [calls_pop hst hf] at hl
  exact fun f hm => Frame.isSweeping_of_not_blocking (hl.not_blocking f hm)

/-- While a blocking call writes there is no chain. -/
theorem jobs_eq_zero_of_writing (hl : Lined s.conn.permit.held store (s.tally .calls))
    (hsole : Permit.Sole s.conn.permit (s.tally .guards)) (hst : (s.thread t).stack = frame :: rest)
    (hf : frame.isWriting = true) (hcall : frame.isCall = true) (hnone : frame.jobs = []) :
    (s.setStack t rest).tally .jobs = 0 := by
  have hmem : frame ∈ s.tally .calls := calls_pop hst hcall ▸ Multiset.mem_cons_self _ _
  have hjobs : s.tally .jobs = 0 := jobs_eq_zero hsole (hl.calm _ hmem hf)
  simpa [tally_pop _ hst, hnone] using hjobs

/-! ### What the parts of a step lend -/

@[simp]
theorem lent_setConn (s : System) (conn : Connection) : (s.setConn conn).lent = s.lent := rfl

@[simp]
theorem lent_setMarkers (s : System) (markers : Markers) : (s.setMarkers markers).lent = s.lent := rfl

theorem lent_push (s : System) (t : ThreadId) (frame : Frame) :
    (s.push t frame).lent = frame.primaries.length + s.lent := by
  simp [lent, tally_push, Nat.add_assoc]

theorem lent_pop (hst : (s.thread t).stack = frame :: rest) :
    s.lent = frame.primaries.length + (s.setStack t rest).lent := by
  simp [lent, tally_pop _ hst, Nat.add_assoc]

theorem lent_replace (s : System) (t : ThreadId) (frame : Frame) (rest : List Frame) :
    (s.setStack t (frame :: rest)).lent = frame.primaries.length + (s.setStack t rest).lent := by
  simp [lent, tally_replace, Nat.add_assoc]

theorem lent_begin (s : System) (t : ThreadId) (starter : Starter) (g : Guard) (store : Store) (write : Write) :
    (s.begin t starter g store write).lent = write.primaries.length + s.lent := by
  simp [lent, tally_begin, Frame.primaries, Nat.add_assoc]

theorem lent_trip (hn : s.outstanding.find? s.nextWrite = none) (buf : Buffer) :
    ((s.setStack t (frame :: rest)).handOver t (.trip buf)).1.lent
      = buf.primaries.length + (s.setStack t (frame :: rest)).lent := by
  simp [lent, tally_trip _ hn, tally_replace, Frame.primaries, Nat.add_assoc]

theorem lent_endWrite {h : Handed} (hw : s.outstanding.find? w = some h) :
    s.lent = (Tally.primaries.ofHanded h).length + (s.endWrite w).lent := by
  simp [lent, tally_endWrite _ hw, Nat.add_assoc]

theorem lent_setAnswers_set (hw : s.answers.find? w = none) (answer : Answer) :
    (s.setAnswers (s.answers.set w answer)).lent = answer.primaries.length + s.lent := by
  have hcensus := s.answers.census_set w Answer.primaries answer
  rw [Table.census_erase_of_find?_eq_none _ _ _ hw] at hcensus
  simp [lent, hcensus, Nat.add_left_comm]

theorem lent_setAnswers_erase {answer : Answer} (hw : s.answers.find? w = some answer) :
    s.lent = answer.primaries.length + (s.setAnswers (s.answers.erase w)).lent := by
  have hcensus := s.answers.census_eq w Answer.primaries
  rw [hw] at hcensus
  simp [lent, hcensus, Nat.add_left_comm]

end System

end Outflow
