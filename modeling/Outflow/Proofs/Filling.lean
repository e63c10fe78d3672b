import Outflow.Proofs.Writeout

/-! How a blocking add fills the primary buffer and writes it out, again and again, until all is taken over. -/
namespace Outflow

/-- The transport accepted something. -/
def TripEnd.confirms : TripEnd → Bool
  | returned (.ok count) => 0 < count
  | _ => false

theorem TripEnd.confirms_returned {outcome : Outcome} (h : (returned outcome).confirms = true) :
    outcome.written = .ok outcome.count ∧ 0 < outcome.count := by
  cases outcome with
  | ok count =>
    simp only [confirms, decide_eq_true_eq] at h
    simp only [Outcome.written, Outcome.count, if_neg (show ¬ count < 0 by omega), true_and]
    omega
  | error cause => cases h

theorem Primary.pos_base {p : Primary} (h : p.pos = 0) : p.base.pos = 0 := by
  unfold base
  split
  · rfl
  · exact h

theorem Primary.size_base {p : Primary} (h : p.base.pos = 0) : p.base.filled.size = p.unsent.length := by
  rw [← unsent_base, length_unsent, remaining, h, Nat.sub_zero]

namespace Store

variable {s : Store} {p q : Primary}

/-- All that is stored is in the primary buffer, which can be filled to its end. -/
structure Holds (s : Store) (p : Primary) : Prop where
  primary : s.primary = some p
  overflow : s.overflow = []
  start : p.base.pos = 0

/-- The primary buffer is lent, and nothing is queued behind it. -/
structure Emptied (s : Store) : Prop where
  primary : s.primary = none
  overflow : s.overflow = []

theorem Holds.contents (h : s.Holds p) : s.contents = p.unsent := by
  simp [contents_eq, front, queued, h.primary, h.overflow]

theorem holds_of_contents (hwf : s.WellFormed) (hp : s.primary = some p) (hempty : s.contents = []) :
    s.Holds p ∧ p.unsent = [] := by
  rw [contents_eq, List.append_eq_nil_iff, queued_eq_nil_iff hwf] at hempty
  have hunsent : p.unsent = [] := by simpa [front, hp] using hempty.1
  refine ⟨⟨hp, hempty.2, ?_⟩, hunsent⟩
  have hle := (hwf.primary p hp).1.1
  have hlen := p.length_unsent
  rw [hunsent, List.length_nil, Primary.remaining] at hlen
  rw [Primary.base, if_pos (by omega)]
  rfl

/-- A loaded buffer is all that a blocking call takes out. -/
theorem Holds.sweep (h : s.Holds p) (hp : p.unsent ≠ []) (goal : Goal) :
    s.sweep goal = { chunks := [], primary := some p, goal } ∧ s.swept.Emptied := by
  have hr := Primary.hasRemaining_iff.2 hp
  have htake : s.takeOverflow.1.takePrimaryIfPending = ({ s.takeOverflow.1 with primary := none }, some p) := by
    have hprimary : s.takeOverflow.1.primary = some p := h.primary
    simp [takePrimaryIfPending, hprimary, hr]
  refine ⟨?_, ?_, ?_⟩
  · simp [Store.sweep, htake, h.overflow]
  · simp [swept, htake]
  · simp [swept]

/-- The buffer comes back empty. -/
theorem Emptied.reclaim (h : s.Emptied) (hp : p.unsent = []) : (s.reclaim (.primary p)).Holds p.clear := by
  have hr := Primary.hasRemaining_eq_false_iff.2 hp
  refine ⟨?_, ?_, Primary.pos_base rfl⟩
  · simp [Store.reclaim, hr, restorePrimary, h.primary]
  · rw [overflow_reclaim, h.overflow]

end Store

/-- With nothing in flight and nothing queued a round of a blocking add fills the buffer as far as it goes. -/
theorem Connection.absorb_holds {c : Connection} {p : Primary} (h : c.store.Holds p) (hwf : p.WellFormed)
    (hfree : c.permit.held = false) (src : Chunk) : ∃ q count, (c.absorb src).2.1 = count ∧
      (c.absorb src).1.Holds q ∧ q.unsent = p.unsent ++ src.unsent.take count ∧
      count = min src.unsent.length (p.capacity - p.unsent.length) ∧
      (c.absorb src).2.2 = decide (p.unsent.length + count = p.capacity) := by
  have hpending : c.store.hasPending = false := Store.hasPending_eq_false_iff.2 h.overflow
  have hensure : c.store.ensurePrimary = c.store := by simp [Store.ensurePrimary, h.primary]
  have htransfer : c.store.transfer src
      = ({ c.store with primary := some (p.transfer src).1 }, (p.transfer src).2) := by
    simp [Store.transfer, h.primary]
  have habs : c.absorb src = ({ c.store with primary := some (p.transfer src).1 }, (p.transfer src).2,
      (p.transfer src).1.isFull) := by
    simp [absorb, hpending, hfree, hensure, htransfer]
  have hsize := Primary.size_base h.start
  have hcount : (p.transfer src).2 = min src.unsent.length (p.capacity - p.unsent.length) := by
    rw [Primary.transfer_eq, ← hsize, ← p.capacity_base, Chunk.length_unsent]
    rfl
  have hunsent := Primary.unsent_transfer hwf src
  have hfilled : (p.transfer src).1.filled.size = p.unsent.length + (p.transfer src).2 := by
    have hlen := congrArg List.length hunsent
    have hpos : (p.transfer src).1.pos = 0 := h.start
    rw [Primary.length_unsent, Primary.remaining, hpos, List.length_append, List.length_take] at hlen
    omega
  refine ⟨(p.transfer src).1, (p.transfer src).2, by rw [habs], ?_, hunsent, hcount, ?_⟩
  · rw [habs]
    exact ⟨rfl, h.overflow, Primary.pos_base h.start⟩
  · rw [habs, Primary.isFull, hfilled, Primary.capacity_transfer, Bool.beq_eq_decide_eq]

namespace System

/-! ### The stages of an add -/

/-- The other side has `acked` of the stream, in blocks of the given size, and `p` holds the rest. -/
structure Blocked (size : Nat) (stream acked : List UInt8) (store : Store) (p : Primary) : Prop where
  store : store.Holds p
  short : p.unsent.length < size
  whole : acked ++ p.unsent = stream
  blocks : size ∣ acked.length

/-- How far the blocking add on thread `t`, above `rest`, has come with the stream. The other side has `acked` of it, in
blocks of the given size up to the one that is being written. The last parameter bounds the steps that are left of the
add and of writing out what it stores: a round trip takes four of them and gets rid of a byte at least, and with each
block there are five more. -/
inductive Filling (size : Nat) (t : ThreadId) (rest : List Frame) (stream acked : List UInt8) (s : System) : Nat → Prop
  | adding (p : Primary) (src : Chunk) (hst : (s.thread t).stack = .adding src :: rest)
      (hstore : s.conn.store.Holds p) (hshort : p.unsent.length < size)
      (hwhole : acked ++ (p.unsent ++ src.unsent) = stream) (hblocks : size ∣ acked.length) :
      Filling size t rest stream acked s
        (9 * (p.unsent.length + src.unsent.length) + 1 + min 1 src.unsent.length)
  | collecting (p : Primary) (src : Chunk) (hst : (s.thread t).stack = .collecting (.add src) :: rest)
      (hstore : s.conn.store.Holds p) (hfull : p.unsent.length = size)
      (hwhole : acked ++ (p.unsent ++ src.unsent) = stream) (hblocks : size ∣ acked.length) :
      Filling size t rest stream acked s (9 * (size + src.unsent.length) + 1)
  | sweeping (p : Primary) (src : Chunk)
      (hst : (s.thread t).stack = .sweeping { chunks := [], primary := some p, goal := .add src } :: rest)
      (hstore : s.conn.store.Emptied) (hfull : p.unsent.length = size)
      (hwhole : acked ++ (p.unsent ++ src.unsent) = stream) (hblocks : size ∣ acked.length) :
      Filling size t rest stream acked s (9 * (size + src.unsent.length))
  | writing (p : Primary) (src : Chunk)
      (hst : (s.thread t).stack
        = .writing (.primary p) { chunks := [], primary := none, goal := .add src } :: rest)
      (hstore : s.conn.store.Emptied) (hle : p.unsent.length ≤ size)
      (hwhole : acked ++ (p.unsent ++ src.unsent) = stream) (hblocks : size ∣ acked.length + p.unsent.length) :
      Filling size t rest stream acked s (4 * p.unsent.length + 9 * src.unsent.length + 4)
  | waiting (w : WriteId) (p : Primary) (src : Chunk) (inside : Bool)
      (hst : (s.thread t).stack = (if inside then [.inTransport w] else [])
        ++ .awaitingReply w { chunks := [], primary := none, goal := .add src } :: rest)
      (hstore : s.conn.store.Emptied) (hleft : p.unsent ≠ []) (hle : p.unsent.length ≤ size)
      (hwhole : acked ++ (p.unsent ++ src.unsent) = stream) (hblocks : size ∣ acked.length + p.unsent.length)
      (hw : s.outstanding.find? w = some (.trip (.primary p))) (hanswer : s.answers.find? w = none) :
      Filling size t rest stream acked s (4 * p.unsent.length + 9 * src.unsent.length + 2 + inside.toNat)
  | answered (w : WriteId) (p : Primary) (src : Chunk) (inside : Bool) (outcome : Outcome) (left : List UInt8)
      (hst : (s.thread t).stack = (if inside then [.inTransport w] else [])
        ++ .awaitingReply w { chunks := [], primary := none, goal := .add src } :: rest)
      (hstore : s.conn.store.Emptied) (hleft : left = p.unsent.drop outcome.count) (hle : left.length ≤ size)
      (hwhole : acked ++ (left ++ src.unsent) = stream) (hblocks : size ∣ acked.length + left.length)
      (hw : s.outstanding.find? w = none) (hanswer : s.answers.find? w = some (.returned outcome (.primary p)))
      (hconfirms : (TripEnd.returned outcome).confirms = true) :
      Filling size t rest stream acked s (4 * left.length + 9 * src.unsent.length + 5 + inside.toNat)
  | swept (p : Primary) (src : Chunk)
      (hst : (s.thread t).stack = .sweeping { chunks := [], primary := none, goal := .add src } :: rest)
      (hstore : s.conn.store.Holds p) (hempty : p.unsent = []) (hwhole : acked ++ src.unsent = stream)
      (hblocks : size ∣ acked.length) :
      Filling size t rest stream acked s (9 * src.unsent.length + 3)

variable {size n : Nat} {t : ThreadId} {rest : List Frame} {stream acked : List UInt8} {s s' : System} {a : Action}
  {sig : Option Signal}

/-- What a step of the add comes to: it goes on, or is done. -/
inductive Advance (size : Nat) (t : ThreadId) (rest : List Frame) (stream acked : List UInt8) (s' : System) (n : Nat) :
    Option Signal → Prop
  | goesOn {sig : Option Signal} {n' : Nat} (h : Filling size t rest stream acked s' n') (hlt : n' < n)
      (hsig : ∀ reply, sig ≠ some (.replied reply)) : Advance size t rest stream acked s' n sig
  | ends {p : Primary} (hst : (s'.thread t).stack = rest) (h : Blocked size stream acked s'.conn.store p)
      (hlt : 9 * p.unsent.length < n) : Advance size t rest stream acked s' n (some (.replied .done))

/-- The step can be done. It changes the store of the connection at most, and brings the add nearer to its end. -/
def Steps (size : Nat) (t : ThreadId) (rest : List Frame) (stream acked : List UInt8) (s : System) (a : Action)
    (n : Nat) : Prop :=
  ∃ s' sig, s.perform a = some (s', sig) ∧ s.KeepsRest s' ∧ Advance size t rest stream acked s' n sig

/-- As much as fits goes into the buffer. If that is full then, it is written out. -/
theorem adding_steps {p : Primary} {src : Chunk} (hsound : s.conn.store.Sound size)
    (hfree : s.conn.permit.held = false) (hst : (s.thread t).stack = .adding src :: rest)
    (hstore : s.conn.store.Holds p) (hshort : p.unsent.length < size)
    (hwhole : acked ++ (p.unsent ++ src.unsent) = stream) (hblocks : size ∣ acked.length) :
    Steps size t rest stream acked s (.run t)
      (9 * (p.unsent.length + src.unsent.length) + 1 + min 1 src.unsent.length) := by
  cases hsrc : src.hasRemaining with
  | false =>
    have hnil := Chunk.hasRemaining_eq_false_iff.1 hsrc
    rw [hnil, List.append_nil] at hwhole
    refine ⟨s.setStack t rest, some (.replied .done), ?_, rfl,
      .ends (by simp) ⟨hstore, hshort, hwhole, hblocks⟩ (by omega)⟩
    simp [perform, run, hst, runAdding, hsrc, answer]
  | true =>
    have hpos := List.length_pos_iff.2 (Chunk.hasRemaining_iff_unsent.1 hsrc)
    have hp := hsound.wellFormed.primary p hstore.primary
    obtain ⟨q, count, hcount, hq, hunsent, hmin, hfull⟩ := Connection.absorb_holds hstore hp.1 hfree src
    rw [hp.2, hsound.size] at hmin hfull
    have hlen : q.unsent.length = p.unsent.length + count := by
      rw [hunsent, List.length_append, List.length_take]
      omega
    have hwhole' : acked ++ (q.unsent ++ (src.drop count).unsent) = stream := by
      rw [hunsent, Chunk.unsent_drop, List.append_assoc, List.take_append_drop, hwhole]
    have hrest : (src.drop count).unsent.length = src.unsent.length - count := by
      rw [Chunk.unsent_drop, List.length_drop]
    by_cases hends : p.unsent.length + count = size
    · rw [decide_eq_true hends] at hfull
      refine ⟨(s.setStack t (.collecting (.add (src.drop count)) :: rest)).setStore (s.conn.absorb src).1, none, ?_,
        rfl, .goesOn (.collecting q (src.drop count) (by simp) hq (hlen.trans hends) hwhole' hblocks) ?_ (by simp)⟩
      · simp [perform, run, hst, runAdding, hsrc, hfull, hcount, sweepFrame, hfree]
        rfl
      · omega
    · rw [decide_eq_false hends] at hfull
      refine ⟨(s.setStack t (.adding (src.drop count) :: rest)).setStore (s.conn.absorb src).1, none, ?_, rfl,
        .goesOn (.adding q (src.drop count) (by simp) hq (by omega) hwhole' hblocks) ?_ (by simp)⟩
      · simp [perform, run, hst, runAdding, hsrc, hfull, hcount]
        rfl
      · omega

theorem collecting_steps {p : Primary} {src : Chunk} (hsize : 0 < size) (herr : s.conn.error = none)
    (hst : (s.thread t).stack = .collecting (.add src) :: rest) (hstore : s.conn.store.Holds p)
    (hfull : p.unsent.length = size) (hwhole : acked ++ (p.unsent ++ src.unsent) = stream)
    (hblocks : size ∣ acked.length) :
    Steps size t rest stream acked s (.run t) (9 * (size + src.unsent.length) + 1) := by
  obtain ⟨hsweep, hemptied⟩ := hstore.sweep (List.ne_nil_of_length_pos (by omega)) (.add src)
  refine ⟨(s.setStack t (.sweeping (s.conn.store.sweep (.add src)) :: rest)).setStore s.conn.store.swept, none, ?_, rfl,
    .goesOn (.sweeping p src (by simp [hsweep]) hemptied hfull hwhole hblocks) (Nat.lt_succ_self _) (by simp)⟩
  simp only [perform, run, hst, runCollecting, herr]
  rfl

theorem sweeping_steps {p : Primary} {src : Chunk} (hsize : 0 < size)
    (hst : (s.thread t).stack = .sweeping { chunks := [], primary := some p, goal := .add src } :: rest)
    (hstore : s.conn.store.Emptied) (hfull : p.unsent.length = size)
    (hwhole : acked ++ (p.unsent ++ src.unsent) = stream) (hblocks : size ∣ acked.length) :
    Steps size t rest stream acked s (.run t) (9 * (size + src.unsent.length)) := by
  refine ⟨s.setStack t (.writing (.primary p) { chunks := [], primary := none, goal := .add src } :: rest), none, ?_,
    rfl, .goesOn (.writing p src (by simp) hstore hfull.le hwhole ?_) (by omega) (by simp)⟩
  · simp [perform, run, hst, runSweeping]
  · rw [hfull]
    exact Nat.dvd_add hblocks (Nat.dvd_refl size)

theorem writing_steps {p : Primary} {src : Chunk} (hnum : s.Numbered)
    (hst : (s.thread t).stack = .writing (.primary p) { chunks := [], primary := none, goal := .add src } :: rest)
    (hstore : s.conn.store.Emptied) (hle : p.unsent.length ≤ size)
    (hwhole : acked ++ (p.unsent ++ src.unsent) = stream) (hblocks : size ∣ acked.length + p.unsent.length) :
    Steps size t rest stream acked s (.run t) (4 * p.unsent.length + 9 * src.unsent.length + 4) := by
  cases hbuf : (Buffer.primary p).hasRemaining with
  | true =>
    have hst' : ((((s.setStack t (.awaitingReply s.nextWrite { chunks := [], primary := none, goal := .add src } ::
        rest)).handOver t (.trip (.primary p))).1).thread t).stack = .inTransport s.nextWrite ::
          .awaitingReply s.nextWrite { chunks := [], primary := none, goal := .add src } :: rest := by
      rw [thread_handOver_self]
      simp
    have hw : ((s.setStack t (.awaitingReply s.nextWrite { chunks := [], primary := none, goal := .add src } ::
        rest)).handOver t (.trip (.primary p))).1.outstanding.find? s.nextWrite = some (.trip (.primary p)) := by
      simp [Table.find?_set]
    refine ⟨((s.setStack t (.awaitingReply s.nextWrite { chunks := [], primary := none, goal := .add src } ::
      rest)).handOver t (.trip (.primary p))).1, some (.handed s.nextWrite), ?_, rfl,
      .goesOn (.waiting s.nextWrite p src true hst' hstore (Buffer.hasRemaining_iff.1 hbuf) hle hwhole hblocks hw
        (hnum.answers _ (Nat.le_refl _))) (by simp) (by simp)⟩
    simp only [perform, run, hst, runWriting, hbuf, if_true]
    rfl
  | false =>
    have hnil : p.unsent = [] := Buffer.hasRemaining_eq_false_iff.1 hbuf
    refine ⟨(s.setStack t (.sweeping { chunks := [], primary := none, goal := .add src } :: rest)).setStore
      (s.conn.store.reclaim (.primary p)), none, ?_, rfl,
      .goesOn (.swept p.clear src (by simp) (hstore.reclaim hnil) p.unsent_clear ?_ ?_) (by simp [hnil]) (by simp)⟩
    · simp only [perform, run, hst, runWriting, hbuf, Bool.false_eq_true, if_false]
      rfl
    · rwa [hnil, List.nil_append] at hwhole
    · rwa [hnil, List.length_nil, Nat.add_zero] at hblocks

theorem answered_steps {w : WriteId} {p : Primary} {src : Chunk} {outcome : Outcome} {left : List UInt8}
    (hst : (s.thread t).stack = .awaitingReply w { chunks := [], primary := none, goal := .add src } :: rest)
    (hstore : s.conn.store.Emptied) (hleft : left = p.unsent.drop outcome.count) (hle : left.length ≤ size)
    (hwhole : acked ++ (left ++ src.unsent) = stream) (hblocks : size ∣ acked.length + left.length)
    (hanswer : s.answers.find? w = some (.returned outcome (.primary p)))
    (hconfirms : (TripEnd.returned outcome).confirms = true) :
    Steps size t rest stream acked s (.run t) (4 * left.length + 9 * src.unsent.length + 5) := by
  obtain ⟨hwritten, -⟩ := TripEnd.confirms_returned hconfirms
  have hdrop : (p.drop (min outcome.count p.remaining)).unsent = left := by
    rw [Primary.unsent_drop, hleft]
    exact drop_min_remaining outcome.count (.primary p)
  refine ⟨(s.setStack t (.writing (.primary (p.drop (min outcome.count p.remaining)))
      { chunks := [], primary := none, goal := .add src } :: rest)).setAnswers (s.answers.erase w), none, ?_, rfl,
    .goesOn (.writing (p.drop (min outcome.count p.remaining)) src (by simp) hstore (hdrop ▸ hle) (hdrop ▸ hwhole)
      (hdrop ▸ hblocks)) (by rw [hdrop]; omega) (by simp)⟩
  have hadvance := Buffer.advance_of_le (b := .primary p) (Nat.min_le_right outcome.count (Buffer.primary p).remaining)
  simp only [perform, run, hst, runAwaitingReply, hanswer, hwritten, hadvance]
  rfl

theorem swept_steps {p : Primary} {src : Chunk} (hsize : 0 < size)
    (hst : (s.thread t).stack = .sweeping { chunks := [], primary := none, goal := .add src } :: rest)
    (hstore : s.conn.store.Holds p) (hempty : p.unsent = []) (hwhole : acked ++ src.unsent = stream)
    (hblocks : size ∣ acked.length) :
    Steps size t rest stream acked s (.run t) (9 * src.unsent.length + 3) := by
  have hensure : s.conn.store.ensurePrimary = s.conn.store := by simp [Store.ensurePrimary, hstore.primary]
  have hnext : Filling size t rest stream acked (s.setStack t (.adding src :: rest)) _ :=
    .adding p src (by simp) hstore (by simpa [hempty] using hsize) (by simpa [hempty] using hwhole) hblocks
  refine ⟨s.setStack t (.adding src :: rest), none, ?_, rfl, .goesOn hnext ?_ (by simp)⟩
  · simp [perform, run, hst, runSweeping, hensure]
    rfl
  · rw [hempty, List.length_nil]
    omega

/-! ### The next step -/

theorem Steps.of_perform (hsteps : Steps size t rest stream acked s a n) (h : s.perform a = some (s', sig)) :
    s.KeepsRest s' ∧ Advance size t rest stream acked s' n sig := by
  obtain ⟨s₁, sig₁, h₁, hkeeps, hadvance⟩ := hsteps
  cases h.symm.trans h₁
  exact ⟨hkeeps, hadvance⟩

/-- The transport returns to the add. -/
theorem returned_steps {w : WriteId} {below : List Frame} {n' : Nat}
    (hst : (s.thread t).stack = .inTransport w :: below)
    (hfill : Filling size t rest stream acked (s.setStack t below) n') (hlt : n' < n) :
    Steps size t rest stream acked s (.resume t) n :=
  ⟨s.setStack t below, none, by simp [perform, resume, hst], rfl, .goesOn hfill hlt (by simp)⟩

/-- What the thread of an add can do: the next step of the add, or the return of the transport. Or it waits for the end
of a round trip. -/
theorem Filling.next (hfill : Filling size t rest stream acked s n) (hsize : 0 < size) (hnum : s.Numbered)
    (hsound : s.conn.store.Sound size) (herr : s.conn.error = none) (hfree : s.conn.permit.held = false) :
    (Steps size t rest stream acked s (.run t) n ∧ s.perform (.resume t) = none) ∨
    (Steps size t rest stream acked s (.resume t) n ∧ s.perform (.run t) = none) ∨
    (s.perform (.run t) = none ∧ s.perform (.resume t) = none ∧
      ∃ w buf, (s.thread t).awaited? = some w ∧ s.outstanding.find? w = some (.trip buf)) := by
  cases hfill with
  | adding p src hst hstore hshort hwhole hblocks =>
    exact .inl ⟨adding_steps hsound hfree hst hstore hshort hwhole hblocks, by simp [perform, resume, hst]⟩
  | collecting p src hst hstore hfull hwhole hblocks =>
    exact .inl ⟨collecting_steps hsize herr hst hstore hfull hwhole hblocks, by simp [perform, resume, hst]⟩
  | sweeping p src hst hstore hfull hwhole hblocks =>
    exact .inl ⟨sweeping_steps hsize hst hstore hfull hwhole hblocks, by simp [perform, resume, hst]⟩
  | writing p src hst hstore hle hwhole hblocks =>
    exact .inl ⟨writing_steps hnum hst hstore hle hwhole hblocks, by simp [perform, resume, hst]⟩
  | waiting w p src inside hst hstore hleft hle hwhole hblocks hw hanswer =>
    cases inside with
    | true =>
      exact .inr (.inl ⟨returned_steps hst (.waiting w p src false (by simp) hstore hleft hle hwhole hblocks hw hanswer)
        (by simp), perform_run_foreign hst⟩)
    | false =>
      exact .inr (.inr ⟨by simp [perform, run, hst, runAwaitingReply, hanswer], by simp [perform, resume, hst], w, _,
        awaited?_of_stack hst, hw⟩)
  | answered w p src inside outcome left hst hstore hleft hle hwhole hblocks hw hanswer hconfirms =>
    cases inside with
    | true =>
      exact .inr (.inl ⟨returned_steps hst (.answered w p src false outcome left (by simp) hstore hleft hle hwhole
        hblocks hw hanswer hconfirms) (by simp), perform_run_foreign hst⟩)
    | false =>
      exact .inl ⟨answered_steps hst hstore hleft hle hwhole hblocks hanswer hconfirms, by simp [perform, resume, hst]⟩
  | swept p src hst hstore hempty hwhole hblocks =>
    exact .inl ⟨swept_steps hsize hst hstore hempty hwhole hblocks, by simp [perform, resume, hst]⟩

/-- A step on the thread of an add is the next step of the add. -/
theorem Filling.advanced (hfill : Filling size t rest stream acked s n) (hsize : 0 < size) (hnum : s.Numbered)
    (hsound : s.conn.store.Sound size) (herr : s.conn.error = none) (hfree : s.conn.permit.held = false)
    (h : s.perform a = some (s', sig)) (ha : a = .run t ∨ a = .resume t) :
    s.KeepsRest s' ∧ Advance size t rest stream acked s' n sig := by
  obtain rfl | rfl := ha
  · obtain ⟨hsteps, -⟩ | ⟨-, hnone⟩ | ⟨hnone, -, -⟩ := hfill.next hsize hnum hsound herr hfree
    · exact hsteps.of_perform h
    · cases hnone.symm.trans h
    · cases hnone.symm.trans h
  · obtain ⟨-, hnone⟩ | ⟨hsteps, -⟩ | ⟨-, hnone, -⟩ := hfill.next hsize hnum hsound herr hfree
    · cases hnone.symm.trans h
    · exact hsteps.of_perform h
    · cases hnone.symm.trans h

/-- Time runs out only for an add that waits for the transport. -/
theorem Filling.awaits_of_expire (hfill : Filling size t rest stream acked s n)
    (h : s.perform (.expire t) = some (s', sig)) : (s.thread t).awaited?.isSome = true := by
  cases hfill with
  | adding p src hst _ _ _ _ => simp [perform, expire, hst] at h
  | collecting p src hst _ _ _ _ => simp [perform, expire, hst] at h
  | sweeping p src hst _ _ _ _ => simp [perform, expire, hst] at h
  | writing p src hst _ _ _ _ => simp [perform, expire, hst] at h
  | waiting w p src inside hst _ _ _ _ _ _ _ => simp [awaited?_of_stack hst]
  | answered w p src inside outcome left hst _ _ _ _ _ _ _ _ => simp [awaited?_of_stack hst]
  | swept p src hst _ _ _ _ => simp [perform, expire, hst] at h

/-- The add stays where it is while other things are done, until the round trip ends. -/
theorem Filling.aside (hfill : Filling size t rest stream acked s n) (hnum : s.Numbered)
    (haside : s.Aside t a s' sig) (h : Step s a s' sig) (hexpire : a ≠ .expire t)
    (hconfirms : ∀ e ∈ Move.tripEnd? t ⟨s, a, s', sig⟩, e.confirms = true) :
    ∃ n', Filling size t rest stream (acked ++ Move.confirmedTo t ⟨s, a, s', sig⟩) s' n' ∧
      n' + (Move.tripEnd? t ⟨s, a, s', sig⟩).isSome.toNat ≤ n := by
  have hthread := haside.thread
  have hquiet (hnone : Move.tripEnd? t ⟨s, a, s', sig⟩ = none) (hfill' : Filling size t rest stream acked s' n) :
      ∃ n', Filling size t rest stream (acked ++ Move.confirmedTo t ⟨s, a, s', sig⟩) s' n' ∧
        n' + (Move.tripEnd? t ⟨s, a, s', sig⟩).isSome.toNat ≤ n :=
    ⟨n, by simpa [Move.confirmedTo, hnone] using hfill', by simp [hnone]⟩
  cases hfill with
  | adding p src hst hstore hshort hwhole hblocks =>
    exact hquiet (tripEnd?_eq_none hexpire (by simp [Thread.awaited?, hst]))
      (.adding p src (hthread ▸ hst) (haside.conn ▸ hstore) hshort hwhole hblocks)
  | collecting p src hst hstore hfull hwhole hblocks =>
    exact hquiet (tripEnd?_eq_none hexpire (by simp [Thread.awaited?, hst]))
      (.collecting p src (hthread ▸ hst) (haside.conn ▸ hstore) hfull hwhole hblocks)
  | sweeping p src hst hstore hfull hwhole hblocks =>
    exact hquiet (tripEnd?_eq_none hexpire (by simp [Thread.awaited?, hst]))
      (.sweeping p src (hthread ▸ hst) (haside.conn ▸ hstore) hfull hwhole hblocks)
  | writing p src hst hstore hle hwhole hblocks =>
    exact hquiet (tripEnd?_eq_none hexpire (by simp [Thread.awaited?, hst]))
      (.writing p src (hthread ▸ hst) (haside.conn ▸ hstore) hle hwhole hblocks)
  | swept p src hst hstore hempty hwhole hblocks =>
    exact hquiet (tripEnd?_eq_none hexpire (by simp [Thread.awaited?, hst]))
      (.swept p src (hthread ▸ hst) (haside.conn ▸ hstore) hempty hwhole hblocks)
  | answered w p src inside outcome left hst hstore hleft hle hwhole hblocks hw hanswer hreturned =>
    have hends := not_ends_of_gone hw h
    have hgone := (haside.outstanding w (hnum.lt_nextWrite_of_answer hanswer) hends).trans hw
    have hstill := (haside.answers w hends).trans hanswer
    exact hquiet (tripEnd?_eq_none hexpire fun v hv => by simp_all [awaited?_of_stack hst])
      (.answered w p src inside outcome left (hthread ▸ hst) (haside.conn ▸ hstore) hleft hle hwhole hblocks hgone
        hstill hreturned)
  | waiting w p src inside hst hstore hleft hle hwhole hblocks hw hanswer =>
    have hawaited := awaited?_of_stack hst
    cases hends : a.ends w with
    | false =>
      have hkept := (haside.outstanding w (hnum.lt_nextWrite hw) hends).trans hw
      have hstill := (haside.answers w hends).trans hanswer
      exact hquiet (tripEnd?_eq_none hexpire fun v hv => by simp_all)
        (.waiting w p src inside (hthread ▸ hst) (haside.conn ▸ hstore) hleft hle hwhole hblocks hkept hstill)
    | true =>
      obtain ⟨u, outcome, rfl, hgone, hback⟩ | ⟨rfl, -, -⟩ := trip_ended hw hends h
      · have hend : Move.tripEnd? t ⟨s, .complete u w outcome, s', sig⟩ = some (.returned outcome) := if_pos hawaited
        have hack : Move.confirmedTo t ⟨s, .complete u w outcome, s', sig⟩ = p.unsent.take outcome.count := by
          simp [Move.confirmedTo, hend, Move.confirmed, confirmedBy_complete hw, unsent_trip]
          rfl
        have hreturned := hconfirms _ hend
        obtain ⟨-, hcount⟩ := TripEnd.confirms_returned hreturned
        have hpos := List.length_pos_iff.2 hleft
        have hlen : (p.unsent.take outcome.count).length + (p.unsent.drop outcome.count).length = p.unsent.length := by
          rw [← List.length_append, List.take_append_drop]
        have hless : (p.unsent.drop outcome.count).length < p.unsent.length := by
          rw [List.length_drop]
          omega
        rw [hend, hack]
        -- A byte at least is gone, which pays for the end of the round trip and the steps up to the next one.
        refine ⟨_, .answered w p src inside outcome (p.unsent.drop outcome.count) (hthread ▸ hst) (haside.conn ▸ hstore)
          rfl (by omega) ?_ ?_ hgone hback hreturned, ?_⟩
        · rw [List.append_assoc, ← List.append_assoc (p.unsent.take _), List.take_append_drop, hwhole]
        · rw [List.length_append, Nat.add_assoc, hlen]
          exact hblocks
        · rw [Option.isSome_some, Bool.toNat_true]
          omega
      · have hend : Move.tripEnd? t ⟨s, .abandon w, s', sig⟩ = some .dropped := if_pos hawaited
        cases hconfirms _ hend

/-- `left` is what the other side lacks of the block of `stream` that it gets after `acked`. -/
def RestOfBlock (size : Nat) (stream acked left : List UInt8) : Prop :=
  left ≠ [] ∧ ∃ k, k * size ≤ acked.length ∧ (k + 1) * size ≤ stream.length ∧
    acked ++ left = stream.take ((k + 1) * size)

/-- What is with the transport while an add waits is the rest of a block. -/
theorem Filling.restOfBlock {w : WriteId} {buf : Buffer} (hfill : Filling size t rest stream acked s n)
    (hawaited : (s.thread t).awaited? = some w) (hw : s.outstanding.find? w = some (.trip buf)) :
    RestOfBlock size stream acked buf.unsent := by
  cases hfill with
  | adding p src hst _ _ _ _ => simp [Thread.awaited?, hst] at hawaited
  | collecting p src hst _ _ _ _ => simp [Thread.awaited?, hst] at hawaited
  | sweeping p src hst _ _ _ _ => simp [Thread.awaited?, hst] at hawaited
  | writing p src hst _ _ _ _ => simp [Thread.awaited?, hst] at hawaited
  | swept p src hst _ _ _ _ => simp [Thread.awaited?, hst] at hawaited
  | answered v p src inside outcome left hst _ _ _ _ _ hgone _ _ =>
    cases hawaited.symm.trans (awaited?_of_stack hst)
    cases hw.symm.trans hgone
  | waiting v p src inside hst _ hleft hle hwhole hblocks hv _ =>
    cases hawaited.symm.trans (awaited?_of_stack hst)
    cases hw.symm.trans hv
    obtain ⟨k, hk⟩ := hblocks
    have hpos := List.length_pos_iff.2 hleft
    have hk' : k ≠ 0 := by
      rintro rfl
      omega
    obtain ⟨j, rfl⟩ := Nat.exists_eq_succ_of_ne_zero hk'
    have hlen : (acked ++ p.unsent).length = (j + 1) * size := by rw [List.length_append, hk, Nat.mul_comm]
    rw [← List.append_assoc] at hwhole
    refine ⟨hleft, j, ?_, ?_, ?_⟩
    · rw [List.length_append, Nat.succ_mul] at hlen
      omega
    · rw [← hwhole, List.length_append, hlen]
      exact Nat.le_add_right _ _
    · exact (List.take_left' hlen).symm.trans (congrArg _ hwhole)

end System

end Outflow
