import Outflow.Proofs.Store

/-! What a connection can do with the end of a write, with data and with the first write of a chain, said once. -/
namespace Outflow

namespace Store

variable {s : Store}

theorem hasRemaining_primary_eq_false_iff : s.primary.any Primary.hasRemaining = false ↔ s.front = [] := by
  cases hp : s.primary <;> simp [front, hp]

theorem hasFollowUp_eq_false_iff (h : s.WellFormed) : s.hasFollowUp = false ↔ s.contents = [] := by
  rw [hasFollowUp, Bool.or_eq_false_iff, hasPending_eq_false_iff, hasRemaining_primary_eq_false_iff, contents_eq,
    List.append_eq_nil_iff, queued_eq_nil_iff h, and_comm]

theorem hasFollowUp_iff (h : s.WellFormed) : s.hasFollowUp = true ↔ s.contents ≠ [] := by
  rw [← Bool.not_eq_false, hasFollowUp_eq_false_iff h]

end Store

namespace Write

/-- Something to send in each of the buffers, and at least one of them, all of the connection's making. -/
structure WellFormed (capacity : Nat) (w : Write) : Prop where
  ne_nil : w.buffers ≠ []
  hasRemaining : ∀ b ∈ w.buffers, b.hasRemaining = true
  buffers : ∀ b ∈ w.buffers, b.WellFormed capacity

variable {capacity : Nat} {w : Write} {b : Buffer} {bufs : List Buffer}

theorem WellFormed.unsent_ne_nil (h : w.WellFormed capacity) : w.unsent ≠ [] := by
  obtain ⟨b, hb⟩ := List.exists_mem_of_ne_nil _ h.ne_nil
  have hu := Buffer.hasRemaining_iff.1 (h.hasRemaining b hb)
  intro hw
  simp only [unsent, List.flatMap_eq_nil_iff] at hw
  exact hu (hw b hb)

theorem wellFormed_single (hr : b.hasRemaining = true) (hb : b.WellFormed capacity) :
    (single b).WellFormed capacity := by
  refine ⟨by simp [buffers], ?_, ?_⟩ <;> simpa [buffers]

theorem wellFormed_gather (hne : bufs.flatMap Buffer.unsent ≠ [])
    (h : ∀ b ∈ bufs, b.hasRemaining = true ∧ b.WellFormed capacity) : (gather bufs).WellFormed capacity where
  ne_nil := by
    rintro hnil
    have : bufs = [] := hnil
    simp [this] at hne
  hasRemaining b hb := (h b hb).1
  buffers b hb := (h b hb).2

end Write

namespace Connection

variable {c : Connection} {f : Flight} {isInline : Bool} {outcome : Outcome} {write : Write} {src : Chunk}

/-! ### The end of a write -/

/-- What the end of `write` does to a connection. -/
inductive Settled (c : Connection) (f : Flight) (isInline : Bool) (outcome : Outcome) (write : Write) :
    Connection → Verdict → Prop
  | stale (hg : c.permit.isCurrent f.guard = false) : Settled c f isInline outcome write c .stale
  | failed {err : Error} (hw : outcome.written = .error err) (hg : c.permit.isCurrent f.guard = true) :
      Settled c f isInline outcome write
        { c with
          store := (write.buffers.foldl Store.reclaim c.store).discard.1
          error := some err
          interest := false
          permit := c.permit.release f.guard }
        (.failed err)
  | alone {count : Nat} {buf : Buffer} (hw : outcome.written = .ok count)
      (hg : c.permit.isCurrent f.guard = true) (hs : c.store.hasFollowUp = false)
      (hb : dropAll count write.buffers = [buf]) (hr : buf.hasRemaining = true) :
      Settled c f isInline outcome write c (.reissue (.single buf))
  | gathered {count : Nat} (hw : outcome.written = .ok count) (hg : c.permit.isCurrent f.guard = true)
      (hs : c.store.hasFollowUp = true ∨ (dropAll count write.buffers).any Buffer.hasRemaining = true) :
      Settled c f isInline outcome write { c with store := (c.store.drain (dropAll count write.buffers)).1 }
        (.reissue (.gather (c.store.drain (dropAll count write.buffers)).2))
  | finished {count : Nat} (hw : outcome.written = .ok count) (hg : c.permit.isCurrent f.guard = true)
      (hs : c.store.hasFollowUp = false)
      (hb : ∀ b ∈ dropAll count write.buffers, b.hasRemaining = false) :
      Settled c f isInline outcome write
        (finish { c with store := (dropAll count write.buffers).foldl Store.reclaim c.store } f isInline).1
        (.finished (c.interest && !isInline))

theorem release_of_not_current {p : Permit} {g : Guard} (h : p.isCurrent g = false) : p.release g = p := by
  simp [Permit.release, h]

/-- The guard is given back unless the chain goes on. -/
theorem Settled.permit {c' : Connection} {v : Verdict} (h : Settled c f isInline outcome write c' v) :
    c'.permit = match v with
      | .reissue _ => c.permit
      | _ => c.permit.release f.guard := by
  cases h with
  | stale hg => exact (release_of_not_current hg).symm
  | failed hw hg => rfl
  | alone hw hg hs hb hr => rfl
  | gathered hw hg hs => rfl
  | finished hw hg hs hb => rfl

theorem Settled.not_isCurrent {c' : Connection} (h : Settled c f isInline outcome write c' .stale) :
    c.permit.isCurrent f.guard = false := by
  cases h with
  | stale hg => exact hg

theorem Settled.isCurrent {c' : Connection} {v : Verdict} (h : Settled c f isInline outcome write c' v)
    (hv : v ≠ .stale) : c.permit.isCurrent f.guard = true := by
  cases h with
  | stale hg => exact absurd rfl hv
  | failed hw hg | alone hw hg hs hb hr | gathered hw hg hs | finished hw hg hs hb => exact hg

theorem Settled.written_failed {c' : Connection} {err : Error}
    (h : Settled c f isInline outcome write c' (.failed err)) : outcome.written = .error err := by
  cases h with
  | failed hw hg => exact hw

theorem unsent_of_dropAll_eq_nil {count : Nat} (hb : ∀ b ∈ dropAll count write.buffers, b.hasRemaining = false) :
    write.unsent.drop count = [] := by
  rw [Write.unsent, ← unsent_dropAll, List.flatMap_eq_nil_iff]
  exact fun b hm => Buffer.hasRemaining_eq_false_iff.1 (hb b hm)

/-- A chain goes on with what is left of its write and everything stored. -/
theorem Settled.unsent_reissue {c' : Connection} {next : Write}
    (h : Settled c f isInline outcome write c' (.reissue next)) (hs : c.store.WellFormed) :
    ∃ count, outcome.written = .ok count ∧ c.permit.isCurrent f.guard = true ∧
      next.unsent = write.unsent.drop count ++ c.store.contents ∧ c'.store.contents = [] := by
  cases h with
  | @alone count buf hw hg hf hb hr =>
    have hc := (Store.hasFollowUp_eq_false_iff hs).1 hf
    have hu := unsent_dropAll count write.buffers
    rw [hb] at hu
    refine ⟨count, hw, hg, ?_, hc⟩
    rw [hc, List.append_nil]
    exact hu
  | @gathered count hw hg hf =>
    refine ⟨count, hw, hg, ?_, Store.contents_drain _ _⟩
    rw [Write.unsent, Write.unsent, ← unsent_dropAll]
    exact Store.unsent_drain _ _

/-- A chain ends when there is nothing more to write. -/
theorem Settled.unsent_finished {c' : Connection} {notify : Bool}
    (h : Settled c f isInline outcome write c' (.finished notify)) (hs : c.store.WellFormed) :
    ∃ count, outcome.written = .ok count ∧ c.permit.isCurrent f.guard = true ∧
      write.unsent.drop count = [] ∧ c.store.contents = [] ∧ c'.store.contents = [] := by
  cases h with
  | @finished count hw hg hf hb =>
    have hc := (Store.hasFollowUp_eq_false_iff hs).1 hf
    refine ⟨count, hw, hg, unsent_of_dropAll_eq_nil hb, hc, ?_⟩
    rw [Store.contents_eq, List.append_eq_nil_iff] at hc
    simp only [finish, Store.contents_eq, Store.front_foldl_reclaim hb, Store.queued, Store.overflow_foldl_reclaim]
    simpa [Store.queued] using hc

/-- A failure leaves nothing to send. -/
theorem Settled.contents_failed {c' : Connection} {err : Error}
    (h : Settled c f isInline outcome write c' (.failed err)) : c'.store.contents = [] := by
  cases h
  exact Store.contents_discard _

theorem Settled.store {c' : Connection} {v : Verdict} (h : Settled c f isInline outcome write c' v)
    (hs : c.store.WellFormed) (hw : write.WellFormed c.store.capacity) :
    c'.store.WellFormed ∧ c'.store.capacity = c.store.capacity := by
  have hdrop (count : Nat) := wellFormed_dropAll count hw.buffers
  cases h with
  | stale hg => exact ⟨hs, rfl⟩
  | failed hwr hg =>
    exact ⟨Store.wellFormed_discard (Store.wellFormed_foldl_reclaim hs hw.buffers), by simp⟩
  | alone hwr hg hf hb hr => exact ⟨hs, rfl⟩
  | gathered hwr hg hf => exact ⟨Store.wellFormed_drain hs (hdrop _), by simp⟩
  | finished hwr hg hf hb => exact ⟨Store.wellFormed_foldl_reclaim hs (hdrop _), by simp [finish]⟩

theorem Settled.next {c' : Connection} {next : Write} (h : Settled c f isInline outcome write c' (.reissue next))
    (hs : c.store.WellFormed) (hw : write.WellFormed c.store.capacity) : next.WellFormed c.store.capacity := by
  have hdrop (count : Nat) := wellFormed_dropAll count hw.buffers
  cases h with
  | @alone count buf hwr hg hf hb hr => exact Write.wellFormed_single hr (hdrop count buf (by simp [hb]))
  | @gathered count hwr hg hf =>
    refine Write.wellFormed_gather ?_ (Store.mem_drain hs (hdrop count))
    rw [Store.unsent_drain, ne_eq, List.append_eq_nil_iff, not_and_or]
    rcases hf with hf | hf
    · exact .inr ((Store.hasFollowUp_iff hs).1 hf)
    · obtain ⟨b, hb, hr⟩ := List.any_eq_true.1 hf
      refine .inl fun hnil => ?_
      exact Buffer.hasRemaining_iff.1 hr (List.flatMap_eq_nil_iff.1 hnil b hb)

theorem fail_settled {err : Error} (hw : outcome.written = .error err) :
    Settled c f isInline outcome write (c.fail err write.buffers f).1 (c.fail err write.buffers f).2 := by
  cases hg : c.permit.isCurrent f.guard
  · simpa [fail, hg] using .stale hg
  · simpa [fail, hg] using .failed hw hg

theorem settleSingle_cases (c : Connection) (f : Flight) (isInline : Bool) (outcome : Outcome) (buf : Buffer) :
    ∃ c' v, c.settleSingle f isInline outcome buf = .ok (c', v) ∧
      Settled c f isInline outcome (.single buf) c' v := by
  unfold settleSingle
  cases hw : outcome.written with
  | error err =>
    have h : Settled c f isInline outcome (.single buf) _ _ := fail_settled hw
    exact ⟨_, _, rfl, h⟩
  | ok count =>
    have hdrop : dropAll count (Write.single buf).buffers = [buf.drop (min count buf.remaining)] := rfl
    simp only [Buffer.advance_of_le (Nat.min_le_right count buf.remaining), bind, Except.bind, pure, Except.pure]
    cases hg : c.permit.isCurrent f.guard with
    | false => exact ⟨_, _, rfl, .stale hg⟩
    | true =>
      cases hs : c.store.hasFollowUp with
      | true => exact ⟨_, _, rfl, hdrop ▸ .gathered hw hg (.inl hs)⟩
      | false =>
        cases hr : (buf.drop (min count buf.remaining)).hasRemaining with
        | true => exact ⟨_, _, rfl, .alone hw hg hs hdrop hr⟩
        | false =>
          have hb : ∀ b ∈ dropAll count (Write.single buf).buffers, b.hasRemaining = false := by
            rw [hdrop]
            simpa only [List.forall_mem_singleton] using hr
          have h : Settled c f isInline outcome (.single buf) _ _ := .finished hw hg hs hb
          rw [hdrop] at h
          exact ⟨_, _, rfl, h⟩

theorem settleGather_cases (c : Connection) (f : Flight) (isInline : Bool) (outcome : Outcome) (bufs : List Buffer) :
    ∃ c' v, c.settleGather f isInline outcome bufs = .ok (c', v) ∧
      Settled c f isInline outcome (.gather bufs) c' v := by
  unfold settleGather
  cases hw : outcome.written with
  | error err =>
    have h : Settled c f isInline outcome (.gather bufs) _ _ := fail_settled hw
    exact ⟨_, _, rfl, h⟩
  | ok count =>
    simp only [advanceAll_eq, bind, Except.bind, pure, Except.pure]
    cases hg : c.permit.isCurrent f.guard with
    | false => exact ⟨_, _, rfl, .stale hg⟩
    | true =>
      cases hs : c.store.hasFollowUp || (dropAll count bufs).any Buffer.hasRemaining with
      | true => exact ⟨_, _, rfl, .gathered hw hg (Bool.or_eq_true_iff.1 hs)⟩
      | false =>
        rw [Bool.or_eq_false_iff] at hs
        exact ⟨_, _, rfl, .finished hw hg hs.1 (by simpa [Write.buffers] using hs.2)⟩

/-- The end of a write never breaks a rule of the buffers, and does one of a few things. -/
theorem settle_cases (c : Connection) (f : Flight) (isInline : Bool) (outcome : Outcome) (write : Write) :
    ∃ c' v, c.settle f isInline outcome write = .ok (c', v) ∧ Settled c f isInline outcome write c' v := by
  cases write with
  | single buf => exact settleSingle_cases c f isInline outcome buf
  | gather bufs => exact settleGather_cases c f isInline outcome bufs

/-! ### Data and first writes -/

theorem queue?_eq_ok {c' : Connection} (h : c.queue? src = .ok c') :
    c' = { c with store := c.store.pushOverflow src } := by
  unfold queue? at h
  grind

theorem takeWrite_eq_none (h : c.takeWrite.2 = none) : c.takeWrite = (c.store, none) := by
  unfold takeWrite at h ⊢
  split at h
  · simp at h
  · next hp =>
    obtain ⟨p, -, -, heq⟩ | ⟨-, heq⟩ := c.store.takePrimaryIfPending_cases
    · simp [heq] at h
    · simp [hp, heq]

/-- With nothing to send nothing is taken, and otherwise all there is. -/
theorem takeWrite_cases (h : c.store.WellFormed) :
    (c.store.contents = [] ∧ c.takeWrite = (c.store, none)) ∨
    (∃ store w, c.takeWrite = (store, some w) ∧ store.contents = [] ∧ store.capacity = c.store.capacity ∧
      store.WellFormed ∧ store.overflow = [] ∧ w.unsent = c.store.contents ∧ w.WellFormed c.store.capacity) := by
  cases hp : c.store.hasPending with
  | true =>
    have heq : c.takeWrite = ((c.store.drain []).1, some (.gather (c.store.drain []).2)) := by simp [takeWrite, hp]
    have hu : (c.store.drain []).2.flatMap Buffer.unsent = c.store.contents := by simp [Store.unsent_drain]
    have hne : c.store.contents ≠ [] := by
      rw [Store.contents_eq, ne_eq, List.append_eq_nil_iff, Store.queued_eq_nil_iff h]
      exact fun hn => Store.hasPending_iff.1 hp hn.2
    exact .inr ⟨_, _, heq, c.store.contents_drain [], c.store.capacity_drain [], Store.wellFormed_drain h (by simp),
      c.store.overflow_drain [], hu, Write.wellFormed_gather (hu ▸ hne) (Store.mem_drain h (by simp))⟩
  | false =>
    have ho := Store.hasPending_eq_false_iff.1 hp
    have hq : c.store.queued = [] := by simp [Store.queued, ho]
    have hw := Store.wellFormed_takePrimaryIfPending h
    obtain ⟨p, hsp, hr, heq⟩ | ⟨hf, heq⟩ := c.store.takePrimaryIfPending_cases
    · rw [heq] at hw
      have hu : (Write.single (.primary p)).unsent = c.store.contents := by
        simp [Write.unsent, Write.buffers, Buffer.unsent, Store.contents_eq, Store.front, hsp, hq]
      have htake : c.takeWrite = ({ c.store with primary := none }, some (.single (.primary p))) := by
        simp [takeWrite, hp, heq]
      refine .inr ⟨_, _, htake, hq, rfl, hw, ho, hu, ?_⟩
      exact Write.wellFormed_single (b := .primary p) hr (h.primary p hsp)
    · exact .inl ⟨by simp [Store.contents_eq, hf, hq], by simp [takeWrite, hp, heq]⟩

theorem contents_absorb (h : c.store.WellFormed) (src : Chunk) :
    (c.absorb src).1.contents = c.store.contents ++ src.unsent.take (c.absorb src).2.1 := by
  unfold absorb
  split
  · have hlen : src.unsent.take src.remaining = src.unsent := List.take_of_length_le (by simp)
    simp [hlen]
  · next hp =>
    have ho : c.store.overflow = [] := Store.hasPending_eq_false_iff.1 (by grind)
    simp [Store.contents_eq, Store.queued, ho, Store.front_transfer (Store.wellFormed_ensurePrimary h)]

theorem wellFormed_absorb (h : c.store.WellFormed) (src : Chunk) : (c.absorb src).1.WellFormed := by
  unfold absorb
  split
  · exact Store.wellFormed_pushOverflow h src
  · exact Store.wellFormed_transfer (Store.wellFormed_ensurePrimary h) src

@[simp]
theorem capacity_absorb (c : Connection) (src : Chunk) : (c.absorb src).1.capacity = c.store.capacity := by
  unfold absorb
  split <;> simp

end Connection

end Outflow
