import Mathlib.Data.Multiset.Bind
import Mathlib.Tactic.Abel
import Outflow.Proofs.Step

/-! What is where in a system: frames, guards and writes, counted over its threads and the transport. -/
namespace Outflow

namespace Table

variable {α β : Type} (T : Table α) (key : Nat) (φ : α → List β)

/-- What the entries of a table come to. -/
def collect : List β := T.entries.flatMap fun e => φ e.2

def census : Multiset β := ↑(T.collect φ)

theorem filter_ne_eq_self {entries : List (Nat × α)} (h : key ∉ entries.map Prod.fst) :
    (entries.filter fun e => e.1 != key) = entries := by
  rw [List.filter_eq_self]
  intro e he
  have : e.1 ≠ key := fun hk => h (hk ▸ List.mem_map_of_mem he)
  simpa using this

/-- An entry counts apart from the others. -/
theorem census_eq : T.census φ = ↑((T.find? key).elim [] φ) + (T.erase key).census φ := by
  obtain ⟨entries, nodup⟩ := T
  simp only [census, collect, erase, find?]
  induction entries with
  | nil => simp
  | cons e rest ih =>
    obtain ⟨k, v⟩ := e
    rw [List.map_cons, List.nodup_cons] at nodup
    have ih := ih nodup.2
    by_cases hk : k = key
    · subst hk
      simp [filter_ne_eq_self k nodup.1]
    · have hne : (key == k) = false := by simpa using Ne.symm hk
      simp only [← Multiset.coe_add, List.flatMap_cons, List.lookup_cons, hne, List.filter_cons] at ih ⊢
      simp only [bne_iff_ne, ne_eq, hk, not_false_eq_true, if_true, List.flatMap_cons]
      rw [Multiset.coe_add, ← Multiset.coe_add, ← Multiset.coe_add, ih, add_left_comm]

theorem erase_erase_self : (T.erase key).erase key = T.erase key := by
  simp [erase]

theorem erase_set (value : α) : (T.set key value).erase key = T.erase key := by
  simp [set, erase]

theorem census_set (value : α) : (T.set key value).census φ = ↑(φ value) + (T.erase key).census φ := by
  rw [census_eq _ key, find?_set, if_pos rfl, erase_set]
  rfl

theorem census_erase_of_find?_eq_none (h : T.find? key = none) : (T.erase key).census φ = T.census φ := by
  rw [T.census_eq key, h]
  simp

/-- What is counted of each in two parts is counted in two parts altogether. -/
theorem coe_flatMap_add {l : List α} {φ ψ χ : α → List β}
    (h : ∀ v, (↑(φ v) : Multiset β) = ↑(ψ v) + ↑(χ v)) :
    (↑(l.flatMap φ) : Multiset β) = ↑(l.flatMap ψ) + ↑(l.flatMap χ) := by
  induction l with
  | nil => rfl
  | cons v rest ih =>
    simp only [List.flatMap_cons, ← Multiset.coe_add, h v, ih]
    abel

theorem census_add {φ ψ χ : α → List β} (h : ∀ v, (↑(φ v) : Multiset β) = ↑(ψ v) + ↑(χ v)) :
    T.census φ = T.census ψ + T.census χ :=
  coe_flatMap_add fun e => h e.2

theorem mem_collect {b : β} : b ∈ T.collect φ ↔ ∃ key v, T.find? key = some v ∧ b ∈ φ v := by
  simp [collect, find?_eq_some_iff]

theorem find?_of_erase {other : Nat} {value : α} (h : (T.erase key).find? other = some value) :
    T.find? other = some value := by
  rw [find?_erase] at h
  split at h
  · simp at h
  · exact h

variable (f : α → β)

/-- The same numbers with other values. -/
def map : Table β where
  entries := T.entries.map fun e => (e.1, f e.2)
  nodup := by simpa [Function.comp_def] using T.nodup

theorem eq_of_entries {T U : Table α} (h : T.entries = U.entries) : T = U := by
  obtain ⟨entries, _⟩ := T
  obtain ⟨entries', _⟩ := U
  obtain rfl : entries = entries' := h
  rfl

@[simp]
theorem find?_map : (T.map f).find? key = (T.find? key).map f := by
  obtain ⟨entries, nodup⟩ := T
  simp only [find?, map]
  clear nodup
  induction entries with
  | nil => rfl
  | cons e rest ih =>
    obtain ⟨k, v⟩ := e
    cases hk : key == k <;> simp [List.lookup_cons, hk, ih]

@[simp]
theorem map_erase : (T.erase key).map f = (T.map f).erase key :=
  eq_of_entries (by simp [map, erase, List.filter_map, Function.comp_def])

@[simp]
theorem map_set (value : α) : (T.set key value).map f = (T.map f).set key (f value) :=
  eq_of_entries (by simp [map, set, erase, List.filter_map, Function.comp_def])

@[simp]
theorem map_map {γ : Type} (g : β → γ) : (T.map f).map g = T.map (g ∘ f) :=
  eq_of_entries (by simp [map, Function.comp_def])

end Table

namespace Deferral

@[simp]
theorem waiting_idle {α : Type} : (idle : Deferral α).waiting = [] := rfl

@[simp]
theorem waiting_running {α : Type} (queue : List α) : (running queue).waiting = queue := rfl

end Deferral

/-- What becomes of a write that its caller stops waiting for. -/
def Handed.disowned : Handed → Handed
  | trip buf => stray buf
  | h => h

/-- Something to count over the frames, the waiting writes and the handed writes of a system. A round trip counts as
much when its caller has stopped waiting. -/
structure Tally (β : Type) where
  ofFrame : Frame → List β
  ofJob : Job → List β
  ofTrip : Buffer → List β

namespace Tally

variable {β : Type} (k : Tally β)

def ofThread (th : Thread) : List β := th.stack.flatMap k.ofFrame ++ th.deferral.waiting.flatMap k.ofJob

def ofHanded : Handed → List β
  | .chain write flight => k.ofJob { write, flight }
  | .trip buf | .stray buf => k.ofTrip buf

/-- Counts something of each thing that is counted. -/
def map {γ : Type} (f : β → γ) : Tally γ where
  ofFrame x := (k.ofFrame x).map f
  ofJob x := (k.ofJob x).map f
  ofTrip x := (k.ofTrip x).map f

/-- Counts some things of each thing that is counted. -/
def flatMap {γ : Type} (φ : β → List γ) : Tally γ where
  ofFrame x := (k.ofFrame x).flatMap φ
  ofJob x := (k.ofJob x).flatMap φ
  ofTrip x := (k.ofTrip x).flatMap φ

@[simp]
theorem ofHanded_chain (write : Write) (flight : Flight) :
    k.ofHanded (.chain write flight) = k.ofJob { write, flight } := rfl

@[simp]
theorem ofHanded_trip (buf : Buffer) : k.ofHanded (.trip buf) = k.ofTrip buf := rfl

@[simp]
theorem ofHanded_stray (buf : Buffer) : k.ofHanded (.stray buf) = k.ofTrip buf := rfl

end Tally

namespace System

variable {β : Type} (k : Tally β) (s : System) (t : ThreadId) (w : WriteId)

def collect : List β := s.threads.collect k.ofThread ++ s.outstanding.collect k.ofHanded

def tally : Multiset β := ↑(s.collect k)

/-- The same without what one thread has. -/
def besides : Multiset β := (s.threads.erase t).census k.ofThread + s.outstanding.census k.ofHanded

theorem tally_eq_add_census : s.tally k = s.threads.census k.ofThread + s.outstanding.census k.ofHanded := by
  rw [Table.census, Table.census, Multiset.coe_add]
  rfl

@[simp]
theorem tally_fresh (config : Config) : (fresh config).tally k = 0 := rfl

/-- Guards, for example, are those of frames and those of writes. -/
theorem tally_add {k k₁ k₂ : Tally β}
    (hframe : ∀ f, (↑(k.ofFrame f) : Multiset β) = ↑(k₁.ofFrame f) + ↑(k₂.ofFrame f))
    (hjob : ∀ job, (↑(k.ofJob job) : Multiset β) = ↑(k₁.ofJob job) + ↑(k₂.ofJob job))
    (htrip : ∀ buf, (↑(k.ofTrip buf) : Multiset β) = ↑(k₁.ofTrip buf) + ↑(k₂.ofTrip buf)) :
    s.tally k = s.tally k₁ + s.tally k₂ := by
  have hthread : ∀ th, (↑(k.ofThread th) : Multiset β) = ↑(k₁.ofThread th) + ↑(k₂.ofThread th) := by
    intro th
    simp only [Tally.ofThread, ← Multiset.coe_add, Table.coe_flatMap_add hframe, Table.coe_flatMap_add hjob]
    abel
  have hhanded : ∀ h, (↑(k.ofHanded h) : Multiset β) = ↑(k₁.ofHanded h) + ↑(k₂.ofHanded h) := by
    intro h
    cases h with
    | chain write flight => exact hjob _
    | trip buf | stray buf => exact htrip buf
  rw [tally_eq_add_census, tally_eq_add_census, tally_eq_add_census, Table.census_add _ hthread,
    Table.census_add _ hhanded]
  abel

/-- What is counted is counted of a frame, of a waiting write or of a handed write. -/
theorem cases_of_mem_collect {k : Tally β} {x : β} (hx : x ∈ s.collect k) :
    (∃ t, ∃ f ∈ (s.thread t).stack, x ∈ k.ofFrame f) ∨
    (∃ t, ∃ job ∈ (s.thread t).deferral.waiting, x ∈ k.ofJob job) ∨
    ∃ w h, s.outstanding.find? w = some h ∧ x ∈ k.ofHanded h := by
  rcases List.mem_append.1 hx with hx | hx
  · obtain ⟨t, th, ht, hx⟩ := (Table.mem_collect _ _).1 hx
    have hth : s.thread t = th := by simp [thread, ht]
    rcases List.mem_append.1 hx with hx | hx
    · obtain ⟨f, hf, hx⟩ := List.mem_flatMap.1 hx
      exact .inl ⟨t, f, hth ▸ hf, hx⟩
    · obtain ⟨job, hjob, hx⟩ := List.mem_flatMap.1 hx
      exact .inr (.inl ⟨t, job, hth ▸ hjob, hx⟩)
  · obtain ⟨w, h, hw, hx⟩ := (Table.mem_collect _ _).1 hx
    exact .inr (.inr ⟨w, h, hw, hx⟩)

/-- What only frames have is had by a frame of some thread. -/
theorem mem_tally_iff {k : Tally β} (hjob : ∀ job, k.ofJob job = []) (htrip : ∀ buf, k.ofTrip buf = []) {x : β} :
    x ∈ s.tally k ↔ ∃ t, ∃ f ∈ (s.thread t).stack, x ∈ k.ofFrame f := by
  have hhanded : ∀ h, k.ofHanded h = [] := by
    intro h
    cases h <;> simp [Tally.ofHanded, hjob, htrip]
  simp only [tally, collect, Multiset.mem_coe, List.mem_append, Table.mem_collect, hhanded, List.not_mem_nil,
    and_false, exists_false, or_false, Tally.ofThread, List.mem_flatMap, hjob]
  constructor
  · rintro ⟨t, th, ht, f, hf, hx⟩
    exact ⟨t, f, by simpa [thread, ht] using hf, hx⟩
  · rintro ⟨t, f, hf, hx⟩
    cases ht : s.threads.find? t with
    | none => simp [thread, ht] at hf
    | some th => exact ⟨t, th, ht, f, by simpa [thread, ht] using hf, hx⟩

theorem tally_map {γ : Type} (f : β → γ) : s.tally (k.map f) = (s.tally k).map f := by
  have hthread : ∀ th, (k.map f).ofThread th = (k.ofThread th).map f := by
    simp [Tally.ofThread, Tally.map, List.map_flatMap]
  have hhanded : ∀ h, (k.map f).ofHanded h = (k.ofHanded h).map f := by
    intro h
    cases h <;> rfl
  simp [tally, collect, Table.collect, hthread, hhanded, List.map_flatMap]

theorem tally_eq : s.tally k = ↑(k.ofThread (s.thread t)) + s.besides k t := by
  have h : (s.threads.find? t).elim [] k.ofThread = k.ofThread (s.thread t) := by
    cases hf : s.threads.find? t <;> simp [thread, hf, Tally.ofThread]
  rw [tally_eq_add_census, s.threads.census_eq t, besides, add_assoc, h]

theorem besides_setThread (th : Thread) : (s.setThread t th).besides k t = s.besides k t := by
  unfold besides setThread
  split <;> simp [Table.erase_erase_self, Table.erase_set]

theorem tally_setThread (th : Thread) : (s.setThread t th).tally k = ↑(k.ofThread th) + s.besides k t := by
  rw [tally_eq k _ t, besides_setThread, thread_setThread, if_pos rfl]

/-! ### What the parts of a step leave alone -/

@[simp]
theorem frame_setThread (th : Thread) :
    (s.setThread t th).conn = s.conn ∧ (s.setThread t th).markers = s.markers ∧
    (s.setThread t th).outstanding = s.outstanding ∧ (s.setThread t th).answers = s.answers ∧
    (s.setThread t th).nextWrite = s.nextWrite :=
  ⟨rfl, rfl, rfl, rfl, rfl⟩

@[simp]
theorem frame_setStack (stack : List Frame) :
    (s.setStack t stack).conn = s.conn ∧ (s.setStack t stack).markers = s.markers ∧
    (s.setStack t stack).outstanding = s.outstanding ∧ (s.setStack t stack).answers = s.answers ∧
    (s.setStack t stack).nextWrite = s.nextWrite :=
  frame_setThread s t _

@[simp]
theorem thread_setStack_self (stack : List Frame) : (s.setStack t stack).thread t = { s.thread t with stack } := by
  rw [thread_setStack, if_pos rfl]

@[simp]
theorem frame_push (frame : Frame) :
    (s.push t frame).conn = s.conn ∧ (s.push t frame).markers = s.markers ∧
    (s.push t frame).outstanding = s.outstanding ∧ (s.push t frame).answers = s.answers ∧
    (s.push t frame).nextWrite = s.nextWrite :=
  frame_setStack s t _

@[simp]
theorem thread_push_self (frame : Frame) :
    (s.push t frame).thread t = { s.thread t with stack := frame :: (s.thread t).stack } :=
  thread_setStack_self s t _

@[simp]
theorem frame_setConn (conn : Connection) :
    (s.setConn conn).conn = conn ∧ (s.setConn conn).markers = s.markers ∧
    (s.setConn conn).outstanding = s.outstanding ∧ (s.setConn conn).answers = s.answers ∧
    (s.setConn conn).nextWrite = s.nextWrite ∧ (s.setConn conn).thread = s.thread :=
  ⟨rfl, rfl, rfl, rfl, rfl, rfl⟩

@[simp]
theorem tally_setConn (conn : Connection) : (s.setConn conn).tally k = s.tally k := rfl

@[simp]
theorem setStore_eq (store : Store) : s.setStore store = s.setConn { s.conn with store } := rfl

@[simp]
theorem setPermit_eq (permit : Permit) : s.setPermit permit = s.setConn { s.conn with permit } := rfl

@[simp]
theorem takeOver_eq (src : Chunk) :
    s.takeOver src = s.setConn { s.conn with store := s.conn.store.ensurePrimary.append src } := rfl

@[simp]
theorem frame_setMarkers (markers : Markers) :
    (s.setMarkers markers).conn = s.conn ∧ (s.setMarkers markers).markers = markers ∧
    (s.setMarkers markers).outstanding = s.outstanding ∧ (s.setMarkers markers).answers = s.answers ∧
    (s.setMarkers markers).nextWrite = s.nextWrite ∧ (s.setMarkers markers).thread = s.thread :=
  ⟨rfl, rfl, rfl, rfl, rfl, rfl⟩

@[simp]
theorem tally_setMarkers (markers : Markers) : (s.setMarkers markers).tally k = s.tally k := rfl

@[simp]
theorem frame_setAnswers (answers : Table Answer) :
    (s.setAnswers answers).conn = s.conn ∧ (s.setAnswers answers).markers = s.markers ∧
    (s.setAnswers answers).outstanding = s.outstanding ∧ (s.setAnswers answers).answers = answers ∧
    (s.setAnswers answers).nextWrite = s.nextWrite ∧ (s.setAnswers answers).thread = s.thread :=
  ⟨rfl, rfl, rfl, rfl, rfl, rfl⟩

@[simp]
theorem tally_setAnswers (answers : Table Answer) : (s.setAnswers answers).tally k = s.tally k := rfl

@[simp]
theorem frame_setTransportPending (pending : Bool) :
    (s.setTransportPending pending).conn = s.conn ∧ (s.setTransportPending pending).markers = s.markers ∧
    (s.setTransportPending pending).outstanding = s.outstanding ∧
    (s.setTransportPending pending).answers = s.answers ∧
    (s.setTransportPending pending).nextWrite = s.nextWrite ∧ (s.setTransportPending pending).thread = s.thread :=
  ⟨rfl, rfl, rfl, rfl, rfl, rfl⟩

@[simp]
theorem tally_setTransportPending (pending : Bool) : (s.setTransportPending pending).tally k = s.tally k := rfl

@[simp]
theorem frame_endWrite :
    (s.endWrite w).conn = s.conn ∧ (s.endWrite w).markers = s.markers ∧
    (s.endWrite w).outstanding = s.outstanding.erase w ∧ (s.endWrite w).answers = s.answers ∧
    (s.endWrite w).nextWrite = s.nextWrite ∧ (s.endWrite w).thread = s.thread :=
  ⟨rfl, rfl, rfl, rfl, rfl, rfl⟩

@[simp]
theorem frame_disown :
    (s.disown w).conn = s.conn ∧ (s.disown w).markers = s.markers ∧ (s.disown w).answers = s.answers ∧
    (s.disown w).nextWrite = s.nextWrite ∧ (s.disown w).thread = s.thread :=
  ⟨rfl, rfl, rfl, rfl, rfl⟩

/-- Only the write that is disowned changes, if it is a round trip. -/
theorem find?_disown (v : WriteId) : (s.disown w).outstanding.find? v
    = if v = w then (s.outstanding.find? v).map Handed.disowned else s.outstanding.find? v := by
  unfold disown
  split
  · next buf hw =>
    simp only [Table.find?_set]
    split
    · next hv => simp [hv, hw, Handed.disowned]
    · rfl
  · next hw =>
    split
    · next hv =>
      subst hv
      cases hf : s.outstanding.find? v with
      | none => rfl
      | some h => cases h <;> simp_all [Handed.disowned]
    · rfl

@[simp]
theorem frame_handOver (h : Handed) :
    (s.handOver t h).1.conn = s.conn ∧ (s.handOver t h).1.markers = s.markers ∧
    (s.handOver t h).1.outstanding = s.outstanding.set s.nextWrite h ∧ (s.handOver t h).1.answers = s.answers ∧
    (s.handOver t h).1.nextWrite = s.nextWrite + 1 :=
  ⟨rfl, rfl, rfl, rfl, rfl⟩

@[simp]
theorem frame_launch (rest : List Frame) (queue : List Job) (job : Job) :
    (s.launch t rest queue job).conn = s.conn ∧ (s.launch t rest queue job).markers = s.markers ∧
    (s.launch t rest queue job).outstanding = s.outstanding.set s.nextWrite (.chain job.write job.flight) ∧
    (s.launch t rest queue job).answers = s.answers ∧ (s.launch t rest queue job).nextWrite = s.nextWrite + 1 :=
  ⟨rfl, rfl, rfl, rfl, rfl⟩

@[simp]
theorem frame_begin (starter : Starter) (g : Guard) (store : Store) (write : Write) :
    (s.begin t starter g store write).conn = { s.conn with store } ∧
    (s.begin t starter g store write).markers = s.markers.fresh.1.enter s.markers.fresh.2 t ∧
    (s.begin t starter g store write).outstanding = s.outstanding ∧
    (s.begin t starter g store write).answers = s.answers ∧
    (s.begin t starter g store write).nextWrite = s.nextWrite :=
  ⟨rfl, rfl, rfl, rfl, rfl⟩

/-! ### What they move -/

variable {s t w} {frame : Frame} {rest : List Frame} {queue : List Job} {job : Job} {h : Handed}

theorem tally_push : (s.push t frame).tally k = ↑(k.ofFrame frame) + s.tally k := by
  rw [push, setStack, tally_setThread, tally_eq k s t, ← add_assoc, Multiset.coe_add]
  simp [Tally.ofThread]

/-- The innermost frame counts apart. -/
theorem tally_pop (hst : (s.thread t).stack = frame :: rest) :
    s.tally k = ↑(k.ofFrame frame) + (s.setStack t rest).tally k := by
  rw [setStack, tally_setThread, tally_eq k s t, ← add_assoc, Multiset.coe_add]
  simp [Tally.ofThread, hst]

theorem tally_replace : (s.setStack t (frame :: rest)).tally k
    = ↑(k.ofFrame frame) + (s.setStack t rest).tally k := by
  rw [setStack, setStack, tally_setThread, tally_setThread, ← add_assoc, Multiset.coe_add]
  simp [Tally.ofThread]

/-- A write that has ended counts apart. -/
theorem tally_endWrite (hw : s.outstanding.find? w = some h) :
    s.tally k = ↑(k.ofHanded h) + (s.endWrite w).tally k := by
  rw [tally_eq_add_census, tally_eq_add_census, s.outstanding.census_eq w, hw, add_left_comm]
  rfl

@[simp]
theorem tally_disown (s : System) (w : WriteId) : (s.disown w).tally k = s.tally k := by
  rw [tally_eq_add_census, tally_eq_add_census]
  unfold disown
  split
  · next buf hw =>
    rw [s.outstanding.census_eq w, hw, Table.census_set]
    rfl
  · rfl

/-- A write is handed over under a number that is not in use. -/
theorem tally_handOver (hn : s.outstanding.find? s.nextWrite = none) : (s.handOver t h).1.tally k
    = ↑(k.ofFrame (.inTransport s.nextWrite)) + (↑(k.ofHanded h) + s.tally k) := by
  have hs : tally k { s with outstanding := s.outstanding.set s.nextWrite h, nextWrite := s.nextWrite + 1 }
      = ↑(k.ofHanded h) + s.tally k := by
    rw [tally_eq_add_census, tally_eq_add_census, Table.census_set,
      Table.census_erase_of_find?_eq_none _ _ _ hn, add_left_comm]
  simp only [handOver, tally_push, hs]

/-- A round trip begins. -/
theorem tally_trip (hn : s.outstanding.find? s.nextWrite = none) {buf : Buffer} :
    ((s.setStack t (frame :: rest)).handOver t (.trip buf)).1.tally k
      = ↑(k.ofFrame (.inTransport s.nextWrite)) + (↑(k.ofTrip buf)
        + (↑(k.ofFrame frame) + (s.setStack t rest).tally k)) := by
  rw [tally_handOver (s := s.setStack t _) k hn, tally_replace]
  rfl

/-- The next job of the queue goes to the transport. -/
theorem tally_driven (hn : s.outstanding.find? s.nextWrite = none) (hst : (s.thread t).stack = .driving :: rest)
    (hd : (s.thread t).deferral = .running (job :: queue)) : (s.launch t rest queue job).tally k
      = ↑(k.ofFrame (.inTransport s.nextWrite)) + s.tally k := by
  have hth : (↑(k.ofJob job) + ↑(k.ofThread { stack := .driving :: rest, deferral := .running queue }) : Multiset β)
      = ↑(k.ofThread (s.thread t)) := by
    simp only [Tally.ofThread, hst, hd, Deferral.waiting_running, List.flatMap_cons, ← Multiset.coe_add]
    abel
  rw [launch, tally_handOver (s := s.setThread t _) k hn, tally_setThread, tally_eq k s t, ← hth, add_assoc]
  rfl

/-- A job that found no loop running goes to the transport from a loop of its own. -/
theorem tally_carried (hn : s.outstanding.find? s.nextWrite = none) (hd : (s.thread t).deferral = .idle) :
    (s.launch t rest [] job).tally k = ↑(k.ofFrame (.inTransport s.nextWrite)) + (↑(k.ofJob job)
      + (↑(k.ofFrame .driving) + (s.setStack t rest).tally k)) := by
  have hth : (↑(k.ofThread { stack := .driving :: rest, deferral := .running [] }) : Multiset β)
      = ↑(k.ofFrame .driving) + ↑(k.ofThread { s.thread t with stack := rest }) := by
    simp [Tally.ofThread, hd]
  rw [launch, tally_handOver (s := s.setThread t _) k hn, setStack, tally_setThread, tally_setThread, hth, add_assoc]
  rfl

/-- A job that found a loop running waits for it. -/
theorem tally_deferred (hd : (s.thread t).deferral = .running queue) :
    (s.setThread t { stack := rest, deferral := .running (queue ++ [job]) }).tally k
      = ↑(k.ofJob job) + (s.setStack t rest).tally k := by
  rw [setStack, tally_setThread, tally_setThread]
  simp only [Tally.ofThread, hd, Deferral.waiting_running, List.flatMap_append, List.flatMap_singleton,
    ← Multiset.coe_add]
  abel

theorem tally_driveDone (hd : (s.thread t).deferral.waiting = []) :
    (s.setThread t { stack := rest, deferral := .idle }).tally k = (s.setStack t rest).tally k := by
  rw [setStack, tally_setThread, tally_setThread]
  simp [Tally.ofThread, hd]

theorem tally_begin {starter : Starter} {g : Guard} {store : Store} {write : Write} :
    (s.begin t starter g store write).tally k
      = ↑(k.ofFrame (.carrying { write, flight := { guard := g, marker := s.markers.next } }))
        + (↑(k.ofFrame (.issuing s.markers.next starter)) + s.tally k) := by
  simp only [begin, tally_push, Markers.fresh]
  rfl

/-! ### What threads have -/

/-- What counts apart from the writes at the transport. -/
def aboard (k : Tally β) (s : System) : Multiset β := s.threads.census k.ofThread

variable (s t)

theorem tally_eq_aboard : s.tally k = s.aboard k + s.outstanding.census k.ofHanded := tally_eq_add_census k s

/-- Threads have what there would be without the transport. -/
theorem aboard_eq_tally : s.aboard k = tally k { s with outstanding := {} } := by
  rw [tally_eq_aboard]
  exact (add_zero _).symm

@[simp]
theorem aboard_setConn (conn : Connection) : (s.setConn conn).aboard k = s.aboard k := rfl

@[simp]
theorem aboard_setMarkers (markers : Markers) : (s.setMarkers markers).aboard k = s.aboard k := rfl

@[simp]
theorem aboard_setAnswers (answers : Table Answer) : (s.setAnswers answers).aboard k = s.aboard k := rfl

@[simp]
theorem aboard_endWrite (w : WriteId) : (s.endWrite w).aboard k = s.aboard k := rfl

@[simp]
theorem aboard_disown (w : WriteId) : (s.disown w).aboard k = s.aboard k := rfl

theorem aboard_push (frame : Frame) : (s.push t frame).aboard k = ↑(k.ofFrame frame) + s.aboard k := by
  rw [aboard_eq_tally, aboard_eq_tally]
  exact tally_push (s := { s with outstanding := {} }) k

theorem aboard_replace (frame : Frame) (rest : List Frame) : (s.setStack t (frame :: rest)).aboard k
    = ↑(k.ofFrame frame) + (s.setStack t rest).aboard k := by
  rw [aboard_eq_tally, aboard_eq_tally]
  exact tally_replace (s := { s with outstanding := {} }) k

theorem aboard_handOver (h : Handed) : (s.handOver t h).1.aboard k
    = ↑(k.ofFrame (.inTransport s.nextWrite)) + s.aboard k :=
  aboard_push k _ t _

theorem aboard_begin (starter : Starter) (g : Guard) (store : Store) (write : Write) :
    (s.begin t starter g store write).aboard k
      = ↑(k.ofFrame (.carrying { write, flight := { guard := g, marker := s.markers.next } }))
        + (↑(k.ofFrame (.issuing s.markers.next starter)) + s.aboard k) := by
  simp only [begin, aboard_push, Markers.fresh]
  rfl

/-- Without other writes the transport has what is handed over, and threads have the rest. -/
theorem tally_launch (rest : List Frame) (queue : List Job) (job : Job) :
    (launch { s with outstanding := {} } t rest queue job).tally k
      = (s.launch t rest queue job).aboard k + ↑(k.ofJob job) := by
  rw [tally_eq_aboard, (frame_launch _ _ _ _ _).2.2.1, Table.census_set]
  exact congrArg _ (add_zero _)

variable {s t}

theorem aboard_pop (hst : (s.thread t).stack = frame :: rest) :
    s.aboard k = ↑(k.ofFrame frame) + (s.setStack t rest).aboard k := by
  rw [aboard_eq_tally, aboard_eq_tally]
  exact tally_pop (s := { s with outstanding := {} }) k hst

theorem aboard_driven (hst : (s.thread t).stack = .driving :: rest)
    (hd : (s.thread t).deferral = .running (job :: queue)) : (s.launch t rest queue job).aboard k + ↑(k.ofJob job)
      = ↑(k.ofFrame (.inTransport s.nextWrite)) + s.aboard k := by
  rw [← tally_launch, aboard_eq_tally]
  exact tally_driven (s := { s with outstanding := {} }) k (Table.find?_empty _) hst hd

theorem aboard_carried (hd : (s.thread t).deferral = .idle) : (s.launch t rest [] job).aboard k + ↑(k.ofJob job)
    = ↑(k.ofFrame (.inTransport s.nextWrite)) + (↑(k.ofJob job)
      + (↑(k.ofFrame .driving) + (s.setStack t rest).aboard k)) := by
  rw [← tally_launch, aboard_eq_tally]
  exact tally_carried (s := { s with outstanding := {} }) k (Table.find?_empty _) hd

theorem aboard_deferred (hd : (s.thread t).deferral = .running queue) :
    (s.setThread t { stack := rest, deferral := .running (queue ++ [job]) }).aboard k
      = ↑(k.ofJob job) + (s.setStack t rest).aboard k := by
  rw [aboard_eq_tally, aboard_eq_tally]
  exact tally_deferred (s := { s with outstanding := {} }) k hd

theorem aboard_driveDone (hd : (s.thread t).deferral.waiting = []) :
    (s.setThread t { stack := rest, deferral := .idle }).aboard k = (s.setStack t rest).aboard k := by
  rw [aboard_eq_tally, aboard_eq_tally]
  exact tally_driveDone (s := { s with outstanding := {} }) k hd

/-! ### Chains, calls and round trips -/

end System

/-- The frames of calls that are not over. -/
def Frame.isCall : Frame → Bool
  | inTransport _ | attaching _ | notifying _ | telling _ | driving | carrying _ => false
  | _ => true

@[simps]
def Tally.calls : Tally Frame where
  ofFrame f := if f.isCall then [f] else []
  ofJob _ := []
  ofTrip _ := []

def Frame.jobs : Frame → List Job
  | carrying job => [job]
  | _ => []

/-- The writes of chains, wherever they are. -/
@[simps]
def Tally.jobs : Tally Job where
  ofFrame := Frame.jobs
  ofJob job := [job]
  ofTrip _ := []

/-- The round trips that are at the transport. -/
@[simps]
def Tally.trips : Tally Buffer where
  ofFrame _ := []
  ofJob _ := []
  ofTrip buf := [buf]

namespace System

theorem tally_flatMap {β γ : Type} (k : Tally β) (s : System) (φ : β → List γ) :
    s.tally (k.flatMap φ) = (s.tally k).bind fun x => ↑(φ x) := by
  have hthread : ∀ th, (k.flatMap φ).ofThread th = (k.ofThread th).flatMap φ := by
    simp [Tally.ofThread, Tally.flatMap, List.flatMap_assoc]
  have hhanded : ∀ h, (k.flatMap φ).ofHanded h = (k.ofHanded h).flatMap φ := by
    intro h
    cases h <;> rfl
  simp [tally, collect, Table.collect, hthread, hhanded, List.flatMap_assoc, Multiset.coe_bind]

/-- What is counted is with chains, with calls or with round trips. -/
theorem tally_split {β : Type} {k : Tally β} (s : System)
    (hframe : ∀ f, f.isCall = false → k.ofFrame f = f.jobs.flatMap k.ofJob) :
    s.tally k = (s.tally .jobs).bind (fun job => ↑(k.ofJob job))
      + ((s.tally .calls).bind (fun f => ↑(k.ofFrame f)) + (s.tally .trips).bind fun buf => ↑(k.ofTrip buf)) := by
  -- Chains apart from the rest first, since no frame of a call carries a write.
  let others : Tally β := { ofFrame f := if f.isCall then k.ofFrame f else [], ofJob _ := [], ofTrip := k.ofTrip }
  have hjobs : s.tally k = s.tally (Tally.jobs.flatMap k.ofJob) + s.tally others := by
    refine tally_add s (fun f => ?_) (by simp [Tally.flatMap, others]) (by simp [Tally.flatMap, others])
    cases hf : f.isCall with
    | true =>
      have hnone : f.jobs = [] := by cases f <;> simp_all [Frame.isCall, Frame.jobs]
      simp [Tally.flatMap, others, hf, hnone]
    | false => simp [Tally.flatMap, others, hf, hframe f hf]
  have hothers : s.tally others
      = s.tally (Tally.calls.flatMap k.ofFrame) + s.tally (Tally.trips.flatMap k.ofTrip) := by
    refine tally_add s (fun f => ?_) (by simp [Tally.flatMap, others]) (by simp [Tally.flatMap, others])
    cases hf : f.isCall <;> simp [Tally.flatMap, others, hf]
  rw [hjobs, hothers, tally_flatMap, tally_flatMap, tally_flatMap]

end System

end Outflow
