/-!
Finite tables with numbered entries, kept in the order in which the entries were last set. No number is there twice.
-/

namespace Outflow

structure Table (α : Type) where
  entries : List (Nat × α) := []
  nodup : (entries.map Prod.fst).Nodup := by simp

namespace Table

variable {α : Type}

def find? (t : Table α) (key : Nat) : Option α := t.entries.lookup key

def erase (t : Table α) (key : Nat) : Table α where
  entries := t.entries.filter fun e => e.1 != key
  nodup := (List.filter_sublist.map _).nodup t.nodup

theorem notMem_keys_erase (t : Table α) (key : Nat) : key ∉ (t.erase key).entries.map Prod.fst := by
  simp [erase]

def set (t : Table α) (key : Nat) (value : α) : Table α where
  entries := (t.erase key).entries ++ [(key, value)]
  nodup := by
    have h := t.notMem_keys_erase key
    rw [List.map_append, List.nodup_append]
    refine ⟨(t.erase key).nodup, by simp, ?_⟩
    grind

@[simp]
theorem find?_empty (key : Nat) : ({} : Table α).find? key = none := rfl

theorem lookup_filter_ne (entries : List (Nat × α)) (key other : Nat) :
    (entries.filter fun e => e.1 != key).lookup other
      = if other = key then none else entries.lookup other := by
  induction entries with
  | nil => simp
  | cons e rest ih =>
    obtain ⟨k, v⟩ := e
    by_cases hk : k = key <;> by_cases ho : other = k <;> grind

theorem find?_erase (t : Table α) (key other : Nat) :
    (t.erase key).find? other = if other = key then none else t.find? other :=
  lookup_filter_ne t.entries key other

theorem lookup_append_singleton (entries : List (Nat × α)) (key other : Nat) (value : α) :
    (entries ++ [(key, value)]).lookup other
      = (entries.lookup other).or (if other = key then some value else none) := by
  induction entries with
  | nil => by_cases h : other = key <;> grind
  | cons e rest ih =>
    obtain ⟨k, v⟩ := e
    by_cases ho : other = k <;> grind

theorem find?_set (t : Table α) (key other : Nat) (value : α) :
    (t.set key value).find? other = if other = key then some value else t.find? other := by
  simp only [find?, set, erase, lookup_append_singleton, lookup_filter_ne]
  by_cases h : other = key <;> simp [h]

theorem find?_eq_some_iff (t : Table α) {key : Nat} {value : α} :
    t.find? key = some value ↔ (key, value) ∈ t.entries := by
  obtain ⟨entries, nodup⟩ := t
  simp only [find?]
  induction entries with
  | nil => simp
  | cons e rest ih =>
    obtain ⟨k, v⟩ := e
    simp only [List.map_cons, List.nodup_cons] at nodup
    by_cases hk : key = k
    · subst hk
      have : (key, value) ∉ rest := fun hm => nodup.1 (List.mem_map_of_mem hm)
      grind
    · grind

end Table

end Outflow
