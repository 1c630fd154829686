import Mathlib.Data.List.Nodup

/-!
# Insertion-ordered dictionaries

A dictionary is a list of key-value pairs whose keys are distinct.  Writing an
existing key replaces its value in place, writing a new key appends it, and
iteration follows the list.
-/

namespace Foundation

structure Dict (key value : Type) where
  entries : List (key × value)
  nodupKeys : (entries.map Prod.fst).Nodup
deriving DecidableEq

namespace Dict

variable {key value : Type}

def empty : Dict key value := ⟨[], List.nodup_nil⟩

def keys (d : Dict key value) : List key := d.entries.map Prod.fst

def size (d : Dict key value) : Nat := d.entries.length

variable [DecidableEq key]

def get? (d : Dict key value) (k : key) : Option value := d.entries.lookup k

/-- Membership test of a key, as iteration-independent code uses it. -/
def contains (d : Dict key value) (k : key) : Bool := (d.get? k).isSome

/-!
## Writing
-/

def setEntries (k : key) (v : value) :
    List (key × value) -> List (key × value)
  | [] => [(k, v)]
  | (k', v') :: rest =>
      if k' = k then (k, v) :: rest else (k', v') :: setEntries k v rest

theorem mem_keys_setEntries (k : key) (v : value) (x : key) :
    forall entries : List (key × value),
      x ∈ (setEntries k v entries).map Prod.fst <->
        x = k ∨ x ∈ entries.map Prod.fst := by
  intro entries
  induction entries with
  | nil => simp [setEntries]
  | cons entry rest ih =>
      rcases entry with ⟨k', v'⟩
      by_cases hk : k' = k
      · simp [setEntries, hk]
      · simp only [setEntries, hk, if_false, List.map_cons, List.mem_cons, ih]
        tauto

theorem nodup_keys_setEntries (k : key) (v : value) :
    forall entries : List (key × value),
      (entries.map Prod.fst).Nodup ->
        ((setEntries k v entries).map Prod.fst).Nodup := by
  intro entries
  induction entries with
  | nil =>
      intro _
      simp [setEntries]
  | cons entry rest ih =>
      rcases entry with ⟨k', v'⟩
      intro hnodup
      rw [List.map_cons, List.nodup_cons] at hnodup
      rcases hnodup with ⟨hnotMem, hrest⟩
      by_cases hk : k' = k
      · subst hk
        simpa [setEntries] using And.intro hnotMem hrest
      · simp only [setEntries, hk, if_false, List.map_cons, List.nodup_cons]
        refine ⟨?_, ih hrest⟩
        intro hmem
        rcases (mem_keys_setEntries k v k' rest).mp hmem with heq | hold
        · exact hk heq
        · exact hnotMem hold

def set (d : Dict key value) (k : key) (v : value) : Dict key value :=
  ⟨setEntries k v d.entries, nodup_keys_setEntries k v d.entries d.nodupKeys⟩

/-- Replace every value, keeping the keys and their order. -/
def mapValues {value' : Type} (d : Dict key value) (f : key -> value -> value') :
    Dict key value' where
  entries := d.entries.map (fun p => (p.1, f p.1 p.2))
  nodupKeys := by
    rw [List.map_map]
    exact d.nodupKeys

def erase (d : Dict key value) (k : key) : Dict key value where
  entries := d.entries.filter (fun p => p.1 ≠ k)
  nodupKeys := d.nodupKeys.sublist (List.filter_sublist.map Prod.fst)

/-- The entries that pass a test, in their order. -/
def filter (d : Dict key value) (p : key -> value -> Bool) : Dict key value where
  entries := d.entries.filter fun e => p e.1 e.2
  nodupKeys := d.nodupKeys.sublist (List.filter_sublist.map Prod.fst)

/-- A counter of the dictionary goes up; a key without one starts at 0. -/
def increment (d : Dict key Nat) (k : key) : Dict key Nat :=
  d.set k ((d.get? k).getD 0 + 1)

/-- The sum of the counters. -/
def total (d : Dict key Nat) : Nat := d.entries.foldr (fun e n => e.2 + n) 0

/-!
## Lookup laws
-/

@[simp] theorem get?_empty (k : key) :
    (empty : Dict key value).get? k = none := rfl

theorem lookup_setEntries_self (k : key) (v : value) :
    forall entries : List (key × value),
      (setEntries k v entries).lookup k = some v := by
  intro entries
  induction entries with
  | nil => simp [setEntries]
  | cons entry rest ih =>
      rcases entry with ⟨k', v'⟩
      by_cases hk : k' = k
      · simp [setEntries, hk]
      · simp [setEntries, hk, List.lookup_cons,
          beq_eq_false_iff_ne.mpr (Ne.symm hk), ih]

theorem lookup_setEntries_of_ne {k k' : key} (v : value) (hne : k' ≠ k) :
    forall entries : List (key × value),
      (setEntries k v entries).lookup k' = entries.lookup k' := by
  intro entries
  induction entries with
  | nil => simp [setEntries, List.lookup_cons, beq_eq_false_iff_ne.mpr hne]
  | cons entry rest ih =>
      rcases entry with ⟨k₀, v₀⟩
      by_cases hk : k₀ = k
      · simp [setEntries, hk, List.lookup_cons, beq_eq_false_iff_ne.mpr hne]
      · simp [setEntries, hk, List.lookup_cons, ih]

@[simp] theorem get?_set_self (d : Dict key value) (k : key) (v : value) :
    (d.set k v).get? k = some v :=
  lookup_setEntries_self k v d.entries

theorem get?_set_of_ne (d : Dict key value) {k k' : key} (v : value)
    (hne : k' ≠ k) : (d.set k v).get? k' = d.get? k' :=
  lookup_setEntries_of_ne v hne d.entries

theorem lookup_filter_self (k : key) :
    forall entries : List (key × value),
      (entries.filter (fun p => p.1 ≠ k)).lookup k = none := by
  intro entries
  induction entries with
  | nil => rfl
  | cons entry rest ih =>
      rcases entry with ⟨k', v'⟩
      by_cases hk : k' = k
      · simpa [hk] using ih
      · simpa [hk, List.lookup_cons, beq_eq_false_iff_ne.mpr (Ne.symm hk)] using ih

theorem lookup_filter_of_ne {k k' : key} (hne : k' ≠ k) :
    forall entries : List (key × value),
      (entries.filter (fun p => p.1 ≠ k)).lookup k' = entries.lookup k' := by
  intro entries
  induction entries with
  | nil => rfl
  | cons entry rest ih =>
      rcases entry with ⟨k₀, v₀⟩
      by_cases hk : k₀ = k
      · simpa [hk, List.lookup_cons, beq_eq_false_iff_ne.mpr hne] using ih
      · simp only [List.filter_cons, hk, ne_eq, not_false_eq_true,
          decide_true, if_true, List.lookup_cons] at ih ⊢
        rw [ih]

@[simp] theorem get?_erase_self (d : Dict key value) (k : key) :
    (d.erase k).get? k = none :=
  lookup_filter_self k d.entries

theorem get?_erase_of_ne (d : Dict key value) {k k' : key} (hne : k' ≠ k) :
    (d.erase k).get? k' = d.get? k' :=
  lookup_filter_of_ne hne d.entries

theorem lookup_map_values {value' : Type} (f : key -> value -> value')
    (k : key) :
    forall entries : List (key × value),
      (entries.map (fun p => (p.1, f p.1 p.2))).lookup k =
        (entries.lookup k).map (f k) := by
  intro entries
  induction entries with
  | nil => rfl
  | cons entry rest ih =>
      rcases entry with ⟨k', v'⟩
      by_cases hk : k = k'
      · simp [hk]
      · simp [List.lookup_cons, beq_eq_false_iff_ne.mpr hk, ih]

@[simp] theorem get?_mapValues {value' : Type} (d : Dict key value)
    (f : key -> value -> value') (k : key) :
    (d.mapValues f).get? k = (d.get? k).map (f k) :=
  lookup_map_values f k d.entries

/-!
## Rewriting every value
-/

omit [DecidableEq key] in
theorem ext_entries {d d' : Dict key value} (h : d.entries = d'.entries) : d = d' := by
  cases d
  cases d'
  cases h
  rfl

omit [DecidableEq key] in
theorem keys_mapValues {value' : Type} (d : Dict key value) (f : key -> value -> value') :
    (d.mapValues f).keys = d.keys := by
  unfold keys mapValues
  rw [List.map_map]
  rfl

omit [DecidableEq key] in
theorem size_mapValues {value' : Type} (d : Dict key value) (f : key -> value -> value') :
    (d.mapValues f).size = d.size :=
  List.length_map _

omit [DecidableEq key] in
theorem mapValues_mapValues {value' value'' : Type} (d : Dict key value)
    (f : key -> value -> value') (g : key -> value' -> value'') :
    (d.mapValues f).mapValues g = d.mapValues fun k v => g k (f k v) := by
  apply ext_entries
  exact List.map_map

theorem setEntries_map {value' : Type} (f : key -> value -> value') (k : key) (v : value)
    (entries : List (key × value)) :
    (setEntries k v entries).map (fun p => (p.1, f p.1 p.2)) =
      setEntries k (f k v) (entries.map fun p => (p.1, f p.1 p.2)) := by
  induction entries with
  | nil => rfl
  | cons p rest ih =>
      rw [List.map_cons]
      unfold setEntries
      by_cases hk : p.1 = k
      · rw [if_pos hk, if_pos hk]
        rfl
      · rw [if_neg hk, if_neg hk, List.map_cons, ih]

theorem mapValues_set {value' : Type} (d : Dict key value) (f : key -> value -> value')
    (k : key) (v : value) :
    (d.set k v).mapValues f = (d.mapValues f).set k (f k v) :=
  ext_entries (setEntries_map f k v d.entries)

theorem mapValues_erase {value' : Type} (d : Dict key value) (f : key -> value -> value')
    (k : key) : (d.erase k).mapValues f = (d.mapValues f).erase k := by
  apply ext_entries
  unfold erase mapValues
  dsimp only
  rw [List.filter_map]
  rfl

/-!
## Entries, keys and lookup
-/

theorem lookup_eq_some_iff_mem (k : key) (v : value) :
    forall entries : List (key × value), (entries.map Prod.fst).Nodup ->
      (entries.lookup k = some v <-> (k, v) ∈ entries)
  | [], _ => by simp
  | (k', v') :: rest, hnodup => by
      rw [List.map_cons, List.nodup_cons] at hnodup
      rcases hnodup with ⟨hnotMem, hrest⟩
      have ih := lookup_eq_some_iff_mem k v rest hrest
      by_cases hk : k = k'
      · subst hk
        have hnot : (k, v) ∉ rest := by
          intro hmem
          exact hnotMem (List.mem_map.mpr ⟨(k, v), hmem, rfl⟩)
        simp [hnot, eq_comm]
      · simp [List.lookup_cons, beq_eq_false_iff_ne.mpr hk, hk, ih]

theorem mem_entries_iff_get? (d : Dict key value) (k : key) (v : value) :
    (k, v) ∈ d.entries <-> d.get? k = some v :=
  (lookup_eq_some_iff_mem k v d.entries d.nodupKeys).symm

theorem mem_keys_iff_get? (d : Dict key value) (k : key) :
    k ∈ d.keys <-> exists v, d.get? k = some v := by
  constructor
  · intro hk
    rcases List.mem_map.mp hk with ⟨⟨k', v⟩, hmem, rfl⟩
    exact ⟨v, (d.mem_entries_iff_get? k' v).mp hmem⟩
  · rintro ⟨v, hv⟩
    exact List.mem_map.mpr ⟨(k, v), (d.mem_entries_iff_get? k v).mpr hv, rfl⟩

theorem get?_eq_none_iff (d : Dict key value) (k : key) :
    d.get? k = none <-> k ∉ d.keys := by
  rw [mem_keys_iff_get?]
  cases hget : d.get? k with
  | none => simp
  | some v => simp

theorem contains_iff_mem_keys (d : Dict key value) (k : key) :
    d.contains k = true <-> k ∈ d.keys := by
  rw [mem_keys_iff_get?, contains, Option.isSome_iff_exists]

/-!
## Filters and counters
-/

theorem get?_filter_eq_some_iff (d : Dict key value) (p : key -> value -> Bool) (k : key)
    (v : value) : (d.filter p).get? k = some v <-> d.get? k = some v ∧ p k v = true := by
  rw [← mem_entries_iff_get?, ← mem_entries_iff_get?]
  exact List.mem_filter

theorem total_setEntries (k : key) (n : Nat) (entries : List (key × Nat)) :
    (setEntries k n entries).foldr (fun e n => e.2 + n) 0 + (entries.lookup k).getD 0 =
      entries.foldr (fun e n => e.2 + n) 0 + n := by
  induction entries with
  | nil => simp [setEntries]
  | cons entry rest ih =>
      rcases entry with ⟨k', n'⟩
      by_cases hk : k' = k
      · simp only [setEntries, hk, if_true, List.foldr_cons, List.lookup_cons,
          beq_self_eq_true, Option.getD_some]
        omega
      · simp only [setEntries, hk, if_false, List.foldr_cons, List.lookup_cons,
          beq_eq_false_iff_ne.mpr (Ne.symm hk)]
        omega

theorem total_increment (d : Dict key Nat) (k : key) :
    (d.increment k).total = d.total + 1 := by
  have hsum := total_setEntries k ((d.get? k).getD 0 + 1) d.entries
  simp only [increment, total, set, get?] at hsum ⊢
  omega

end Dict
end Foundation
