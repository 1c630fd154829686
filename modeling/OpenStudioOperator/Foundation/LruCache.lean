import Mathlib.Data.Finset.Card
import Mathlib.Data.List.Nodup

/-!
# Memoisation with a bounded cache

A call looks its key up; on a miss the value is made, which may raise, and the
least recently used entry gives way when the cache is full.  A raise is not
remembered.  The entries stand most recently used first, so what stands before
a key is what was used since it was, and a key that fewer others were used
after than the cache has room for is still there.
-/

namespace Foundation

/-- At most `maxsize` entries, one for each key, most recently used first. -/
structure LruCache (key value : Type) (maxsize : Nat) where
  entries : List (key × value)
  nodupKeys : (entries.map Prod.fst).Nodup
  bounded : entries.length <= maxsize

namespace LruCache

variable {key value error : Type} {maxsize : Nat}

def empty : LruCache key value maxsize := ⟨[], List.nodup_nil, Nat.zero_le _⟩

variable [DecidableEq key]

def get? (cache : LruCache key value maxsize) (k : key) : Option value :=
  cache.entries.lookup k

theorem nodup_keys_cons_filter (k : key) (v : value) {entries : List (key × value)}
    (h : (entries.map Prod.fst).Nodup) :
    (((k, v) :: entries.filter fun e => decide (e.1 ≠ k)).map Prod.fst).Nodup := by
  rw [List.map_cons, List.nodup_cons]
  constructor
  · intro hmem
    rcases List.mem_map.mp hmem with ⟨e, he, hek⟩
    exact of_decide_eq_true (List.mem_filter.mp he).2 hek
  · exact h.sublist (List.filter_sublist.map Prod.fst)

/-- Move a key to the front, or enter it there; what no longer fits drops out. -/
def put (cache : LruCache key value maxsize) (k : key) (v : value) :
    LruCache key value maxsize where
  entries := ((k, v) :: cache.entries.filter fun e => decide (e.1 ≠ k)).take maxsize
  nodupKeys := (nodup_keys_cons_filter k v cache.nodupKeys).sublist
    ((List.take_sublist _ _).map Prod.fst)
  bounded := List.length_take_le _ _

/-- One call; `made` is what making the value would give now. -/
def call (cache : LruCache key value maxsize) (k : key) (made : Except error value) :
    Except error value × LruCache key value maxsize :=
  match cache.get? k with
  | some v => (.ok v, cache.put k v)
  | none =>
      match made with
      | .ok v => (.ok v, cache.put k v)
      | .error e => (.error e, cache)

section Laws

variable {cache : LruCache key value maxsize} {k k' : key} {v : value}
variable {made : Except error value} {others : Finset key}

theorem mem_of_get? (h : cache.get? k = some v) : (k, v) ∈ cache.entries := by
  rcases List.lookup_eq_some_iff.mp h with ⟨newer, older, hsplit, _⟩
  rw [hsplit]
  exact List.mem_append_right newer List.mem_cons_self

theorem mem_put {e : key × value} (h : e ∈ (cache.put k v).entries) :
    e = (k, v) ∨ e ∈ cache.entries := by
  rcases List.mem_cons.mp (List.mem_of_mem_take h) with hnew | hold
  · exact Or.inl hnew
  · exact Or.inr (List.mem_filter.mp hold).1

theorem call_of_get? (h : cache.get? k = some v) (made : Except error value) :
    (cache.call k made).1 = .ok v := by
  unfold call
  rw [h]

/-- The three ways of a call: a hit, a miss that makes a value, a raise. -/
theorem call_cases (cache : LruCache key value maxsize) (k : key) (made : Except error value) :
    (exists v, cache.get? k = some v ∧ cache.call k made = (.ok v, cache.put k v)) ∨
    (exists v, cache.get? k = none ∧ made = .ok v ∧
      cache.call k made = (.ok v, cache.put k v)) ∨
    (exists e, cache.get? k = none ∧ made = .error e ∧
      cache.call k made = (.error e, cache)) := by
  unfold call
  cases hget : cache.get? k with
  | some v => exact Or.inl ⟨v, rfl, rfl⟩
  | none =>
      cases made with
      | ok v => exact Or.inr (Or.inl ⟨v, rfl, rfl, rfl⟩)
      | error e => exact Or.inr (Or.inr ⟨e, rfl, rfl, rfl⟩)

/-- Every value of the cache suits its key. -/
def Suits (p : key -> value -> Prop) (cache : LruCache key value maxsize) : Prop :=
  forall e, e ∈ cache.entries -> p e.1 e.2

omit [DecidableEq key] in
theorem suits_empty (p : key -> value -> Prop) :
    Suits p (empty : LruCache key value maxsize) :=
  fun _ he => absurd he List.not_mem_nil

/-!
## How long a key stays
-/

/-- The key is there, and only `others` were used since. -/
def Recent (cache : LruCache key value maxsize) (k : key) (v : value) (others : Finset key) :
    Prop :=
  exists newer older, cache.entries = newer ++ (k, v) :: older ∧
    forall e, e ∈ newer -> e.1 ∈ others ∧ e.1 ≠ k

theorem Recent.get? (h : Recent cache k v others) : cache.get? k = some v := by
  rcases h with ⟨newer, older, hsplit, hnewer⟩
  apply List.lookup_eq_some_iff.mpr
  refine ⟨newer, older, hsplit, ?_⟩
  intro e he
  exact bne_iff_ne.mpr (hnewer e he).2.symm

theorem Recent.put_self (hroom : 0 < maxsize) (cache : LruCache key value maxsize) (k : key)
    (v : value) (others : Finset key) : Recent (cache.put k v) k v others := by
  refine ⟨[], (cache.entries.filter fun e => decide (e.1 ≠ k)).take (maxsize - 1), ?_, ?_⟩
  · exact List.take_cons hroom
  · intro e he
    exact absurd he List.not_mem_nil

/-- What stands before the key fits beside it. -/
theorem length_newer_lt {newer : List (key × value)} (hnodup : (newer.map Prod.fst).Nodup)
    (hnewer : forall e, e ∈ newer -> e.1 ∈ others) (hroom : others.card < maxsize) :
    newer.length < maxsize := by
  have hcard : (newer.map Prod.fst).toFinset.card = newer.length := by
    rw [List.toFinset_card_of_nodup hnodup, List.length_map]
  have hsubset : (newer.map Prod.fst).toFinset ⊆ others := by
    intro x hx
    rcases List.mem_map.mp (List.mem_toFinset.mp hx) with ⟨e, he, hex⟩
    rw [← hex]
    exact hnewer e he
  have hle := Finset.card_le_card hsubset
  lia

theorem Recent.put_other {v' : value} (h : Recent cache k v others) (hk' : k' ∈ others)
    (hne : k' ≠ k) (hroom : others.card < maxsize) :
    Recent (cache.put k' v') k v others := by
  rcases h with ⟨newer, older, hsplit, hnewer⟩
  have hentries : (k', v') :: cache.entries.filter (fun e => decide (e.1 ≠ k')) =
      ((k', v') :: newer.filter fun e => decide (e.1 ≠ k')) ++
        (k, v) :: older.filter fun e => decide (e.1 ≠ k') := by
    rw [hsplit, List.filter_append, List.filter_cons_of_pos (by simpa using hne.symm),
      List.cons_append]
  have hfront : forall e, e ∈ (k', v') :: newer.filter (fun e => decide (e.1 ≠ k')) ->
      e.1 ∈ others ∧ e.1 ≠ k := by
    intro e he
    rcases List.mem_cons.mp he with hnew | hold
    · rw [hnew]
      exact ⟨hk', hne⟩
    · exact hnewer e (List.mem_filter.mp hold).1
  have hnodup : (((k', v') :: newer.filter fun e => decide (e.1 ≠ k')).map Prod.fst).Nodup := by
    have hall := nodup_keys_cons_filter k' v' cache.nodupKeys
    rw [hentries, List.map_append] at hall
    exact (List.nodup_append.mp hall).1
  have hlength := length_newer_lt hnodup (fun e he => (hfront e he).1) hroom
  refine ⟨(k', v') :: newer.filter fun e => decide (e.1 ≠ k'), ?_, ?_, hfront⟩
  · exact (older.filter fun e => decide (e.1 ≠ k')).take
      (maxsize - ((k', v') :: newer.filter fun e => decide (e.1 ≠ k')).length - 1)
  · show List.take maxsize _ = _
    rw [hentries, List.take_append, List.take_of_length_le (Nat.le_of_lt hlength)]
    congr 1
    rw [List.take_cons (Nat.sub_pos_of_lt hlength)]

theorem Recent.call {k' : key} {made : Except error value} (h : Recent cache k v others)
    (hk' : k' ≠ k -> k' ∈ others) (hroom : others.card < maxsize) :
    Recent (cache.call k' made).2 k v others := by
  have hput : forall v', cache.get? k' = some v' ∨ cache.get? k' = none ->
      Recent (cache.put k' v') k v others := by
    intro v' hfound
    by_cases hk : k' = k
    · subst hk
      rw [h.get?] at hfound
      rcases hfound with hsame | hnone
      · rw [← Option.some.inj hsame]
        exact Recent.put_self (Nat.lt_of_le_of_lt (Nat.zero_le _) hroom) cache k' v others
      · cases hnone
    · exact h.put_other (hk' hk) hk hroom
  rcases call_cases cache k' made with
    ⟨v', hget, hcall⟩ | ⟨v', hget, _, hcall⟩ | ⟨e, _, _, hcall⟩
  · rw [hcall]
    exact hput v' (Or.inl hget)
  · rw [hcall]
    exact hput v' (Or.inr hget)
  · rw [hcall]
    exact h

/-- A call that returned leaves its value at the front. -/
theorem recent_of_call (hroom : 0 < maxsize) (h : (cache.call k made).1 = .ok v)
    (others : Finset key) : Recent (cache.call k made).2 k v others := by
  rcases call_cases cache k made with ⟨v', _, hcall⟩ | ⟨v', _, _, hcall⟩ | ⟨e, _, _, hcall⟩
  · rw [hcall] at h ⊢
    rw [← Except.ok.inj h]
    exact Recent.put_self hroom cache k v' others
  · rw [hcall] at h ⊢
    rw [← Except.ok.inj h]
    exact Recent.put_self hroom cache k v' others
  · rw [hcall] at h
    cases h

end Laws

end LruCache

end Foundation
