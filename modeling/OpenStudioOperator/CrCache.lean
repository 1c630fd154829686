import OpenStudioOperator.Foundation.Dict
import OpenStudioOperator.Foundation.History
import OpenStudioOperator.Foundation.PyText

/-!
# The cache of a resource

Handler modules keep process memory for each cluster-manager resource, keyed by
namespace and name.  An entry remembers the uid it was last looked up under, so
that a resource that was deleted and created again does not find the memory of
its predecessor.
-/

namespace OpenStudioOperator
namespace CrCache

open Foundation

/-- Namespace and name. -/
abbrev CrKey := String × String

/-- `uid_is_stale`: both uids are there and differ. -/
def uidIsStale (recorded observed : Option String) : Bool :=
  match recorded, observed with
  | some r, some o => decide (r ≠ o)
  | _, _ => false

/-- The entries, and how often the factory was called. -/
structure PerCRCache (value : Type) where
  entries : Dict CrKey (Option String × value) := .empty
  made : Nat := 0

section Calls

variable (unicode : UnicodeData) {value : Type} (factory : Nat -> value)

/-- `get_or_create`. -/
def PerCRCache.getOrCreate (cache : PerCRCache value) (crNamespace name : String)
    (uid : Option String) : value × PerCRCache value :=
  let key := (crNamespace, name)
  let entry := (cache.entries.get? key).filter fun found => !uidIsStale found.1 uid
  match entry with
  | none =>
      let made := factory cache.made
      (made, { entries := cache.entries.set key (uid, made), made := cache.made + 1 })
  | some found =>
      -- the first uid of an entry that was recorded without one
      if uid.isSome && found.1.isNone then
        (found.2, { cache with entries := cache.entries.set key (uid, found.2) })
      else (found.2, cache)

/-- `repr` of an optional name. -/
def reprOption (value : Option String) : String :=
  match value with
  | none => "None"
  | some text => reprStr unicode text

/-- `reset`: everything, one resource, or the message of a `ValueError`. -/
def PerCRCache.reset (cache : PerCRCache value)
    (crNamespace name : Option String) : Except String (PerCRCache value) :=
  match crNamespace, name with
  | none, none => .ok { cache with entries := .empty }
  | some crNamespace, some name =>
      .ok { cache with entries := cache.entries.erase (crNamespace, name) }
  | _, _ =>
      .error ("reset_per_cr_caches: pass both namespace and name, or neither (got namespace="
        ++ reprOption unicode crNamespace ++ ", name=" ++ reprOption unicode name ++ ")")

/-!
## Histories
-/

/-- A call of the cache. -/
inductive CacheCall where
  | lookup (crNamespace name : String) (uid : Option String)
  | reset (crNamespace name : Option String)
deriving DecidableEq, Repr

/-- A call with the value that it returned. -/
structure CacheEntry (value : Type) where
  call : CacheCall
  returned : Option value
deriving DecidableEq, Repr

/-- One call; a reset that is refused leaves the cache as it was. -/
def PerCRCache.step (cache : PerCRCache value) (call : CacheCall) :
    CacheEntry value × PerCRCache value :=
  match call with
  | .lookup crNamespace name uid =>
      let found := cache.getOrCreate factory crNamespace name uid
      (⟨call, some found.1⟩, found.2)
  | .reset crNamespace name =>
      match cache.reset unicode crNamespace name with
      | .ok cache' => (⟨call, none⟩, cache')
      | .error _ => (⟨call, none⟩, cache)

/-- The calls of a process in order, on top of the history so far; the newest
stands first. -/
def runCalls : List CacheCall -> PerCRCache value ->
    List (CacheEntry value) -> List (CacheEntry value)
  | [], _, history => history
  | call :: later, cache, history =>
      let done := cache.step unicode factory call
      runCalls later done.2 (done.1 :: history)

end Calls

/-!
## Isolation
-/

section Isolation

variable {value : Type}

/-- The entry is a lookup of the key under `uid` that returned `v`. -/
def CacheEntry.Looks (e : CacheEntry value) (key : CrKey) (uid : Option String) (v : value) :
    Prop :=
  e.call = .lookup key.1 key.2 uid ∧ e.returned = some v

/-- The call drops the entry of the key. -/
def CacheCall.resets (key : CrKey) : CacheCall -> Bool
  | .lookup _ _ _ => false
  | .reset none none => true
  | .reset (some crNamespace) (some name) => decide ((crNamespace, name) = key)
  | .reset _ _ => false

/-- The last uid that the key was looked up under, since its last reset. -/
def told (key : CrKey) : List (CacheEntry value) -> Option String
  | [] => none
  | e :: older =>
      match e.call with
      | .lookup crNamespace name uid =>
          if (crNamespace, name) = key then uid.or (told key older) else told key older
      | .reset _ _ => if e.call.resets key then none else told key older

/-- The call looks the key up under another uid than the last one. -/
def UnderAnother (key : CrKey) (call : CacheCall) (older : List (CacheEntry value)) : Prop :=
  exists u u', call = .lookup key.1 key.2 (some u') ∧ told key older = some u ∧ u ≠ u'

/-- No value serves two resources: lookups that return the same value are of one
key, under one uid if both carry one.  Between two lookups of a key the value
stays, if the key is neither reset nor looked up under another uid. -/
structure Isolated (history : List (CacheEntry value)) : Prop where
  apart : forall e e', e ∈ history -> e' ∈ history -> forall key key' uid uid' v,
    e.Looks key uid v -> e'.Looks key' uid' v ->
    key = key' ∧ forall u u', uid = some u -> uid' = some u' -> u = u'
  stable : forall newer later between first older key uid uid' v v',
    history = newer ++ later :: (between ++ first :: older) ->
    later.Looks key uid' v' -> first.Looks key uid v ->
    (forall e, e ∈ between -> e.call.resets key = false) ->
    (forall after e before, later :: between = after ++ e :: before ->
      ¬ UnderAnother key e.call (before ++ first :: older)) ->
    v' = v

/-!
## What the cache holds
-/

/-- The value of the last lookup of the key, since its last reset. -/
def held (key : CrKey) : List (CacheEntry value) -> Option value
  | [] => none
  | e :: older =>
      match e.call with
      | .lookup crNamespace name _ =>
          if (crNamespace, name) = key then e.returned else held key older
      | .reset _ _ => if e.call.resets key then none else held key older

/-- A lookup answers, and with the value held unless it is under another uid. -/
structure Answered (e : CacheEntry value) (older : List (CacheEntry value)) : Prop where
  answers : forall crNamespace name uid, e.call = .lookup crNamespace name uid ->
    exists v, e.returned = some v
  same : forall key uid v v', held key older = some v -> e.Looks key uid v' ->
    ¬ UnderAnother key e.call older -> v' = v

/-- The cache after a history. -/
structure Tracks (factory : Nat -> value) (cache : PerCRCache value)
    (history : List (CacheEntry value)) : Prop where
  entry : forall key, cache.entries.get? key =
    (held key history).map fun v => (told key history, v)
  fresh : forall e, e ∈ history -> forall key uid v, e.Looks key uid v ->
    exists n, n < cache.made ∧ v = factory n
  owned : forall key v, held key history = some v -> forall e, e ∈ history ->
    forall key' uid, e.Looks key' uid v ->
      key' = key ∧ forall u, uid = some u -> told key history = some u
  apart : forall e e', e ∈ history -> e' ∈ history -> forall key key' uid uid' v,
    e.Looks key uid v -> e'.Looks key' uid' v ->
    key = key' ∧ forall u u', uid = some u -> uid' = some u' -> u = u'
  answered : Throughout Answered history

section Lookups

variable {factory : Nat -> value} {cache : PerCRCache value}
variable {history : List (CacheEntry value)} {key : CrKey} {uid : Option String} {v : value}

theorem uidIsStale_iff {recorded observed : Option String} :
    uidIsStale recorded observed = true <->
      exists r o, recorded = some r ∧ observed = some o ∧ r ≠ o := by
  cases recorded with
  | none => simp [uidIsStale]
  | some r =>
      cases observed with
      | none => simp [uidIsStale]
      | some o => simp [uidIsStale]

/-- What a lookup returns and leaves: the value of an entry that is not stale,
which then has the uid of the lookup if it carries one, or a new value. -/
inductive Served (factory : Nat -> value) (cache : PerCRCache value) (key : CrKey)
    (uid : Option String) : value -> PerCRCache value -> Prop where
  | kept (r : Option String) (v : value) (cache' : PerCRCache value) :
      cache.entries.get? key = some (r, v) -> uidIsStale r uid = false ->
      cache'.made = cache.made ->
      (forall k, cache'.entries.get? k =
        if k = key then some (uid.or r, v) else cache.entries.get? k) ->
      Served factory cache key uid v cache'
  | created (cache' : PerCRCache value) :
      (forall r v, cache.entries.get? key = some (r, v) -> uidIsStale r uid = true) ->
      cache'.made = cache.made + 1 ->
      (forall k, cache'.entries.get? k =
        if k = key then some (uid, factory cache.made) else cache.entries.get? k) ->
      Served factory cache key uid (factory cache.made) cache'

theorem get?_set (entries : Dict CrKey (Option String × value)) (key k : CrKey)
    (found : Option String × value) :
    (entries.set key found).get? k = if k = key then some found else entries.get? k := by
  by_cases hk : k = key
  · rw [if_pos hk, hk, Dict.get?_set_self]
  · rw [if_neg hk, Dict.get?_set_of_ne _ _ hk]

theorem getOrCreate_of_none {crNamespace name : String}
    (h : (cache.entries.get? (crNamespace, name)).filter
      (fun found => !uidIsStale found.1 uid) = none) :
    cache.getOrCreate factory crNamespace name uid =
      (factory cache.made,
        { entries := cache.entries.set (crNamespace, name) (uid, factory cache.made)
          made := cache.made + 1 }) := by
  unfold PerCRCache.getOrCreate
  simp only [h]

theorem getOrCreate_of_some {crNamespace name : String} {r : Option String}
    (h : cache.entries.get? (crNamespace, name) = some (r, v))
    (hfresh : uidIsStale r uid = false) :
    cache.getOrCreate factory crNamespace name uid =
      if uid.isSome && r.isNone then
        (v, { cache with entries := cache.entries.set (crNamespace, name) (uid, v) })
      else (v, cache) := by
  unfold PerCRCache.getOrCreate
  simp only [h, Option.filter, hfresh, Bool.not_false, if_true]

/-- The uid of an entry that is found: the first one that it was given. -/
theorem or_eq_recorded {recorded observed : Option String}
    (hfresh : uidIsStale recorded observed = false)
    (hkept : (observed.isSome && recorded.isNone) = false) :
    observed.or recorded = recorded := by
  cases observed with
  | none => rfl
  | some o =>
      cases recorded with
      | none => cases hkept
      | some r =>
          have hsame : r = o := by simpa [uidIsStale] using hfresh
          rw [hsame]
          rfl

theorem getOrCreate_served (factory : Nat -> value) (cache : PerCRCache value)
    (crNamespace name : String) (uid : Option String) :
    Served factory cache (crNamespace, name) uid
      (cache.getOrCreate factory crNamespace name uid).1
      (cache.getOrCreate factory crNamespace name uid).2 := by
  cases hentry : cache.entries.get? (crNamespace, name) with
  | none =>
      rw [getOrCreate_of_none (by rw [hentry]; rfl)]
      refine .created _ ?_ rfl fun k =>
        get?_set cache.entries (crNamespace, name) k (uid, factory cache.made)
      intro r v h
      rw [hentry] at h
      cases h
  | some found =>
      rcases found with ⟨r, v⟩
      cases hstale : uidIsStale r uid with
      | true =>
          rw [getOrCreate_of_none (by rw [hentry, Option.filter, hstale]; rfl)]
          refine .created _ ?_ rfl fun k =>
            get?_set cache.entries (crNamespace, name) k (uid, factory cache.made)
          intro r' v' h
          rw [hentry] at h
          cases h
          exact hstale
      | false =>
          rw [getOrCreate_of_some hentry hstale]
          cases hfirst : uid.isSome && r.isNone with
          | true =>
              rw [if_pos rfl]
              refine .kept r v _ hentry hstale rfl fun k => ?_
              have huid : uid.or r = uid := by
                rw [Option.isNone_iff_eq_none.mp (Bool.and_elim_right hfirst), Option.or_none]
              rw [huid]
              exact get?_set cache.entries (crNamespace, name) k (uid, v)
          | false =>
              rw [if_neg (Bool.false_ne_true)]
              refine .kept r v _ hentry hstale rfl fun k => ?_
              rw [or_eq_recorded hstale hfirst]
              by_cases hk : k = (crNamespace, name)
              · rw [if_pos hk, hk]
                exact hentry
              · rw [if_neg hk]

/-!
## Lookups
-/

theorem looks_lookup_iff {key' : CrKey} {uid' : Option String} {w : value} :
    CacheEntry.Looks ⟨.lookup key.1 key.2 uid, some v⟩ key' uid' w <->
      key' = key ∧ uid' = uid ∧ w = v := by
  constructor
  · rintro ⟨hcall, hreturned⟩
    injection hcall with hnamespace hname huid
    exact ⟨Prod.ext hnamespace.symm hname.symm, huid.symm, (Option.some.inj hreturned).symm⟩
  · rintro ⟨rfl, rfl, rfl⟩
    exact ⟨rfl, rfl⟩

theorem held_lookup (k : CrKey) :
    held k (⟨.lookup key.1 key.2 uid, some v⟩ :: history) =
      if key = k then some v else held k history := rfl

theorem told_lookup (k : CrKey) :
    told k (⟨.lookup key.1 key.2 uid, some v⟩ :: history) =
      if key = k then uid.or (told k history) else told k history := rfl

/-- A key without a value has no uid. -/
theorem told_of_held_none (hanswered : Throughout Answered history)
    (h : held key history = none) : told key history = none := by
  induction history with
  | nil => rfl
  | cons e older ih =>
      have hanswers := hanswered.head.answers
      rcases e with ⟨call, returned⟩
      cases call with
      | lookup crNamespace name uid =>
          rcases hanswers crNamespace name uid rfl with ⟨v, hv⟩
          simp only [held] at h
          simp only [told]
          by_cases hkey : (crNamespace, name) = key
          · rw [if_pos hkey] at h
            cases h.symm.trans hv
          · rw [if_neg hkey] at h
            rw [if_neg hkey]
            exact ih hanswered.tail h
      | reset crNamespace name =>
          simp only [held] at h
          simp only [told]
          by_cases hreset : (CacheCall.reset crNamespace name).resets key = true
          · rw [if_pos hreset]
          · rw [if_neg hreset] at h
            rw [if_neg hreset]
            exact ih hanswered.tail h

/-- A value that is held was returned for its key. -/
theorem exists_of_held (h : held key history = some v) :
    exists e, e ∈ history ∧ exists uid, e.Looks key uid v := by
  induction history with
  | nil => cases h
  | cons e older ih =>
      have hlater : held key older = some v ->
          exists e', e' ∈ e :: older ∧ exists uid, e'.Looks key uid v := by
        intro holder
        rcases ih holder with ⟨e', hmem, hlooks⟩
        exact ⟨e', List.mem_cons_of_mem _ hmem, hlooks⟩
      rcases e with ⟨call, returned⟩
      cases call with
      | lookup crNamespace name uid =>
          simp only [held] at h
          by_cases hkey : (crNamespace, name) = key
          · rw [if_pos hkey] at h
            refine ⟨_, List.mem_cons_self, uid, ?_, h⟩
            rw [← hkey]
          · rw [if_neg hkey] at h
            exact hlater h
      | reset crNamespace name =>
          simp only [held] at h
          by_cases hreset : (CacheCall.reset crNamespace name).resets key = true
          · rw [if_pos hreset] at h
            cases h
          · rw [if_neg hreset] at h
            exact hlater h

/-- The factory has not made this value before. -/
theorem Tracks.not_returned (hfactory : Function.Injective factory)
    (h : Tracks factory cache history) {e : CacheEntry value} (he : e ∈ history)
    {key' : CrKey} {uid' : Option String} :
    ¬ e.Looks key' uid' (factory cache.made) := by
  intro hlooks
  rcases h.fresh e he key' uid' _ hlooks with ⟨n, hn, heq⟩
  exact absurd (hfactory heq) (Nat.ne_of_gt hn)

/-- The value of an entry that is found is the one held. -/
theorem Tracks.held_of_entry (h : Tracks factory cache history) {r : Option String}
    (hentry : cache.entries.get? key = some (r, v)) :
    held key history = some v ∧ told key history = r := by
  have hheld := h.entry key
  rw [hentry] at hheld
  cases hvalue : held key history with
  | none =>
      rw [hvalue] at hheld
      cases hheld
  | some w =>
      rw [hvalue] at hheld
      injection hheld with hpair
      injection hpair with huid hv
      rw [hv]
      exact ⟨rfl, huid.symm⟩

variable {cache' : PerCRCache value}

/-- The uid of the key after a lookup. -/
theorem Tracks.told_of_created (h : Tracks factory cache history)
    (hnone : forall r v, cache.entries.get? key = some (r, v) -> uidIsStale r uid = true) :
    uid.or (told key history) = uid := by
  cases hheld : held key history with
  | none => rw [told_of_held_none h.answered hheld, Option.or_none]
  | some w =>
      have hentry : cache.entries.get? key = some (told key history, w) := by
        rw [h.entry key, hheld]
        rfl
      rcases uidIsStale_iff.mp (hnone _ _ hentry) with ⟨r, o, _, ho, _⟩
      rw [ho]
      rfl

/-- Whoever got the value that this lookup returns asked for the same resource. -/
theorem Tracks.same_resource (hfactory : Function.Injective factory)
    (h : Tracks factory cache history) (hserved : Served factory cache key uid v cache')
    {e : CacheEntry value} (he : e ∈ history) {key' : CrKey} {uid' : Option String}
    (hlooks : e.Looks key' uid' v) :
    key' = key ∧ forall u, uid' = some u -> uid.or (told key history) = some u := by
  cases hserved with
  | created _ hnone _ _ => exact absurd hlooks (h.not_returned hfactory he)
  | kept r v _ hentry hstale _ _ =>
      have hheld := h.held_of_entry hentry
      have howned := h.owned key v hheld.1 e he key' uid' hlooks
      refine ⟨howned.1, fun u hu => ?_⟩
      have htold := howned.2 u hu
      cases uid with
      | none => exact htold
      | some o =>
          by_cases ho : u = o
          · rw [ho]
            rfl
          · have hstale' : uidIsStale r (some o) = true :=
              uidIsStale_iff.mpr ⟨u, o, hheld.2.symm.trans htold, rfl, ho⟩
            rw [hstale'] at hstale
            cases hstale

/-- A key holds the value that its lookup returned. -/
theorem Tracks.lookup_entry (h : Tracks factory cache history)
    (hserved : Served factory cache key uid v cache') (k : CrKey) :
    cache'.entries.get? k =
      (held k (⟨.lookup key.1 key.2 uid, some v⟩ :: history)).map
        fun w => (told k (⟨.lookup key.1 key.2 uid, some v⟩ :: history), w) := by
  have hget : cache'.entries.get? k =
      if k = key then some (uid.or (told key history), v) else cache.entries.get? k := by
    cases hserved with
    | created _ hnone _ hget => rw [h.told_of_created hnone, hget]
    | kept r v _ hentry _ _ hget => rw [(h.held_of_entry hentry).2, hget]
  rw [hget, held_lookup, told_lookup]
  by_cases hk : k = key
  · rw [if_pos hk, hk, if_pos rfl, if_pos rfl]
    rfl
  · rw [if_neg hk, if_neg (Ne.symm hk), if_neg (Ne.symm hk)]
    exact h.entry k

theorem Tracks.lookup_fresh (h : Tracks factory cache history)
    (hserved : Served factory cache key uid v cache') :
    (exists n, n < cache'.made ∧ v = factory n) ∧ cache.made ≤ cache'.made := by
  cases hserved with
  | created _ _ hmade _ =>
      rw [hmade]
      exact ⟨⟨cache.made, Nat.lt_succ_self _, rfl⟩, Nat.le_succ _⟩
  | kept r v _ hentry _ hmade _ =>
      rcases exists_of_held (h.held_of_entry hentry).1 with ⟨e, he, uid', hlooks⟩
      rw [hmade]
      exact ⟨h.fresh e he key uid' v hlooks, Nat.le_refl _⟩

theorem Tracks.lookup_owned (hfactory : Function.Injective factory)
    (h : Tracks factory cache history) (hserved : Served factory cache key uid v cache')
    {k : CrKey} {w : value}
    (hheld : held k (⟨.lookup key.1 key.2 uid, some v⟩ :: history) = some w)
    {e : CacheEntry value} (he : e ∈ (⟨.lookup key.1 key.2 uid, some v⟩ :: history))
    {key' : CrKey} {uid' : Option String} (hlooks : e.Looks key' uid' w) :
    key' = k ∧ forall u, uid' = some u ->
      told k (⟨.lookup key.1 key.2 uid, some v⟩ :: history) = some u := by
  rw [held_lookup] at hheld
  rw [told_lookup]
  by_cases hk : key = k
  · subst hk
    rw [if_pos rfl] at hheld
    cases hheld
    rw [if_pos rfl]
    rcases List.mem_cons.mp he with rfl | hold
    · rcases looks_lookup_iff.mp hlooks with ⟨hkey, huid, _⟩
      refine ⟨hkey, fun u hu => ?_⟩
      rw [← huid, hu]
      rfl
    · exact h.same_resource hfactory hserved hold hlooks
  · rw [if_neg hk] at hheld
    rw [if_neg hk]
    rcases List.mem_cons.mp he with rfl | hold
    · -- the value of another key would be served here
      rcases looks_lookup_iff.mp hlooks with ⟨_, _, hw⟩
      rcases exists_of_held hheld with ⟨e', he', uid'', hlooks'⟩
      rw [hw] at hlooks'
      exact absurd (h.same_resource hfactory hserved he' hlooks').1.symm hk
    · exact h.owned k w hheld e hold key' uid' hlooks

theorem Tracks.lookup_apart (hfactory : Function.Injective factory)
    (h : Tracks factory cache history) (hserved : Served factory cache key uid v cache')
    {e : CacheEntry value} (he : e ∈ history) {key' : CrKey} {uid' : Option String}
    (hlooks : e.Looks key' uid' v) :
    key = key' ∧ forall u u', uid = some u -> uid' = some u' -> u = u' := by
  have hsame := h.same_resource hfactory hserved he hlooks
  refine ⟨hsame.1.symm, fun u u' hu hu' => ?_⟩
  have htold := hsame.2 u' hu'
  rw [hu] at htold
  exact Option.some.inj htold

theorem Tracks.lookup_answered (h : Tracks factory cache history)
    (hserved : Served factory cache key uid v cache') :
    Answered ⟨.lookup key.1 key.2 uid, some v⟩ history where
  answers _ _ _ _ := ⟨v, rfl⟩
  same k uid' w v' hheld hlooks hsame := by
    rcases looks_lookup_iff.mp hlooks with ⟨rfl, _, rfl⟩
    cases hserved with
    | kept r v _ hentry _ _ _ =>
        exact Option.some.inj ((h.held_of_entry hentry).1.symm.trans hheld)
    | created _ hnone _ _ =>
        have hentry : cache.entries.get? k = some (told k history, w) := by
          rw [h.entry k, hheld]
          rfl
        rcases uidIsStale_iff.mp (hnone _ _ hentry) with ⟨r, o, hr, ho, hne⟩
        exact absurd ⟨r, o, by rw [ho], hr, hne⟩ hsame

theorem Tracks.lookup (hfactory : Function.Injective factory)
    (h : Tracks factory cache history) (hserved : Served factory cache key uid v cache') :
    Tracks factory cache' (⟨.lookup key.1 key.2 uid, some v⟩ :: history) where
  entry := h.lookup_entry hserved
  fresh e he key' uid' w hlooks := by
    rcases h.lookup_fresh hserved with ⟨hnew, hmade⟩
    rcases List.mem_cons.mp he with rfl | hold
    · rw [(looks_lookup_iff.mp hlooks).2.2]
      exact hnew
    · rcases h.fresh e hold key' uid' w hlooks with ⟨n, hn, hw⟩
      exact ⟨n, Nat.lt_of_lt_of_le hn hmade, hw⟩
  owned _ _ hheld _ he _ _ hlooks := h.lookup_owned hfactory hserved hheld he hlooks
  apart e e' he he' k k' uid₁ uid₂ w hlooks hlooks' := by
    rcases List.mem_cons.mp he with rfl | hold
    · rcases looks_lookup_iff.mp hlooks with ⟨rfl, rfl, rfl⟩
      rcases List.mem_cons.mp he' with rfl | hold'
      · rcases looks_lookup_iff.mp hlooks' with ⟨rfl, rfl, _⟩
        exact ⟨rfl, fun u u' hu hu' => Option.some.inj (hu.symm.trans hu')⟩
      · exact h.lookup_apart hfactory hserved hold' hlooks'
    · rcases List.mem_cons.mp he' with rfl | hold'
      · rcases looks_lookup_iff.mp hlooks' with ⟨rfl, rfl, rfl⟩
        have hapart := h.lookup_apart hfactory hserved hold hlooks
        exact ⟨hapart.1.symm, fun u u' hu hu' => (hapart.2 u' u hu' hu).symm⟩
      · exact h.apart e e' hold hold' k k' uid₁ uid₂ w hlooks hlooks'
  answered := .cons (h.lookup_answered hserved) h.answered

end Lookups

/-!
## Resets
-/

section Resets

variable {unicode : UnicodeData} {factory : Nat -> value} {cache cache' : PerCRCache value}
variable {history : List (CacheEntry value)} {crNamespace name : Option String}

/-- A reset drops the entries that it names, and no value is made. -/
theorem reset_ok (h : cache.reset unicode crNamespace name = .ok cache') :
    cache'.made = cache.made ∧ forall k, cache'.entries.get? k =
      if (CacheCall.reset crNamespace name).resets k then none else cache.entries.get? k := by
  cases crNamespace with
  | none =>
      cases name with
      | none =>
          cases h
          exact ⟨rfl, fun k => Dict.get?_empty k⟩
      | some name => cases h
  | some crNamespace =>
      cases name with
      | none => cases h
      | some name =>
          cases h
          refine ⟨rfl, fun k => ?_⟩
          simp only [CacheCall.resets, decide_eq_true_eq]
          by_cases hk : (crNamespace, name) = k
          · rw [if_pos hk, ← hk]
            exact Dict.get?_erase_self _ _
          · rw [if_neg hk]
            exact Dict.get?_erase_of_ne _ (Ne.symm hk)

/-- A reset that is refused names no key. -/
theorem reset_error {message : String}
    (h : cache.reset unicode crNamespace name = .error message) (k : CrKey) :
    (CacheCall.reset crNamespace name).resets k = false := by
  cases crNamespace with
  | none =>
      cases name with
      | none => cases h
      | some name => rfl
  | some crNamespace =>
      cases name with
      | none => rfl
      | some name => cases h

theorem not_looks_reset {key : CrKey} {uid : Option String} {v : value} :
    ¬ CacheEntry.Looks ⟨.reset crNamespace name, none⟩ key uid v := by
  rintro ⟨hcall, _⟩
  cases hcall

theorem Tracks.reset (h : Tracks factory cache history) (hmade : cache'.made = cache.made)
    (hget : forall k, cache'.entries.get? k =
      if (CacheCall.reset crNamespace name).resets k then none else cache.entries.get? k) :
    Tracks factory cache' (⟨.reset crNamespace name, none⟩ :: history) where
  entry k := by
    rw [hget k]
    simp only [held, told]
    by_cases hk : (CacheCall.reset crNamespace name).resets k = true
    · rw [if_pos hk, if_pos hk, if_pos hk]
      rfl
    · rw [if_neg hk, if_neg hk, if_neg hk]
      exact h.entry k
  fresh e he key uid v hlooks := by
    rw [hmade]
    rcases List.mem_cons.mp he with rfl | hold
    · exact absurd hlooks not_looks_reset
    · exact h.fresh e hold key uid v hlooks
  owned k v hheld e he key uid hlooks := by
    simp only [held] at hheld
    simp only [told]
    by_cases hk : (CacheCall.reset crNamespace name).resets k = true
    · rw [if_pos hk] at hheld
      cases hheld
    · rw [if_neg hk] at hheld
      rw [if_neg hk]
      rcases List.mem_cons.mp he with rfl | hold
      · exact absurd hlooks not_looks_reset
      · exact h.owned k v hheld e hold key uid hlooks
  apart e e' he he' key key' uid uid' v hlooks hlooks' := by
    rcases List.mem_cons.mp he with rfl | hold
    · exact absurd hlooks not_looks_reset
    · rcases List.mem_cons.mp he' with rfl | hold'
      · exact absurd hlooks' not_looks_reset
      · exact h.apart e e' hold hold' key key' uid uid' v hlooks hlooks'
  answered := by
    refine .cons ⟨?_, ?_⟩ h.answered
    · intro crNamespace name uid hcall
      cases hcall
    · intro key uid v v' _ hlooks
      exact absurd hlooks not_looks_reset

end Resets

/-!
## Runs
-/

section Runs

variable (unicode : UnicodeData) {factory : Nat -> value}
variable {history : List (CacheEntry value)}

theorem Tracks.step (hfactory : Function.Injective factory) {cache : PerCRCache value}
    (h : Tracks factory cache history) (call : CacheCall) :
    Tracks factory (cache.step unicode factory call).2
      ((cache.step unicode factory call).1 :: history) := by
  cases call with
  | lookup crNamespace name uid =>
      exact h.lookup hfactory (getOrCreate_served factory cache crNamespace name uid)
  | reset crNamespace name =>
      simp only [PerCRCache.step]
      cases hreset : cache.reset unicode crNamespace name with
      | ok cache' => exact h.reset (reset_ok hreset).1 (reset_ok hreset).2
      | error message =>
          refine h.reset rfl fun k => ?_
          rw [reset_error hreset k]
          rfl

theorem Tracks.run (hfactory : Function.Injective factory) (calls : List CacheCall) :
    forall (cache : PerCRCache value) (history : List (CacheEntry value)),
      Tracks factory cache history ->
        exists cache', Tracks factory cache' (runCalls unicode factory calls cache history) := by
  induction calls with
  | nil => exact fun cache _ h => ⟨cache, h⟩
  | cons call later ih => exact fun _ _ h => ih _ _ (h.step unicode hfactory call)

theorem tracks_empty (factory : Nat -> value) : Tracks factory {} [] where
  entry k := Dict.get?_empty k
  fresh _ he := absurd he List.not_mem_nil
  owned _ _ hheld := nomatch hheld
  apart _ _ he := absurd he List.not_mem_nil
  answered := .nil

variable {key : CrKey} {uid : Option String} {v : value} {first : CacheEntry value}

/-- A value stays until a reset or a lookup under another uid. -/
theorem held_between (hlooks : first.Looks key uid v) (older between : List (CacheEntry value))
    (hanswered : Throughout Answered (between ++ first :: older))
    (hresets : forall e, e ∈ between -> e.call.resets key = false)
    (hsame : forall after e before, between = after ++ e :: before ->
      ¬ UnderAnother key e.call (before ++ first :: older)) :
    held key (between ++ first :: older) = some v := by
  induction between with
  | nil =>
      rcases first with ⟨call, returned⟩
      rcases hlooks with ⟨hcall, hreturned⟩
      cases hcall
      cases hreturned
      exact if_pos rfl
  | cons e rest ih =>
      have hrest := ih hanswered.tail (fun e' he' => hresets e' (List.mem_cons_of_mem _ he'))
        fun after e' before hsplit => hsame (e :: after) e' before (by rw [hsplit]; rfl)
      have hnot := hsame [] e rest rfl
      have hreset := hresets e List.mem_cons_self
      have hhead := hanswered.head
      rcases e with ⟨call, returned⟩
      cases call with
      | lookup crNamespace name uid' =>
          simp only [List.cons_append, held]
          by_cases hkey : (crNamespace, name) = key
          · rw [if_pos hkey]
            rcases hhead.answers crNamespace name uid' rfl with ⟨v', hv'⟩
            have hv : v' = v := hhead.same key uid' v v' hrest ⟨by rw [← hkey], hv'⟩ hnot
            rw [← hv]
            exact hv'
          · rw [if_neg hkey]
            exact hrest
      | reset crNamespace name =>
          simp only [List.cons_append, held]
          rw [if_neg (by rw [hreset]; exact Bool.false_ne_true)]
          exact hrest

/-- The cache keeps resources apart, whatever the calls. -/
theorem runCalls_isolated (hfactory : Function.Injective factory) (calls : List CacheCall) :
    Isolated (runCalls unicode factory calls {} []) := by
  rcases Tracks.run unicode hfactory calls {} [] (tracks_empty factory) with ⟨cache, h⟩
  refine ⟨h.apart, ?_⟩
  intro newer later between first older key uid uid' v v' hsplit hlater hfirst hresets hsame
  have hanswered := h.answered
  rw [hsplit] at hanswered
  have hrun := hanswered.of_append newer
  have hheld := held_between hfirst older between hrun.tail hresets
    fun after e before hbetween =>
      hsame (later :: after) e before (by rw [hbetween]; rfl)
  exact hrun.head.same key uid' v v' hheld hlater (hsame [] later between rfl)

/-- A lookup without a uid, the first uid of the resource, a successor of the same
name, and another resource. -/
def successorCalls : List CacheCall :=
  [.lookup "energy" "oscm" none, .lookup "energy" "oscm" (some "1f"),
    .lookup "energy" "oscm" (some "2c"), .reset (some "energy") none,
    .lookup "energy" "web" (some "1f"), .lookup "energy" "oscm" none]

/-- The values that the calls of `successorCalls` return, one number a value. -/
theorem runCalls_isolated_successor :
    (runCalls UnicodeData.ascii id successorCalls {} []).map (fun e => e.returned) =
      [some 1, some 2, none, some 1, some 0, some 0] ∧
    Isolated (runCalls UnicodeData.ascii id successorCalls {} []) :=
  ⟨by decide +kernel,
    runCalls_isolated UnicodeData.ascii Function.injective_id successorCalls⟩

end Runs

end Isolation

end CrCache
end OpenStudioOperator
