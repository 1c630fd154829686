import OpenStudioOperator.Foundation.SortOn
import OpenStudioOperator.StatusPatches

/-!
# The size cap of the maps

A write at the cap drops the first entries in the order of eviction and sends
every other entry as it was read.  It drops as many as a new key needs, also
when the key is in the map already.
-/

namespace OpenStudioOperator
namespace StatusDocument

open Foundation

/-!
## The maps before and after a write
-/

/-- The entries of a map; what is not an object has none. -/
def mapEntries (field : StatusField) (status : Json) : List (String × Json) :=
  (getMember status.members field.key).members

/-- The keys that a write to `key` took out of the map. -/
def removedKeys (key : String) (before after : List (String × Json)) : List String :=
  (before.map Prod.fst).filter fun k => decide (k ≠ key) && (after.lookup k).isNone

/-- The entries beside the written one. -/
def otherKeys (key : String) (entries : List (String × Json)) : List String :=
  (entries.map Prod.fst).filter fun k => decide (k ≠ key)

/-- The bounded map that a write is to leave. -/
structure CapKept (protectedIds : List String) (key : String) (encoded : Json)
    (before after : List (String × Json)) : Prop where
  written : after.lookup key =
    some (Json.mergePatch ((before.lookup key).getD .null) encoded)
  bounded : after.length <= statusMapMaxEntries
  least : (removedKeys key before after).length =
    (otherKeys key before).length + 1 - statusMapMaxEntries
  existing : key ∈ before.map Prod.fst -> before.length <= statusMapMaxEntries ->
    removedKeys key before after = []
  sparing : forall k, k ∈ removedKeys key before after -> k ∈ protectedIds ->
    forall k', k' ∈ otherKeys key before -> k' ∉ protectedIds ->
      k' ∈ removedKeys key before after
  survivors : forall k, k ≠ key ->
    after.lookup k = none ∨ after.lookup k = before.lookup k

/-!
## The condition
-/

/-- The order of eviction: the unprotected keys first, each class by key. -/
def EvictedBefore (protectedIds : List String) (a b : String) : Prop :=
  (a ∉ protectedIds ∧ b ∈ protectedIds) ∨
    ((a ∈ protectedIds <-> b ∈ protectedIds) ∧ a < b)

instance decidableEvictedBefore (protectedIds : List String) :
    DecidableRel (EvictedBefore protectedIds) :=
  fun _ _ => inferInstanceAs (Decidable (_ ∨ _))

/-- A new key would have the key evicted. -/
def Evictable (protectedIds : List String) (entries : List (String × Json))
    (k : String) : Prop :=
  (entries.map Prod.fst).countP (fun a => decide (EvictedBefore protectedIds a k)) +
    statusMapMaxEntries <= entries.length

/-- The map is below the cap, or the key is new or evicted itself and no entry
that stays is a null or has a null that merging it into itself would remove. -/
def EvictsEnough (protectedIds : List String) (key : String)
    (entries : List (String × Json)) : Prop :=
  entries.length < statusMapMaxEntries ∨
    ((key ∉ entries.map Prod.fst ∨ Evictable protectedIds entries key) ∧
      forall k v, (k, v) ∈ entries -> k ≠ key -> ¬ Evictable protectedIds entries k ->
        v.isNull = false ∧ Json.mergePatch v v = v)

theorem statusMapMaxEntries_pos : 0 < statusMapMaxEntries :=
  Nat.le_of_ble_eq_true rfl

/-!
## The victims
-/

section Victims

variable {protectedIds : List String} {entries : List (String × Json)}

theorem EvictedBefore.asymm {a b : String} (h : EvictedBefore protectedIds a b) :
    ¬ EvictedBefore protectedIds b a := by
  intro h'
  rcases h with ⟨ha, hb⟩ | ⟨hsame, hlt⟩
  · rcases h' with ⟨hb', _⟩ | ⟨hsame', _⟩
    · exact hb' hb
    · exact ha (hsame'.mp hb)
  · rcases h' with ⟨hb', ha'⟩ | ⟨_, hlt'⟩
    · exact hb' (hsame.mp ha')
    · exact lt_asymm hlt hlt'

theorem EvictedBefore.trans {a b c : String} (hab : EvictedBefore protectedIds a b)
    (hbc : EvictedBefore protectedIds b c) : EvictedBefore protectedIds a c := by
  rcases hab with ⟨ha, hb⟩ | ⟨hsame, hlt⟩
  · rcases hbc with ⟨hb', _⟩ | ⟨hsame', _⟩
    · exact absurd hb hb'
    · exact Or.inl ⟨ha, hsame'.mp hb⟩
  · rcases hbc with ⟨hb, hc⟩ | ⟨hsame', hlt'⟩
    · exact Or.inl ⟨fun ha => hb (hsame.mp ha), hc⟩
    · exact Or.inr ⟨hsame.trans hsame', lt_trans hlt hlt'⟩

/-- What goes before an evictable key is evictable. -/
theorem Evictable.of_before {k k' : String} (h : Evictable protectedIds entries k)
    (hbefore : EvictedBefore protectedIds k' k) : Evictable protectedIds entries k' := by
  unfold Evictable at h ⊢
  refine le_trans (Nat.add_le_add_right (List.countP_mono_left ?_) _) h
  intro a _ ha
  exact decide_eq_true ((of_decide_eq_true ha).trans hbefore)

/-- The keys in the order of eviction. -/
def evictionOrder (protectedIds : List String) (entries : List (String × Json)) :
    List String :=
  (entries.map Prod.fst).filter (· ∉ protectedIds) ++
    (entries.map Prod.fst).filter (· ∈ protectedIds)

theorem cappedKeys_eq_take (protectedIds : List String) (entries : List (String × Json)) :
    cappedKeys protectedIds entries =
      (evictionOrder protectedIds entries).take
        (entries.length - statusMapMaxEntries + 1) := rfl

theorem evictionOrder_perm (protectedIds : List String)
    (entries : List (String × Json)) :
    (evictionOrder protectedIds entries).Perm (entries.map Prod.fst) := by
  unfold evictionOrder
  refine List.perm_append_comm.trans ?_
  have hsplit := List.filter_append_perm (fun k => decide (k ∈ protectedIds))
    (entries.map Prod.fst)
  simpa only [decide_not] using hsplit

theorem evictionOrder_pairwise (h : Members.Sorted entries) :
    (evictionOrder protectedIds entries).Pairwise (EvictedBefore protectedIds) := by
  have hkeys : (entries.map Prod.fst).Pairwise (· < ·) := by
    rw [List.pairwise_map]
    exact h
  unfold evictionOrder
  rw [List.pairwise_append]
  refine ⟨?_, ?_, ?_⟩
  · refine (hkeys.filter _).imp_of_mem ?_
    intro a b ha hb hlt
    have ha' : a ∉ protectedIds := by simpa using (List.mem_filter.mp ha).2
    have hb' : b ∉ protectedIds := by simpa using (List.mem_filter.mp hb).2
    exact Or.inr ⟨iff_of_false ha' hb', hlt⟩
  · refine (hkeys.filter _).imp_of_mem ?_
    intro a b ha hb hlt
    have ha' : a ∈ protectedIds := by simpa using (List.mem_filter.mp ha).2
    have hb' : b ∈ protectedIds := by simpa using (List.mem_filter.mp hb).2
    exact Or.inr ⟨iff_of_true ha' hb', hlt⟩
  · intro a ha b hb
    have ha' : a ∉ protectedIds := by simpa using (List.mem_filter.mp ha).2
    have hb' : b ∈ protectedIds := by simpa using (List.mem_filter.mp hb).2
    exact Or.inl ⟨ha', hb'⟩

theorem mem_cappedKeys {k : String} (h : k ∈ cappedKeys protectedIds entries) :
    k ∈ entries.map Prod.fst := by
  rw [cappedKeys_eq_take] at h
  exact (evictionOrder_perm protectedIds entries).mem_iff.mp (List.mem_of_mem_take h)

/-- At the cap, the victims are the keys with few enough before them. -/
theorem mem_cappedKeys_iff (h : Members.Sorted entries)
    (hcap : statusMapMaxEntries <= entries.length) {k : String}
    (hk : k ∈ entries.map Prod.fst) :
    k ∈ cappedKeys protectedIds entries <-> Evictable protectedIds entries k := by
  have hperm := evictionOrder_perm protectedIds entries
  rw [cappedKeys_eq_take, mem_take_iff_countP (fun _ _ hab => hab.asymm) _
    (evictionOrder_pairwise h) (hperm.mem_iff.mpr hk), hperm.countP_eq]
  exact Nat.lt_succ_iff.trans (Nat.le_sub_iff_add_le hcap)

theorem nodup_cappedKeys (h : Members.Sorted entries) :
    (cappedKeys protectedIds entries).Nodup := by
  rw [cappedKeys_eq_take]
  exact ((evictionOrder_perm protectedIds entries).nodup_iff.mpr h.nodup).sublist
    (List.take_sublist _ _)

theorem length_cappedKeys (hcap : statusMapMaxEntries <= entries.length) :
    (cappedKeys protectedIds entries).length =
      entries.length - statusMapMaxEntries + 1 := by
  rw [cappedKeys_eq_take, List.length_take,
    (evictionOrder_perm protectedIds entries).length_eq, List.length_map]
  apply Nat.min_eq_left
  rw [← Nat.sub_add_comm hcap, Nat.sub_le_iff_le_add]
  exact Nat.add_le_add_left statusMapMaxEntries_pos _

/-- The victims, counted among the keys. -/
theorem countP_cappedKeys (h : Members.Sorted entries)
    (hcap : statusMapMaxEntries <= entries.length) :
    (entries.map Prod.fst).countP (fun k => decide (k ∈ cappedKeys protectedIds entries)) =
      entries.length - statusMapMaxEntries + 1 := by
  rw [List.countP_eq_length_filter, ← @length_cappedKeys protectedIds entries hcap]
  apply List.Perm.length_eq
  rw [List.perm_ext_iff_of_nodup (h.nodup.filter _) (nodup_cappedKeys h)]
  intro k
  rw [List.mem_filter, decide_eq_true_eq]
  exact ⟨fun hk => hk.2, fun hk => ⟨mem_cappedKeys hk, hk⟩⟩

end Victims

/-!
## What a write leaves
-/

section Writes

variable {protectedIds : List String} {key : String} {encoded : Json}
variable {entries : List (String × Json)}

/-- A patch of one map leaves its entries with the patch merged into them. -/
theorem mapEntries_merge (field : StatusField) (status : Json)
    (patch : List (String × Json)) :
    mapEntries field (status.mergePatch (.obj [(field.key, .obj patch)])) =
      Json.mergeMembers (mapEntries field status) patch := by
  unfold mapEntries getMember
  rw [Json.mergePatch, Json.members,
    Json.lookup_mergeMembers _ _ _ (List.pairwise_singleton _ _), List.lookup_cons_self]
  rfl

theorem lookup_single (hnull : encoded.isNull = false) (k : String) :
    (Json.mergeMembers entries [(key, encoded)]).lookup k =
      if k = key then some (Json.mergePatch ((entries.lookup key).getD .null) encoded)
      else entries.lookup k := by
  rw [Json.lookup_mergeMembers _ _ _ (List.pairwise_singleton _ _)]
  by_cases hk : k = key
  · subst hk
    rw [List.lookup_cons_self, if_pos rfl]
    exact Json.mergedMember_some hnull _
  · rw [List.lookup_cons, beq_eq_false_iff_ne.mpr hk, if_neg hk]
    rfl

/-- The entries after a write at the cap. -/
def cappedEntries (protectedIds : List String) (key : String) (encoded : Json)
    (entries : List (String × Json)) : List (String × Json) :=
  Json.mergeMembers entries (cappedPatch protectedIds key encoded entries).members

theorem mapEntries_capped {field : StatusField} {status : Json} :
    mapEntries field (status.mergePatch (.obj [(field.key,
        cappedPatch protectedIds key encoded (mapEntries field status))])) =
      cappedEntries protectedIds key encoded (mapEntries field status) :=
  mapEntries_merge field status
    (cappedPatch protectedIds key encoded (mapEntries field status)).members

theorem lookup_capped_self (h : Members.Sorted entries) (hnull : encoded.isNull = false) :
    (cappedEntries protectedIds key encoded entries).lookup key =
      some (Json.mergePatch ((entries.lookup key).getD .null) encoded) := by
  have hpatch : (cappedPatch protectedIds key encoded entries).members.lookup key =
      some encoded := Members.lookup_insert_self _ _ _
  unfold cappedEntries
  rw [Json.lookup_mergeMembers _ _ _ (sorted_cappedPatch protectedIds key encoded h), hpatch]
  exact Json.mergedMember_some hnull _

/-- Another entry is merged into itself, unless it is a victim. -/
theorem lookup_capped_other (h : Members.Sorted entries) {k : String} (hk : k ≠ key) :
    (cappedEntries protectedIds key encoded entries).lookup k =
      if k ∈ cappedKeys protectedIds entries then none
      else (entries.lookup k).bind fun v => Json.mergedMember (some v) v := by
  have hpatch : (cappedPatch protectedIds key encoded entries).members.lookup k =
      (entries.lookup k).map fun v =>
        if k ∈ cappedKeys protectedIds entries then Json.null else v := by
    refine (Members.lookup_insert_of_ne _ hk _).trans ?_
    exact Dict.lookup_map_values
      (fun a v => if a ∈ cappedKeys protectedIds entries then Json.null else v) k entries
  unfold cappedEntries
  rw [Json.lookup_mergeMembers _ _ _ (sorted_cappedPatch protectedIds key encoded h), hpatch]
  cases hlookup : entries.lookup k with
  | none => simp
  | some v =>
      simp only [Option.map_some, Option.bind_some]
      split_ifs with hvictim
      · rfl
      · rfl

theorem mem_keys_iff {k : String} :
    k ∈ entries.map Prod.fst <-> (entries.lookup k).isSome := by
  rw [Option.isSome_iff_exists]
  constructor
  · intro hk
    by_contra hnone
    have hlookup : entries.lookup k = none := by
      cases h : entries.lookup k with
      | none => rfl
      | some v => exact absurd ⟨v, h⟩ hnone
    rw [List.lookup_eq_none_iff] at hlookup
    rcases List.mem_map.mp hk with ⟨entry, hentry, heq⟩
    exact absurd heq.symm (by simpa using hlookup entry hentry)
  · rintro ⟨v, hv⟩
    exact List.mem_map.mpr ⟨_, Members.mem_of_lookup hv, rfl⟩

theorem removedKeys_eq_filter (key : String) (before after : List (String × Json)) :
    removedKeys key before after =
      (otherKeys key before).filter fun k => (after.lookup k).isNone := by
  unfold removedKeys otherKeys
  rw [List.filter_filter]
  apply List.filter_congr
  intro k _
  exact Bool.and_comm _ _

theorem mem_otherKeys {k : String} :
    k ∈ otherKeys key entries <-> k ∈ entries.map Prod.fst ∧ k ≠ key := by
  unfold otherKeys
  rw [List.mem_filter, decide_eq_true_eq]

theorem length_otherKeys (h : Members.Sorted entries) (key : String) :
    (otherKeys key entries).length + (if key ∈ entries.map Prod.fst then 1 else 0) =
      entries.length := by
  have hcount := countP_of_nodup key (fun _ => true) h.nodup
  simp only [Bool.and_true, and_true, List.countP_true, List.length_map] at hcount
  rw [hcount, List.countP_eq_length_filter]
  rfl

/-- The victims beside the written key. -/
def victims (protectedIds : List String) (key : String) (entries : List (String × Json)) :
    List String :=
  (otherKeys key entries).filter fun k => decide (k ∈ cappedKeys protectedIds entries)

theorem length_victims (h : Members.Sorted entries)
    (hcap : statusMapMaxEntries <= entries.length) :
    (victims protectedIds key entries).length +
        (if key ∈ cappedKeys protectedIds entries then 1 else 0) =
      entries.length - statusMapMaxEntries + 1 := by
  have hcount := countP_of_nodup key
    (fun k => decide (k ∈ cappedKeys protectedIds entries)) h.nodup
  rw [countP_cappedKeys h hcap] at hcount
  have hkey : (key ∈ entries.map Prod.fst ∧
      decide (key ∈ cappedKeys protectedIds entries) = true) <->
        key ∈ cappedKeys protectedIds entries := by
    rw [decide_eq_true_eq]
    exact ⟨fun hk => hk.2, fun hk => ⟨mem_cappedKeys hk, hk⟩⟩
  rw [hcount, if_congr hkey rfl rfl, List.countP_eq_length_filter, victims, otherKeys,
    List.filter_filter]
  simp only [Bool.and_comm]

/-- A patch of the written key removes no other. -/
theorem removedKeys_single (entries : List (String × Json)) :
    removedKeys key entries (Json.mergeMembers entries [(key, encoded)]) = [] := by
  rw [removedKeys_eq_filter, List.filter_eq_nil_iff]
  intro k hk
  rcases mem_otherKeys.mp hk with ⟨hmem, hne⟩
  rw [Json.lookup_mergeMembers _ _ _ (List.pairwise_singleton _ _), List.lookup_cons,
    beq_eq_false_iff_ne.mpr hne, Option.isNone_iff_eq_none]
  intro hnone
  have hnone' : entries.lookup k = none := hnone
  rw [mem_keys_iff, hnone'] at hmem
  cases hmem

/-- Below the cap only the written key changes. -/
theorem capKept_single (h : Members.Sorted entries) (hnull : encoded.isNull = false)
    (hsmall : entries.length < statusMapMaxEntries) :
    CapKept protectedIds key encoded entries
      (Json.mergeMembers entries [(key, encoded)]) := by
  have hremoved := @removedKeys_single key encoded entries
  have hlength := length_otherKeys h key
  constructor
  · rw [lookup_single hnull, if_pos rfl]
  · have hmerge : Json.mergeMembers entries [(key, encoded)] =
        Members.insert key (Json.mergePatch ((entries.lookup key).getD .null) encoded)
          entries := by
      rw [Json.mergeMembers, Json.mergeMembers, Json.mergeMember, hnull]
      rfl
    rw [hmerge]
    exact le_trans (Members.length_insert_le _ _ _) hsmall
  · rw [hremoved, List.length_nil]
    symm
    rw [Nat.sub_eq_zero_iff_le]
    have hother : (otherKeys key entries).length <= entries.length := by
      rw [← hlength]
      exact Nat.le_add_right _ _
    exact le_trans (Nat.succ_le_succ hother) hsmall
  · intro _ _
    exact hremoved
  · intro k hk
    rw [hremoved] at hk
    cases hk
  · intro k hk
    rw [lookup_single hnull, if_neg hk]
    exact Or.inr rfl

/-- A victim other than the written key is removed. -/
theorem victims_subset_removedKeys (h : Members.Sorted entries) {k : String}
    (hk : k ∈ victims protectedIds key entries) :
    k ∈ removedKeys key entries (cappedEntries protectedIds key encoded entries) := by
  unfold victims at hk
  rcases List.mem_filter.mp hk with ⟨hother, hvictim⟩
  rw [removedKeys_eq_filter, List.mem_filter]
  refine ⟨hother, ?_⟩
  rw [lookup_capped_other h (mem_otherKeys.mp hother).2, if_pos (of_decide_eq_true hvictim)]
  rfl

theorem nodup_victims (h : Members.Sorted entries) :
    (victims protectedIds key entries).Nodup :=
  (h.nodup.filter _).filter _

theorem mem_victims_iff (h : Members.Sorted entries)
    (hcap : statusMapMaxEntries <= entries.length) {k : String} :
    k ∈ victims protectedIds key entries <->
      k ∈ otherKeys key entries ∧ Evictable protectedIds entries k := by
  unfold victims
  rw [List.mem_filter, decide_eq_true_eq]
  apply and_congr_right
  intro hk
  exact mem_cappedKeys_iff h hcap (mem_otherKeys.mp hk).1

/-- The victims are as few as needed, or one more if the written key is present
and spared. -/
theorem length_victims_eq (h : Members.Sorted entries)
    (hcap : statusMapMaxEntries <= entries.length) :
    (victims protectedIds key entries).length =
      (otherKeys key entries).length + 1 - statusMapMaxEntries +
        (if key ∈ entries.map Prod.fst ∧ key ∉ cappedKeys protectedIds entries then 1
          else 0) := by
  have hvictims := @length_victims protectedIds key entries h hcap
  have hothers := length_otherKeys h key
  by_cases hkey : key ∈ entries.map Prod.fst
  · rw [if_pos hkey] at hothers
    by_cases hvictim : key ∈ cappedKeys protectedIds entries
    · rw [if_pos hvictim] at hvictims
      rw [if_neg fun hspared => hspared.2 hvictim, Nat.add_zero, hothers]
      exact Nat.succ.inj hvictims
    · rw [if_neg hvictim, Nat.add_zero] at hvictims
      rw [if_pos ⟨hkey, hvictim⟩, hothers]
      exact hvictims
  · rw [if_neg hkey, Nat.add_zero] at hothers
    have hnew : key ∉ cappedKeys protectedIds entries := fun hk => hkey (mem_cappedKeys hk)
    rw [if_neg hnew, Nat.add_zero] at hvictims
    rw [if_neg fun hspared => hkey hspared.1, Nat.add_zero, hvictims, hothers,
      Nat.sub_add_comm hcap]

theorem least_le_length_victims (h : Members.Sorted entries)
    (hcap : statusMapMaxEntries <= entries.length) :
    (otherKeys key entries).length + 1 - statusMapMaxEntries <=
      (victims protectedIds key entries).length := by
  rw [length_victims_eq h hcap]
  exact Nat.le_add_right _ _

/-- The victims are as few as needed exactly when the written key is new or one
of them. -/
theorem length_victims_least_iff (h : Members.Sorted entries)
    (hcap : statusMapMaxEntries <= entries.length) :
    (victims protectedIds key entries).length <=
        (otherKeys key entries).length + 1 - statusMapMaxEntries <->
      key ∉ entries.map Prod.fst ∨ Evictable protectedIds entries key := by
  rw [length_victims_eq h hcap]
  by_cases hspared : key ∈ entries.map Prod.fst ∧ key ∉ cappedKeys protectedIds entries
  · rw [if_pos hspared]
    refine iff_of_false (Nat.not_succ_le_self _) ?_
    rintro (hnew | hevictable)
    · exact hnew hspared.1
    · exact hspared.2 ((mem_cappedKeys_iff h hcap hspared.1).mpr hevictable)
  · rw [if_neg hspared]
    refine iff_of_true (le_of_eq (Nat.add_zero _)) ?_
    by_cases hkey : key ∈ entries.map Prod.fst
    · have hvictim : key ∈ cappedKeys protectedIds entries := by
        by_contra hnot
        exact hspared ⟨hkey, hnot⟩
      exact Or.inr ((mem_cappedKeys_iff h hcap hkey).mp hvictim)
    · exact Or.inl hkey

/-- What becomes of another entry that is no victim. -/
theorem lookup_capped_survivor (h : Members.Sorted entries)
    (hcap : statusMapMaxEntries <= entries.length) {k : String} {v : Json}
    (hentry : (k, v) ∈ entries) (hne : k ≠ key) (hspared : ¬ Evictable protectedIds entries k) :
    (cappedEntries protectedIds key encoded entries).lookup k =
      Json.mergedMember (some v) v := by
  have hmem : k ∈ entries.map Prod.fst := List.mem_map.mpr ⟨_, hentry, rfl⟩
  have hkept : k ∉ cappedKeys protectedIds entries :=
    fun hk => hspared ((mem_cappedKeys_iff h hcap hmem).mp hk)
  rw [lookup_capped_other h hne, if_neg hkept, Members.lookup_of_mem h hentry,
    Option.bind_some]

/-- Once the victims are counted, no other entry may go, and none may change. -/
theorem capKept_capped_only (h : Members.Sorted entries)
    (hcap : statusMapMaxEntries <= entries.length)
    (hkept : CapKept protectedIds key encoded entries
      (cappedEntries protectedIds key encoded entries)) :
    EvictsEnough protectedIds key entries := by
  have hsubset : victims protectedIds key entries ⊆
      removedKeys key entries (cappedEntries protectedIds key encoded entries) :=
    fun k hk => victims_subset_removedKeys h hk
  have hfew : (victims protectedIds key entries).length <=
      (otherKeys key entries).length + 1 - statusMapMaxEntries := by
    rw [← hkept.least]
    exact (nodup_victims h).length_le_of_subset hsubset
  have hwritten := (length_victims_least_iff h hcap).mp hfew
  refine Or.inr ⟨hwritten, ?_⟩
  intro k v hentry hne hevictable
  have hother : k ∈ otherKeys key entries :=
    mem_otherKeys.mpr ⟨List.mem_map.mpr ⟨_, hentry, rfl⟩, hne⟩
  have hvictim : k ∉ victims protectedIds key entries :=
    fun hk => hevictable ((mem_victims_iff h hcap).mp hk).2
  have hlookup := Members.lookup_of_mem h hentry
  have hafter := @lookup_capped_survivor protectedIds key encoded entries h hcap k v hentry
    hne hevictable
  -- one more removal would be one too many
  have hpresent : k ∉ removedKeys key entries
      (cappedEntries protectedIds key encoded entries) := by
    intro hremoved
    have hmore : (k :: victims protectedIds key entries).length <=
        (removedKeys key entries (cappedEntries protectedIds key encoded entries)).length := by
      apply List.Nodup.length_le_of_subset
      · exact List.nodup_cons.mpr ⟨hvictim, nodup_victims h⟩
      · exact List.cons_subset.mpr ⟨hremoved, hsubset⟩
    rw [hkept.least, List.length_cons] at hmore
    exact absurd (le_trans hmore (least_le_length_victims h hcap)) (Nat.not_succ_le_self _)
  cases hnull : v.isNull with
  | true =>
      have hnone : (cappedEntries protectedIds key encoded entries).lookup k = none := by
        rw [hafter, Json.mergedMember, hnull]
        rfl
      rw [removedKeys_eq_filter, List.mem_filter, hnone] at hpresent
      exact absurd ⟨hother, rfl⟩ hpresent
  | false =>
      rw [Json.mergedMember_some hnull, Option.getD_some] at hafter
      refine ⟨rfl, ?_⟩
      rcases hkept.survivors k hne with hnone | hsame
      · rw [hafter] at hnone
        cases hnone
      · rw [hafter, hlookup] at hsame
        exact Option.some.inj hsame

/-- With no null among the survivors, the victims are what is removed. -/
theorem removedKeys_capped (h : Members.Sorted entries)
    (hcap : statusMapMaxEntries <= entries.length)
    (hsurvivors : forall k v, (k, v) ∈ entries -> k ≠ key ->
      ¬ Evictable protectedIds entries k -> v.isNull = false) :
    removedKeys key entries (cappedEntries protectedIds key encoded entries) =
      victims protectedIds key entries := by
  rw [removedKeys_eq_filter, victims]
  apply List.filter_congr
  intro k hk
  rcases mem_otherKeys.mp hk with ⟨hmem, hne⟩
  by_cases hvictim : k ∈ cappedKeys protectedIds entries
  · rw [lookup_capped_other h hne, if_pos hvictim, decide_eq_true hvictim]
    rfl
  · rcases Option.isSome_iff_exists.mp (mem_keys_iff.mp hmem) with ⟨v, hv⟩
    have hentry := Members.mem_of_lookup hv
    have hspared : ¬ Evictable protectedIds entries k :=
      fun hevictable => hvictim ((mem_cappedKeys_iff h hcap hmem).mpr hevictable)
    rw [lookup_capped_survivor h hcap hentry hne hspared, decide_eq_false hvictim,
      Json.mergedMember_some (hsurvivors k v hentry hne hspared)]
    rfl

theorem length_capped_le (h : Members.Sorted entries)
    (hcap : statusMapMaxEntries <= entries.length)
    (hleast : (victims protectedIds key entries).length =
      (otherKeys key entries).length + 1 - statusMapMaxEntries) :
    (cappedEntries protectedIds key encoded entries).length <= statusMapMaxEntries := by
  have hsorted : Members.Sorted (cappedEntries protectedIds key encoded entries) :=
    Json.sorted_mergeMembers _ h
  have hsubset : (cappedEntries protectedIds key encoded entries).map Prod.fst ⊆
      key :: (otherKeys key entries).filter
        fun k => !decide (k ∈ cappedKeys protectedIds entries) := by
    intro k hk
    rw [mem_keys_iff] at hk
    by_cases hne : k = key
    · rw [hne]
      exact List.mem_cons_self
    · rw [lookup_capped_other h hne] at hk
      split_ifs at hk with hvictim
      · cases hk
      · cases hlookup : entries.lookup k with
        | none =>
            rw [hlookup] at hk
            cases hk
        | some v =>
            apply List.mem_cons_of_mem
            rw [List.mem_filter]
            refine ⟨mem_otherKeys.mpr ⟨?_, hne⟩, by simpa using hvictim⟩
            rw [mem_keys_iff, hlookup]
            rfl
  have hlength := hsorted.nodup.length_le_of_subset hsubset
  have hsplit := List.length_eq_length_filter_add
    (l := otherKeys key entries) fun k => decide (k ∈ cappedKeys protectedIds entries)
  have hothers := length_otherKeys h key
  have hmany : statusMapMaxEntries <= (otherKeys key entries).length + 1 := by
    refine le_trans hcap ?_
    rw [← hothers]
    split <;> exact Nat.add_le_add_left (by decide) _
  have hvictims : victims protectedIds key entries = (otherKeys key entries).filter
    fun k => decide (k ∈ cappedKeys protectedIds entries) := rfl
  rw [List.length_map, List.length_cons] at hlength
  rw [← hvictims, hleast] at hsplit
  lia

theorem capKept_capped (h : Members.Sorted entries) (hnull : encoded.isNull = false)
    (hcap : statusMapMaxEntries <= entries.length)
    (hwritten : key ∉ entries.map Prod.fst ∨ Evictable protectedIds entries key)
    (hsurvivors : forall k v, (k, v) ∈ entries -> k ≠ key ->
      ¬ Evictable protectedIds entries k -> v.isNull = false ∧ Json.mergePatch v v = v) :
    CapKept protectedIds key encoded entries
      (cappedEntries protectedIds key encoded entries) := by
  have hremoved := @removedKeys_capped protectedIds key encoded entries h hcap
    fun k v hentry hne hk => (hsurvivors k v hentry hne hk).1
  have hleast : (victims protectedIds key entries).length =
      (otherKeys key entries).length + 1 - statusMapMaxEntries :=
    le_antisymm ((length_victims_least_iff h hcap).mpr hwritten)
      (least_le_length_victims h hcap)
  constructor
  · exact lookup_capped_self h hnull
  · exact length_capped_le h hcap hleast
  · rw [hremoved, hleast]
  · intro hkey hsmall
    have hothers := length_otherKeys h key
    rw [if_pos hkey] at hothers
    rw [hremoved, ← List.length_eq_zero_iff, hleast, hothers, Nat.sub_eq_zero_iff_le]
    exact hsmall
  · intro k hk hprotected k' hk' hunprotected
    rw [hremoved, mem_victims_iff h hcap] at hk ⊢
    exact ⟨hk', hk.2.of_before (Or.inl ⟨hunprotected, hprotected⟩)⟩
  · intro k hne
    cases hlookup : entries.lookup k with
    | none =>
        rw [lookup_capped_other h hne, hlookup]
        exact Or.inl (ite_self none)
    | some v =>
        have hentry := Members.mem_of_lookup hlookup
        by_cases hevictable : Evictable protectedIds entries k
        · have hmem : k ∈ entries.map Prod.fst := List.mem_map.mpr ⟨_, hentry, rfl⟩
          rw [lookup_capped_other h hne,
            if_pos ((mem_cappedKeys_iff h hcap hmem).mpr hevictable)]
          exact Or.inl rfl
        · rcases hsurvivors k v hentry hne hevictable with ⟨hvalue, hself⟩
          rw [lookup_capped_survivor h hcap hentry hne hevictable,
            Json.mergedMember_some hvalue, Option.getD_some, hself]
          exact Or.inr rfl

theorem capKept_capped_iff (h : Members.Sorted entries) (hnull : encoded.isNull = false)
    (hcap : statusMapMaxEntries <= entries.length) :
    CapKept protectedIds key encoded entries
        (cappedEntries protectedIds key encoded entries) <->
      EvictsEnough protectedIds key entries := by
  constructor
  · exact capKept_capped_only h hcap
  · rintro (hsmall | ⟨hwritten, hsurvivors⟩)
    · exact absurd hcap (Nat.not_le_of_lt hsmall)
    · exact capKept_capped h hnull hcap hwritten hsurvivors

end Writes

theorem sorted_mapEntries {status : Json} (hcanonical : status.Canonical)
    (field : StatusField) : Members.Sorted (mapEntries field status) := by
  unfold mapEntries getMember
  cases hlookup : status.members.lookup field.key with
  | none => exact List.Pairwise.nil
  | some v => exact (hcanonical.members.2.lookup hlookup).members.1

/-- A write keeps the bound, and removes no more than it must, exactly when its
map is below the cap, or its key is new or the next victim, with no null among
the survivors. -/
theorem set_map_entry_cap_iff (status : Json) (hcanonical : status.Canonical)
    (protectedIds : List String) (field : StatusField) (key : String) (encoded : Json)
    (hnull : encoded.isNull = false) (patch : Json)
    (hwrites : (readStatus status).map (entryPatch protectedIds field key encoded) =
      .ok (some patch)) :
    CapKept protectedIds key encoded (mapEntries field status)
        (mapEntries field (status.mergePatch patch)) <->
      EvictsEnough protectedIds key (mapEntries field status) := by
  have hsorted := sorted_mapEntries hcanonical field
  cases hread : readStatus status with
  | error e =>
      rw [hread] at hwrites
      cases hwrites
  | ok ms =>
      rw [hread, readStatus_members hread] at hwrites
      have hpatch := Except.ok.inj hwrites
      rcases entryPatch_cases protectedIds field key encoded status.members with
        ⟨_, hskip⟩ | ⟨_, hsmall, hsent⟩ | ⟨_, _, hcap, hsent⟩
      · rw [hskip] at hpatch
        cases hpatch
      · rw [hsent] at hpatch
        rw [← Option.some.inj hpatch, mapEntries_merge]
        have hbelow : (mapEntries field status).length < statusMapMaxEntries := by
          rcases hsmall with hnull' | hbelow
          · rw [hnull] at hnull'
            cases hnull'
          · exact hbelow
        exact iff_of_true (capKept_single hsorted hnull hbelow) (Or.inl hbelow)
      · rw [hsent] at hpatch
        rw [← Option.some.inj hpatch]
        have hafter : mapEntries field (status.mergePatch (.obj [(field.key,
            cappedPatch protectedIds key encoded
              (getMember status.members field.key).members)])) =
            cappedEntries protectedIds key encoded (mapEntries field status) :=
          mapEntries_capped
        rw [hafter]
        exact capKept_capped_iff hsorted hnull hcap

/-!
## A full map
-/

def digits : List Char := ['0', '1', '2', '3', '4', '5', '6', '7', '8', '9']

/-- The decimal words of a length, in their order. -/
def digitWords : Nat -> List (List Char)
  | 0 => [[]]
  | n + 1 => digits.flatMap fun d => (digitWords n).map (d :: ·)

theorem length_digitWords (n : Nat) : (digitWords n).length = 10 ^ n := by
  induction n with
  | zero => rfl
  | succ n ih =>
      rw [digitWords, List.length_flatMap]
      simp only [List.length_map, ih]
      rw [List.map_const', List.sum_replicate_nat, Nat.pow_succ, Nat.mul_comm]
      rfl

theorem pairwise_digitWords (n : Nat) : (digitWords n).Pairwise (· < ·) := by
  induction n with
  | zero => exact List.pairwise_singleton _ _
  | succ n ih =>
      rw [digitWords, List.pairwise_flatMap]
      constructor
      · intro d _
        rw [List.pairwise_map]
        exact ih.imp fun h => List.cons_lt_cons_self.mpr h
      · have hdigits : digits.Pairwise (· < ·) := by decide
        refine hdigits.imp ?_
        intro d d' hlt w hw w' hw'
        rcases List.mem_map.mp hw with ⟨u, _, hu⟩
        rcases List.mem_map.mp hw' with ⟨u', _, hu'⟩
        rw [← hu, ← hu']
        exact List.cons_lt_cons_iff.mpr (Or.inl hlt)

theorem length_of_mem_digitWords :
    forall {n : Nat} {w : List Char}, w ∈ digitWords n -> w.length = n := by
  intro n
  induction n with
  | zero =>
      intro w h
      rw [List.mem_singleton.mp h]
      rfl
  | succ n ih =>
      intro w h
      rcases List.mem_flatMap.mp h with ⟨d, _, hmem⟩
      rcases List.mem_map.mp hmem with ⟨u, hu, heq⟩
      rw [← heq, List.length_cons, ih hu]

def anchorEntry (outcome : String) : Json :=
  SoftStopRecord.toDict ⟨days 738000, outcome, none, none⟩

/-- A map at the cap. -/
def fullEntries : List (String × Json) :=
  (digitWords 4).map fun w => (String.ofList w, anchorEntry "watching")

def fullStatus : Json :=
  .obj [(StatusField.softStops.key, .obj fullEntries)]

theorem length_fullEntries : fullEntries.length = statusMapMaxEntries := by
  rw [fullEntries, List.length_map, length_digitWords]
  rfl

theorem canonical_fullStatus : fullStatus.Canonical := by
  have hsorted : Members.Sorted fullEntries := by
    unfold Members.Sorted fullEntries
    rw [List.pairwise_map]
    refine (pairwise_digitWords 4).imp ?_
    intro u u' hlt
    rw [String.lt_iff_toList_lt, String.toList_ofList, String.toList_ofList]
    exact hlt
  have hentries : Json.CanonicalMembers fullEntries := by
    rw [Json.canonicalMembers_iff]
    intro m hm
    rcases List.mem_map.mp hm with ⟨w, _, hw⟩
    rw [← hw]
    have hkeys : "issuedAt" < "outcome" := by decide
    exact ⟨List.pairwise_pair.mpr hkeys, trivial, trivial, trivial⟩
  exact ⟨List.pairwise_singleton _ _, ⟨hsorted, hentries⟩, trivial⟩

theorem not_mem_fullEntries : "a" ∉ fullEntries.map Prod.fst := by
  intro hmem
  rcases List.mem_map.mp hmem with ⟨entry, hentry, hkey⟩
  rcases List.mem_map.mp hentry with ⟨w, hw, heq⟩
  have hlength := length_of_mem_digitWords hw
  have hword : w = "a".toList := by
    rw [← hkey, ← heq, String.toList_ofList]
  rw [hword] at hlength
  exact absurd hlength (by decide)

theorem getMember_fullEntries : getMember fullEntries "a" = .null := by
  have hnew := not_mem_fullEntries
  rw [mem_keys_iff, Option.not_isSome_iff_eq_none] at hnew
  rw [getMember, hnew]
  rfl

theorem mapEntries_fullStatus : mapEntries .softStops fullStatus = fullEntries := rfl

/-- At the cap a changed value is written with an eviction. -/
theorem fullStatus_writes {key : String} {encoded : Json} (hnull : encoded.isNull = false)
    (hchanged : (getMember fullEntries key).pyEq encoded = false) :
    (readStatus fullStatus).map (entryPatch [] .softStops key encoded) =
      .ok (some (.obj [(StatusField.softStops.key,
        cappedPatch [] key encoded fullEntries)])) := by
  have hentries : (getMember fullStatus.members StatusField.softStops.key).members =
      fullEntries := rfl
  rcases entryPatch_cases [] .softStops key encoded fullStatus.members with
    ⟨hsame, _⟩ | ⟨_, hsmall, _⟩ | ⟨_, _, _, hsent⟩
  · rw [hentries, hchanged] at hsame
    cases hsame
  · rw [hentries, length_fullEntries, hnull] at hsmall
    rcases hsmall with hnull' | hlt
    · cases hnull'
    · exact absurd hlt (Nat.lt_irrefl _)
  · rw [hentries] at hsent
    rw [fullStatus, readStatus_obj]
    exact congrArg Except.ok hsent

/-- A new key at the cap takes the place of the first one. -/
theorem set_map_entry_cap_new :
    CapKept [] "a" (anchorEntry "watching") fullEntries
      (mapEntries .softStops (fullStatus.mergePatch (.obj [(StatusField.softStops.key,
        cappedPatch [] "a" (anchorEntry "watching") fullEntries)]))) := by
  apply (set_map_entry_cap_iff fullStatus canonical_fullStatus [] .softStops "a"
    (anchorEntry "watching") rfl _ (fullStatus_writes rfl ?_)).mpr
  · refine Or.inr ⟨Or.inl not_mem_fullEntries, ?_⟩
    intro k v hentry _ _
    rcases List.mem_map.mp hentry with ⟨w, _, hw⟩
    cases hw
    exact ⟨rfl, by decide +kernel⟩
  · rw [getMember_fullEntries]
    decide +kernel

/-- At the cap, a changed entry evicts another one. -/
theorem set_map_entry_cap_counterexample :
    (readStatus fullStatus).map
        (entryPatch [] .softStops "0001" (anchorEntry "issued")) =
      .ok (some (.obj [(StatusField.softStops.key,
        cappedPatch [] "0001" (anchorEntry "issued") fullEntries)])) ∧
    ¬ CapKept [] "0001" (anchorEntry "issued") (mapEntries .softStops fullStatus)
      (mapEntries .softStops (fullStatus.mergePatch (.obj [(StatusField.softStops.key,
        cappedPatch [] "0001" (anchorEntry "issued") fullEntries)]))) := by
  have hpresent : fullEntries.lookup "0001" = some (anchorEntry "watching") := by
    decide +kernel
  have hfirst : cappedKeys [] fullEntries = ["0000"] := by
    rw [cappedKeys_eq_take, length_fullEntries, Nat.sub_self]
    decide +kernel
  constructor
  · apply fullStatus_writes rfl
    rw [getMember, hpresent]
    decide +kernel
  · intro hkept
    have hsorted := sorted_mapEntries canonical_fullStatus .softStops
    have hnone := hkept.existing (mem_keys_iff.mpr (by rw [mapEntries_fullStatus, hpresent]; rfl))
      (le_of_eq length_fullEntries)
    have hvictim : "0000" ∈ victims [] "0001" fullEntries := by
      unfold victims
      rw [List.mem_filter, hfirst]
      refine ⟨mem_otherKeys.mpr ⟨?_, by decide⟩, by decide⟩
      exact @mem_cappedKeys [] fullEntries _ (by rw [hfirst]; exact List.mem_singleton_self _)
    have hremoved := @victims_subset_removedKeys _ _ (anchorEntry "issued") _ hsorted _
      hvictim
    have hafter : mapEntries .softStops (fullStatus.mergePatch (.obj
        [(StatusField.softStops.key,
          cappedPatch [] "0001" (anchorEntry "issued") fullEntries)])) =
        cappedEntries [] "0001" (anchorEntry "issued") fullEntries := mapEntries_capped
    rw [hafter] at hnone
    have hremoved' : "0000" ∈ removedKeys "0001" (mapEntries .softStops fullStatus)
        (cappedEntries [] "0001" (anchorEntry "issued") fullEntries) := hremoved
    rw [hnone] at hremoved'
    cases hremoved'

end StatusDocument
end OpenStudioOperator
