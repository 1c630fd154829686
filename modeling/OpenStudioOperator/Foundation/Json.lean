import Mathlib.Data.List.Basic
import Mathlib.Data.Rat.Defs
import Mathlib.Data.String.Basic

/-!
# JSON documents

A document is a tree of values.  An object lists its members by increasing
key, so two documents with the same content are equal.  A merge patch follows
RFC 7386: objects merge member by member, a null removes a member, and any
other value replaces what it meets.
-/

namespace Foundation

/-!
## Members

Lists of key-value pairs in the order of their keys.
-/

namespace Members

variable {alpha : Type}

def insert (k : String) (v : alpha) : List (String × alpha) -> List (String × alpha)
  | [] => [(k, v)]
  | (k', v') :: rest =>
      if k < k' then (k, v) :: (k', v') :: rest
      else if k = k' then (k, v) :: rest
      else (k', v') :: insert k v rest

def erase (k : String) (members : List (String × alpha)) : List (String × alpha) :=
  members.filter fun member => member.1 ≠ k

/-- The keys increase strictly. -/
def Sorted (members : List (String × alpha)) : Prop :=
  members.Pairwise fun a b => a.1 < b.1

theorem lookup_insert_self (k : String) (v : alpha) :
    forall members : List (String × alpha), (insert k v members).lookup k = some v
  | [] => by simp [insert]
  | (k', v') :: rest => by
      rw [insert]
      split
      · simp
      · split
        · simp
        · rename_i hne
          rw [List.lookup_cons, beq_eq_false_iff_ne.mpr hne]
          exact lookup_insert_self k v rest

theorem lookup_insert_of_ne {k k' : String} (v : alpha) (hne : k' ≠ k) :
    forall members : List (String × alpha),
      (insert k v members).lookup k' = members.lookup k'
  | [] => by simp [insert, List.lookup_cons, beq_eq_false_iff_ne.mpr hne]
  | (k₀, v₀) :: rest => by
      rw [insert]
      split
      · rw [List.lookup_cons, beq_eq_false_iff_ne.mpr hne]
      · split
        · rename_i heq
          subst heq
          rw [List.lookup_cons, List.lookup_cons, beq_eq_false_iff_ne.mpr hne]
        · rw [List.lookup_cons, List.lookup_cons, lookup_insert_of_ne v hne rest]

theorem lookup_erase_self (k : String) :
    forall members : List (String × alpha), (erase k members).lookup k = none
  | [] => rfl
  | (k', v') :: rest => by
      have ih := lookup_erase_self k rest
      unfold erase at ih ⊢
      by_cases hk : k' = k
      · rw [List.filter_cons_of_neg (by simpa using hk)]
        exact ih
      · rw [List.filter_cons_of_pos (by simpa using hk), List.lookup_cons,
          beq_eq_false_iff_ne.mpr (Ne.symm hk)]
        exact ih

theorem lookup_erase_of_ne {k k' : String} (hne : k' ≠ k) :
    forall members : List (String × alpha), (erase k members).lookup k' = members.lookup k'
  | [] => rfl
  | (k₀, v₀) :: rest => by
      have ih := lookup_erase_of_ne hne rest
      unfold erase at ih ⊢
      by_cases hk : k₀ = k
      · subst hk
        rw [List.filter_cons_of_neg (by simp), List.lookup_cons,
          beq_eq_false_iff_ne.mpr hne]
        exact ih
      · rw [List.filter_cons_of_pos (by simpa using hk), List.lookup_cons, List.lookup_cons,
          ih]

theorem mem_of_lookup {k : String} {v : alpha} {members : List (String × alpha)}
    (h : members.lookup k = some v) : (k, v) ∈ members := by
  induction members with
  | nil => cases h
  | cons member rest ih =>
      rw [List.lookup_cons] at h
      split at h
      · rename_i hk
        rw [eq_of_beq hk, ← Option.some.inj h]
        exact List.mem_cons_self
      · exact List.mem_cons_of_mem member (ih h)

theorem lookup_of_mem {k : String} {v : alpha} :
    forall {members : List (String × alpha)}, Sorted members -> (k, v) ∈ members ->
      members.lookup k = some v
  | [], _, h => by cases h
  | member :: rest, hsorted, h => by
      rcases List.pairwise_cons.mp hsorted with ⟨hhead, hrest⟩
      rcases List.mem_cons.mp h with heq | htail
      · rw [← heq, List.lookup_cons_self]
      · have hne : k ≠ member.1 := ne_of_gt (hhead _ htail)
        rw [List.lookup_cons, beq_eq_false_iff_ne.mpr hne]
        exact lookup_of_mem hrest htail

theorem lookup_eq_none_of_ne {k : String} {members : List (String × alpha)}
    (h : forall member, member ∈ members -> member.1 ≠ k) : members.lookup k = none := by
  cases hlookup : members.lookup k with
  | none => rfl
  | some v => exact absurd rfl (h _ (mem_of_lookup hlookup))

theorem lookup_eq_none_of_lt {k : String} {members : List (String × alpha)}
    (h : forall member, member ∈ members -> k < member.1) : members.lookup k = none :=
  lookup_eq_none_of_ne fun member hmember => ne_of_gt (h member hmember)

theorem sorted_erase {k : String} {members : List (String × alpha)} (h : Sorted members) :
    Sorted (erase k members) :=
  h.sublist List.filter_sublist

theorem mem_insert {k : String} {v : alpha} {member : String × alpha} :
    forall {members : List (String × alpha)}, member ∈ insert k v members ->
      member = (k, v) ∨ member ∈ members
  | [], h => Or.inl (List.mem_singleton.mp h)
  | (k', v') :: rest, h => by
      rw [insert] at h
      split at h
      · exact List.mem_cons.mp h
      · split at h
        · rcases List.mem_cons.mp h with hnew | hold
          · exact Or.inl hnew
          · exact Or.inr (List.mem_cons_of_mem _ hold)
        · rcases List.mem_cons.mp h with hhead | htail
          · rw [hhead]
            exact Or.inr List.mem_cons_self
          · rcases mem_insert htail with hnew | hold
            · exact Or.inl hnew
            · exact Or.inr (List.mem_cons_of_mem _ hold)

/-- The keys after an insertion. -/
theorem mem_keys_insert {k a : String} {v : alpha} :
    forall {members : List (String × alpha)},
      a ∈ (insert k v members).map Prod.fst <-> a = k ∨ a ∈ members.map Prod.fst
  | [] => by simp [insert]
  | (k', v') :: rest => by
      have ih := @mem_keys_insert k a v rest
      rw [insert]
      split
      · simp only [List.map_cons, List.mem_cons]
      · split
        · rename_i heq
          subst heq
          simp only [List.map_cons, List.mem_cons, or_self_left]
        · simp only [List.map_cons, List.mem_cons, ih]
          exact or_left_comm

theorem sorted_insert {k : String} {v : alpha} :
    forall {members : List (String × alpha)}, Sorted members -> Sorted (insert k v members)
  | [], _ => List.pairwise_singleton _ _
  | (k', v') :: rest, h => by
      rcases List.pairwise_cons.mp h with ⟨hhead, hrest⟩
      rw [insert]
      split
      · rename_i hlt
        refine List.pairwise_cons.mpr ⟨?_, h⟩
        intro member hmember
        rcases List.mem_cons.mp hmember with heq | htail
        · rw [heq]
          exact hlt
        · exact lt_trans hlt (hhead member htail)
      · split
        · rename_i _ heq
          subst heq
          exact List.pairwise_cons.mpr ⟨hhead, hrest⟩
        · rename_i hge hne
          refine List.pairwise_cons.mpr ⟨?_, sorted_insert hrest⟩
          intro member hmember
          rcases mem_insert hmember with heq | hold
          · rw [heq]
            exact lt_of_le_of_ne (not_lt.mp hge) (Ne.symm hne)
          · exact hhead member hold

/-- A key that is there keeps its place. -/
theorem insert_eq_map {k : String} {v : alpha} :
    forall {members : List (String × alpha)}, Sorted members ->
      (exists v', (k, v') ∈ members) ->
      insert k v members = members.map fun m => if m.1 = k then (k, v) else m
  | [], _, ⟨_, hmem⟩ => by cases hmem
  | (k', v') :: rest, hsorted, ⟨old, hmem⟩ => by
      rcases List.pairwise_cons.mp hsorted with ⟨hfirst, hrest⟩
      rw [insert, List.map_cons]
      rcases List.mem_cons.mp hmem with heq | hin
      · have hkey : k = k' := congrArg Prod.fst heq
        subst hkey
        have hothers : rest.map (fun m => if m.1 = k then (k, v) else m) = rest := by
          refine (List.map_congr_left ?_).trans (List.map_id rest)
          intro m hm
          exact if_neg (hfirst m hm).ne'
        simp only [lt_irrefl, if_false, if_true, hothers]
      · have hlt : k' < k := hfirst _ hin
        rw [if_neg (not_lt_of_gt hlt), if_neg hlt.ne', if_neg hlt.ne,
          insert_eq_map hrest ⟨old, hin⟩]

/-- Sorted members are determined by their lookups. -/
theorem Sorted.nodup {members : List (String × alpha)} (h : Sorted members) :
    (members.map Prod.fst).Nodup := by
  unfold List.Nodup
  rw [List.pairwise_map]
  exact h.imp fun hlt => ne_of_lt hlt

/-- Fewer keys, fewer members. -/
theorem length_le_of_keys {members members' : List (String × alpha)} (h : Sorted members)
    (hkeys : forall k, (members.lookup k).isSome -> (members'.lookup k).isSome) :
    members.length <= members'.length := by
  have hsubset : members.map Prod.fst ⊆ members'.map Prod.fst := by
    intro k hk
    rcases List.mem_map.mp hk with ⟨member, hmember, heq⟩
    subst heq
    rcases Option.isSome_iff_exists.mp
      (hkeys member.1 (by rw [lookup_of_mem h hmember]; rfl)) with ⟨v, hv⟩
    exact List.mem_map.mpr ⟨_, mem_of_lookup hv, rfl⟩
  simpa using h.nodup.length_le_of_subset hsubset

theorem length_insert_le (k : String) (v : alpha) :
    forall members : List (String × alpha), (insert k v members).length <= members.length + 1
  | [] => Nat.le_refl 1
  | (k', v') :: rest => by
      have ih := length_insert_le k v rest
      rw [insert]
      split
      · exact Nat.le_refl _
      · split
        · exact Nat.le_succ _
        · simpa using ih

theorem ext : forall {members members' : List (String × alpha)}, Sorted members ->
    Sorted members' -> (forall k, members.lookup k = members'.lookup k) -> members = members'
  | [], [], _, _, _ => rfl
  | [], (k, v) :: rest, _, _, h => by
      have hk := h k
      simp at hk
  | (k, v) :: rest, [], _, _, h => by
      have hk := h k
      simp at hk
  | (k, v) :: rest, (k', v') :: rest', hs, hs', h => by
      rcases List.pairwise_cons.mp hs with ⟨hhead, hrest⟩
      rcases List.pairwise_cons.mp hs' with ⟨hhead', hrest'⟩
      have hkeys : k = k' := by
        rcases lt_trichotomy k k' with hlt | heq | hgt
        · have hk := h k
          rw [List.lookup_cons_self, List.lookup_cons, beq_eq_false_iff_ne.mpr (ne_of_lt hlt),
            lookup_eq_none_of_lt fun m hm => lt_trans hlt (hhead' m hm)] at hk
          cases hk
        · exact heq
        · have hk := h k'
          rw [List.lookup_cons_self, List.lookup_cons, beq_eq_false_iff_ne.mpr (ne_of_lt hgt),
            lookup_eq_none_of_lt fun m hm => lt_trans hgt (hhead m hm)] at hk
          cases hk
      subst hkeys
      have hvalues := h k
      rw [List.lookup_cons_self, List.lookup_cons_self] at hvalues
      have hrests : rest = rest' := by
        apply ext hrest hrest'
        intro k''
        have hk := h k''
        by_cases heq : k'' = k
        · subst heq
          rw [lookup_eq_none_of_lt hhead, lookup_eq_none_of_lt hhead']
        · rw [List.lookup_cons, List.lookup_cons, beq_eq_false_iff_ne.mpr heq] at hk
          exact hk
      rw [Option.some.inj hvalues, hrests]

end Members

/-!
## Values
-/

/-- A number written with a fraction or an exponent, as a program reads it: its
value with its text, or an infinity when it is too large. -/
inductive FloatNumber where
  | finite (value : Rat) (text : String)
  | infinite (negative : Bool)
deriving DecidableEq, Repr

inductive Json where
  | null
  | bool (b : Bool)
  | int (n : Int)
  | float (x : FloatNumber)
  | str (s : String)
  | arr (items : List Json)
  | obj (members : List (String × Json))

namespace Json

def isNull : Json -> Bool
  | null => true
  | _ => false

/-- The members of an object; any other value has none. -/
def members : Json -> List (String × Json)
  | obj ms => ms
  | _ => []

def member? (j : Json) (k : String) : Option Json :=
  j.members.lookup k

/-!
### Equality
-/

mutual

/-- Whether two documents are equal. -/
def same : Json -> Json -> Bool
  | null, null => true
  | bool b, bool b' => b == b'
  | int n, int n' => n == n'
  | float x, float x' => decide (x = x')
  | str s, str s' => s == s'
  | arr items, arr items' => sameItems items items'
  | obj ms, obj ms' => sameMembers ms ms'
  | _, _ => false

def sameItems : List Json -> List Json -> Bool
  | [], [] => true
  | j :: rest, j' :: rest' => same j j' && sameItems rest rest'
  | _, _ => false

def sameMembers : List (String × Json) -> List (String × Json) -> Bool
  | [], [] => true
  | m :: rest, m' :: rest' => sameMember m m' && sameMembers rest rest'
  | _, _ => false

def sameMember : String × Json -> String × Json -> Bool
  | (k, v), (k', v') => k == k' && same v v'

end

mutual

theorem same_iff : forall a b : Json, same a b = true <-> a = b
  | null, b => by cases b <;> simp [same]
  | bool _, b => by cases b <;> simp [same]
  | int _, b => by cases b <;> simp [same]
  | float _, b => by cases b <;> simp [same]
  | str _, b => by cases b <;> simp [same]
  | arr items, b => by
      cases b with
      | arr items' => simp [same, sameItems_iff items items']
      | _ => simp [same]
  | obj ms, b => by
      cases b with
      | obj ms' => simp [same, sameMembers_iff ms ms']
      | _ => simp [same]

theorem sameItems_iff : forall a b : List Json, sameItems a b = true <-> a = b
  | [], b => by cases b <;> simp [sameItems]
  | j :: rest, b => by
      cases b with
      | nil => simp [sameItems]
      | cons j' rest' => simp [sameItems, same_iff j j', sameItems_iff rest rest']

theorem sameMembers_iff : forall a b : List (String × Json), sameMembers a b = true <-> a = b
  | [], b => by cases b <;> simp [sameMembers]
  | m :: rest, b => by
      cases b with
      | nil => simp [sameMembers]
      | cons m' rest' => simp [sameMembers, sameMember_iff m m', sameMembers_iff rest rest']

theorem sameMember_iff : forall a b : String × Json, sameMember a b = true <-> a = b
  | (k, v), (k', v') => by simp [sameMember, same_iff v v']

end

instance decidableEq : DecidableEq Json :=
  fun a b => decidable_of_iff (same a b = true) (same_iff a b)

/-!
### Merge patches
-/

mutual

/-- RFC 7386: the document that a merge patch leaves. -/
def mergePatch (target : Json) : Json -> Json
  | null => null
  | bool b => bool b
  | int n => int n
  | float x => float x
  | str s => str s
  | arr items => arr items
  | obj patch => obj (mergeMembers target.members patch)

def mergeMembers (ms : List (String × Json)) :
    List (String × Json) -> List (String × Json)
  | [] => ms
  | patch :: rest => mergeMembers (mergeMember ms patch) rest

def mergeMember (ms : List (String × Json)) : String × Json -> List (String × Json)
  | (k, v) =>
      if v.isNull then Members.erase k ms
      else Members.insert k (mergePatch ((ms.lookup k).getD null) v) ms

end

example : mergePatch (obj [("a", int 1), ("b", str "x")])
    (obj [("a", null), ("c", obj [("d", null), ("e", int 2)])]) =
      obj [("b", str "x"), ("c", obj [("e", int 2)])] := by
  decide +kernel

/-- One member after a member of a patch. -/
def mergedMember (old : Option Json) (patch : Json) : Option Json :=
  if patch.isNull then none else some (mergePatch (old.getD null) patch)

theorem lookup_mergeMember_self (ms : List (String × Json)) (k : String) (v : Json) :
    (mergeMember ms (k, v)).lookup k = mergedMember (ms.lookup k) v := by
  rw [mergeMember, mergedMember]
  split
  · exact Members.lookup_erase_self k ms
  · exact Members.lookup_insert_self k _ ms

theorem lookup_mergeMember_of_ne {k k' : String} (hne : k' ≠ k) (ms : List (String × Json))
    (v : Json) : (mergeMember ms (k, v)).lookup k' = ms.lookup k' := by
  rw [mergeMember]
  split
  · exact Members.lookup_erase_of_ne hne ms
  · exact Members.lookup_insert_of_ne _ hne ms

/-- A patch leaves the members it does not name and merges those it names. -/
theorem lookup_mergeMembers (k : String) :
    forall (patch ms : List (String × Json)), Members.Sorted patch ->
      (mergeMembers ms patch).lookup k =
        match patch.lookup k with
        | none => ms.lookup k
        | some v => mergedMember (ms.lookup k) v
  | [], ms, _ => by rw [mergeMembers, List.lookup_nil]
  | (k', v) :: rest, ms, hsorted => by
      rcases List.pairwise_cons.mp hsorted with ⟨hhead, hrest⟩
      rw [mergeMembers, lookup_mergeMembers k rest _ hrest]
      by_cases hk : k = k'
      · subst hk
        rw [Members.lookup_eq_none_of_lt hhead, List.lookup_cons_self]
        exact lookup_mergeMember_self ms k v
      · rw [List.lookup_cons, beq_eq_false_iff_ne.mpr hk, lookup_mergeMember_of_ne hk]

theorem sorted_mergeMembers : forall {ms : List (String × Json)} (patch : List (String × Json)),
    Members.Sorted ms -> Members.Sorted (mergeMembers ms patch)
  | _, [], h => h
  | ms, (k, v) :: rest, h => by
      rw [mergeMembers]
      apply sorted_mergeMembers rest
      rw [mergeMember]
      split
      · exact Members.sorted_erase h
      · exact Members.sorted_insert h

/-!
### Canonical documents
-/

mutual

/-- The members of every object are sorted. -/
def Canonical : Json -> Prop
  | arr items => CanonicalItems items
  | obj ms => Members.Sorted ms ∧ CanonicalMembers ms
  | null => True
  | bool _ => True
  | int _ => True
  | float _ => True
  | str _ => True

def CanonicalItems : List Json -> Prop
  | [] => True
  | j :: rest => Canonical j ∧ CanonicalItems rest

def CanonicalMembers : List (String × Json) -> Prop
  | [] => True
  | m :: rest => CanonicalMember m ∧ CanonicalMembers rest

def CanonicalMember : String × Json -> Prop
  | (_, v) => Canonical v

end

theorem canonicalMembers_iff {ms : List (String × Json)} :
    CanonicalMembers ms <-> forall m, m ∈ ms -> m.2.Canonical := by
  induction ms with
  | nil => simp [CanonicalMembers]
  | cons m rest ih =>
      rcases m with ⟨k, v⟩
      rw [CanonicalMembers, CanonicalMember, ih, List.forall_mem_cons]

theorem Canonical.members {j : Json} (h : j.Canonical) :
    Members.Sorted j.members ∧ CanonicalMembers j.members := by
  cases j with
  | obj ms =>
      rw [Canonical] at h
      exact h
  | _ => exact ⟨List.Pairwise.nil, trivial⟩

theorem CanonicalMembers.lookup {ms : List (String × Json)} {k : String} {v : Json}
    (h : CanonicalMembers ms) (hlookup : ms.lookup k = some v) : v.Canonical :=
  canonicalMembers_iff.mp h _ (Members.mem_of_lookup hlookup)

/-!
### Merging again
-/

mutual

/-- Induction over the values of objects. -/
theorem objectInduction {motive : Json -> Prop}
    (leaf : forall j, (forall ms, j ≠ obj ms) -> motive j)
    (object : forall ms, (forall m, m ∈ ms -> motive m.2) -> motive (obj ms)) :
    forall j : Json, motive j
  | null => leaf _ fun _ h => by cases h
  | bool _ => leaf _ fun _ h => by cases h
  | int _ => leaf _ fun _ h => by cases h
  | float _ => leaf _ fun _ h => by cases h
  | str _ => leaf _ fun _ h => by cases h
  | arr _ => leaf _ fun _ h => by cases h
  | obj ms => object ms (objectInductionMembers leaf object ms)

theorem objectInductionMembers {motive : Json -> Prop}
    (leaf : forall j, (forall ms, j ≠ obj ms) -> motive j)
    (object : forall ms, (forall m, m ∈ ms -> motive m.2) -> motive (obj ms)) :
    forall (ms : List (String × Json)) (m : String × Json), m ∈ ms -> motive m.2
  | [], _, h => by cases h
  | first :: rest, m, h => by
      rcases List.mem_cons.mp h with heq | hrest
      · rw [heq]
        exact objectInductionMember leaf object first
      · exact objectInductionMembers leaf object rest m hrest

theorem objectInductionMember {motive : Json -> Prop}
    (leaf : forall j, (forall ms, j ≠ obj ms) -> motive j)
    (object : forall ms, (forall m, m ∈ ms -> motive m.2) -> motive (obj ms)) :
    forall m : String × Json, motive m.2
  | (_, v) => objectInduction leaf object v

end

theorem mergePatch_leaf {t v : Json} (h : forall ms, v ≠ obj ms) : mergePatch t v = v := by
  cases v with
  | obj ms => exact absurd rfl (h ms)
  | _ => rfl

theorem isNull_mergePatch (t v : Json) : (mergePatch t v).isNull = v.isNull := by
  cases v <;> rfl

theorem mergedMember_some {v : Json} (h : v.isNull = false) (old : Option Json) :
    mergedMember old v = some (mergePatch (old.getD null) v) := by
  rw [mergedMember, h]
  rfl

theorem mergedMember_ne_null (old : Option Json) (v : Json) : mergedMember old v ≠ some null := by
  intro h
  cases hnull : v.isNull with
  | true =>
      rw [mergedMember, hnull] at h
      cases h
  | false =>
      rw [mergedMember_some hnull, Option.some.injEq] at h
      have hmerged := isNull_mergePatch (old.getD null) v
      rw [h, hnull] at hmerged
      cases hmerged

/-- A patch that was merged changes nothing when it is merged again. -/
theorem mergePatch_idem (v : Json) :
    v.Canonical -> forall t : Json, t.Canonical ->
      mergePatch (mergePatch t v) v = mergePatch t v := by
  induction v using objectInduction with
  | leaf v hleaf =>
      intro _ t _
      rw [mergePatch_leaf hleaf, mergePatch_leaf hleaf]
  | object ms ih =>
      intro hv t ht
      rw [Canonical] at hv
      have hsorted := sorted_mergeMembers ms ht.members.1
      rw [mergePatch, mergePatch]
      refine congrArg obj (Members.ext (sorted_mergeMembers ms hsorted) hsorted ?_)
      intro k
      rw [lookup_mergeMembers _ _ _ hv.1, members, lookup_mergeMembers _ _ _ hv.1]
      cases hw : ms.lookup k with
      | none => rfl
      | some w =>
          simp only
          cases hnull : w.isNull with
          | true => simp [mergedMember, hnull]
          | false =>
              have hold : ((t.members.lookup k).getD null).Canonical := by
                cases hlookup : t.members.lookup k with
                | none => exact trivial
                | some old => exact ht.members.2.lookup hlookup
              rw [mergedMember_some hnull, mergedMember_some hnull, Option.getD_some,
                ih _ (Members.mem_of_lookup hw) (hv.2.lookup hw) _ hold]

/-- A document that was merged into itself has nothing more to lose. -/
theorem mergePatch_self_self (v : Json) : v.Canonical ->
    mergePatch (mergePatch v v) (mergePatch v v) = mergePatch v v := by
  induction v using objectInduction with
  | leaf v hleaf =>
      intro _
      rw [mergePatch_leaf hleaf, mergePatch_leaf hleaf]
  | object ms ih =>
      intro hv
      rw [Canonical] at hv
      have hsorted := sorted_mergeMembers ms hv.1
      rw [mergePatch, members, mergePatch, members]
      refine congrArg obj (Members.ext (sorted_mergeMembers _ hsorted) hsorted ?_)
      intro k
      rw [lookup_mergeMembers _ _ _ hsorted, lookup_mergeMembers _ _ _ hv.1]
      cases hw : ms.lookup k with
      | none => rfl
      | some w =>
          simp only
          cases hnull : w.isNull with
          | true => simp [mergedMember, hnull]
          | false =>
              rw [mergedMember_some hnull, Option.getD_some]
              simp only
              rw [mergedMember_some ((isNull_mergePatch w w).trans hnull), Option.getD_some,
                ih _ (Members.mem_of_lookup hw) (hv.2.lookup hw)]

/-!
### Python's comparison

`==` compares numbers and booleans by value, and objects as sets of members.
-/

/-- The number that a value counts as in a comparison, if it is finite. -/
def number? : Json -> Option Rat
  | bool b => some (if b then 1 else 0)
  | int n => some n
  | float (.finite value _) => some value
  | _ => none

mutual

def pyEq : Json -> Json -> Bool
  | null, b => b.isNull
  | bool x, b => (bool x).number? == b.number?
  | int n, b => (int n).number? == b.number?
  | float (.finite value text), b => (float (.finite value text)).number? == b.number?
  | float (.infinite negative), b => decide (b = float (.infinite negative))
  | str s, b => decide (b = str s)
  | arr items, arr items' => pyEqItems items items'
  | obj ms, obj ms' => pyEqMembers ms ms'
  | _, _ => false

def pyEqItems : List Json -> List Json -> Bool
  | [], [] => true
  | j :: rest, j' :: rest' => pyEq j j' && pyEqItems rest rest'
  | _, _ => false

def pyEqMembers : List (String × Json) -> List (String × Json) -> Bool
  | [], [] => true
  | m :: rest, m' :: rest' => pyEqMember m m' && pyEqMembers rest rest'
  | _, _ => false

def pyEqMember : String × Json -> String × Json -> Bool
  | (k, v), (k', v') => k == k' && pyEq v v'

end

theorem eq_str_of_pyEq {v : Json} {s : String} (h : v.pyEq (.str s) = true) : v = .str s := by
  cases v with
  | float x => cases x <;> simp [pyEq, number?] at h
  | _ => simp_all [pyEq, number?, isNull]

theorem eq_null_of_pyEq {v : Json} (h : v.pyEq .null = true) : v = .null := by
  cases v with
  | float x => cases x <;> simp [pyEq, number?] at h
  | _ => simp_all [pyEq, number?, isNull]

/-- What compares equal to an object is an object. -/
theorem exists_obj_of_pyEq {v : Json} {enc : List (String × Json)}
    (h : v.pyEq (.obj enc) = true) :
    exists ms, v = .obj ms ∧ pyEqMembers ms enc = true := by
  cases v with
  | obj ms =>
      rw [pyEq] at h
      exact ⟨ms, rfl, h⟩
  | float x => cases x <;> simp [pyEq, number?] at h
  | _ => simp [pyEq, number?, isNull] at h

/-- Members that compare equal have the same keys and equal values. -/
theorem lookup_of_pyEqMembers : forall {ms enc : List (String × Json)} (k : String),
    pyEqMembers ms enc = true ->
    (enc.lookup k = none -> ms.lookup k = none) ∧
      forall v, enc.lookup k = some v -> exists v', ms.lookup k = some v' ∧ v'.pyEq v = true
  | [], [], _, _ => ⟨fun _ => rfl, fun _ hv => by cases hv⟩
  | [], _ :: _, _, h => by simp [pyEqMembers] at h
  | _ :: _, [], _, h => by simp [pyEqMembers] at h
  | (k', v') :: rest, (k'', v'') :: rest', k, h => by
      simp only [pyEqMembers, pyEqMember, Bool.and_eq_true, beq_iff_eq] at h
      rcases h with ⟨⟨hkeys, hvalues⟩, hrest⟩
      subst hkeys
      by_cases hk : k = k'
      · subst hk
        rw [List.lookup_cons_self, List.lookup_cons_self]
        constructor
        · intro hnone
          cases hnone
        · intro v hv
          rw [← Option.some.inj hv]
          exact ⟨v', rfl, hvalues⟩
      · rw [List.lookup_cons, List.lookup_cons, beq_eq_false_iff_ne.mpr hk]
        exact lookup_of_pyEqMembers k hrest

example : pyEq (obj [("count", bool true)]) (obj [("count", int 1)]) = true := by
  decide +kernel

end Json

end Foundation
