import OpenStudioOperator.SingletonGuard

/-!
# When the relist may be skipped

A watch event is skipped when the fingerprint of its resource is the one that
was last recorded.  As long as every check lists what the watch has delivered,
can decide the election and gets an answer to its probes, the check that is
skipped would have done nothing.
-/

namespace OpenStudioOperator
namespace SingletonGuard

open Foundation
open RedisCredentials

/-!
## Warnings that are given once
-/

/-- A warning has nothing more to do for a resource. -/
def DoneWith (warning : OneTimeWarning) (warned : Finset CrKey) (item : ClusterManager) : Prop :=
  warning warned item = (warned, [])

/-- A warning given at most once: it only adds keys, it finishes with the
resources that it settles, and it stays finished when keys are added. -/
structure GivenOnce (warning : OneTimeWarning) (settles : ClusterManager -> Prop)
    (finished : Finset CrKey -> ClusterManager -> Prop) : Prop where
  grows : forall warned item, warned ⊆ (warning warned item).1
  finishes : forall warned item, settles item -> finished (warning warned item).1 item
  stays : forall warned warned' item, finished warned item -> warned ⊆ warned' ->
    finished warned' item

section GivenOnce

variable {warning : OneTimeWarning} {settles : ClusterManager -> Prop}
  {finished : Finset CrKey -> ClusterManager -> Prop}

theorem GivenOnce.warnAll_grows (h : GivenOnce warning settles finished) :
    forall (items : List ClusterManager) (warned : Finset CrKey),
      warned ⊆ (warnAll warning warned items).1 := by
  intro items
  induction items with
  | nil =>
      intro warned
      exact Finset.Subset.refl warned
  | cons item rest ih =>
      intro warned
      exact Finset.Subset.trans (h.grows warned item) (ih (warning warned item).1)

/-- After a pass the warning is finished with every item that it settles. -/
theorem GivenOnce.warnAll_finished (h : GivenOnce warning settles finished) :
    forall (items : List ClusterManager) (warned : Finset CrKey),
      (forall item, item ∈ items -> settles item) ->
      forall item, item ∈ items -> finished (warnAll warning warned items).1 item := by
  intro items
  induction items with
  | nil =>
      intro warned _ item hitem
      cases hitem
  | cons first rest ih =>
      intro warned hsettles item hitem
      rcases List.mem_cons.mp hitem with heq | hrest
      · rw [heq]
        exact h.stays _ _ first (h.finishes warned first (hsettles first List.mem_cons_self))
          (h.warnAll_grows rest (warning warned first).1)
      · exact ih (warning warned first).1
          (fun i hi => hsettles i (List.mem_cons_of_mem first hi)) item hrest

end GivenOnce

/-- A pass over items that a warning is done with does nothing. -/
theorem warnAll_of_done {warning : OneTimeWarning} {warned : Finset CrKey} :
    forall {items : List ClusterManager},
      (forall item, item ∈ items -> DoneWith warning warned item) ->
      warnAll warning warned items = (warned, []) := by
  intro items
  induction items with
  | nil =>
      intro _
      rfl
  | cons item rest ih =>
      intro hdone
      have hitem := hdone item List.mem_cons_self
      unfold DoneWith at hitem
      unfold warnAll
      simp only [hitem]
      rw [ih fun i hi => hdone i (List.mem_cons_of_mem item hi)]
      rfl

/-- What is finished by one of four reasons, the third that its key was warned,
stays finished when keys are added. -/
theorem warned_or_mono {warned warned' : Finset CrKey} {key : CrKey} {a b c : Prop}
    (hsub : warned ⊆ warned') (h : a ∨ b ∨ key ∈ warned ∨ c) :
    a ∨ b ∨ key ∈ warned' ∨ c := by
  rcases h with h | h | h | h
  · exact Or.inl h
  · exact Or.inr (Or.inl h)
  · exact Or.inr (Or.inr (Or.inl (hsub h)))
  · exact Or.inr (Or.inr (Or.inr h))

/-- Nothing is left to say about the Redis URL of a resource. -/
def UrlDone (warned : Finset CrKey) (item : ClusterManager) : Prop :=
  (keyOf item).1 = "" ∨ (keyOf item).2 = "" ∨ keyOf item ∈ warned ∨
    (redisUrlEmpty (specOf item) && !hasRedisSecretRef (specOf item)) = false

theorem UrlDone.doneWith {warned : Finset CrKey} {item : ClusterManager}
    (h : UrlDone warned item) : DoneWith warnRedisUrl warned item := by
  unfold DoneWith warnRedisUrl
  simp only []
  rcases h with h | h | h | h
  · rw [if_pos (Or.inl h)]
  · rw [if_pos (Or.inr h)]
  · rw [if_pos h, ite_self]
  · rw [h, if_neg Bool.false_ne_true, ite_self, ite_self]

theorem givenOnce_redisUrl : GivenOnce warnRedisUrl (fun _ => True) UrlDone := by
  constructor
  · intro warned item
    unfold warnRedisUrl
    simp only []
    split
    · exact Finset.Subset.refl warned
    · split
      · exact Finset.Subset.refl warned
      · split
        · exact Finset.subset_insert _ _
        · exact Finset.Subset.refl warned
  · intro warned item _
    by_cases hdone : UrlDone warned item
    · rw [hdone.doneWith]
      exact hdone
    · -- what was not finished has just been warned
      unfold UrlDone at hdone
      simp only [not_or, Bool.not_eq_false] at hdone
      rcases hdone with ⟨hns, hname, hwarned, hempty⟩
      apply Or.inr
      apply Or.inr
      apply Or.inl
      unfold warnRedisUrl
      simp only [hns, hname, hwarned, hempty, or_self, if_false, if_true]
      exact Finset.mem_insert_self _ _
  · intro warned warned' item hdone hsub
    exact warned_or_mono hsub hdone

/-- A probe that a check can rely on: the resource's Secret was read or denied. -/
def Probed (probe : CrKey -> RedisSecretRef -> ProbeOutcome) (item : ClusterManager) : Prop :=
  forall ref, redisSecretRefOf (specOf item) = some ref -> probe (keyOf item) ref ≠ .failed

/-- Nothing is left to probe for a resource, whatever the probe would answer. -/
def ProbeDone (warned : Finset CrKey) (item : ClusterManager) : Prop :=
  (keyOf item).1 = "" ∨ (keyOf item).2 = "" ∨ keyOf item ∈ warned ∨
    redisSecretRefOf (specOf item) = none

theorem ProbeDone.doneWith {warned : Finset CrKey} {item : ClusterManager}
    (h : ProbeDone warned item) (unicode : UnicodeData)
    (probe : CrKey -> RedisSecretRef -> ProbeOutcome) :
    DoneWith (warnSecretRef unicode probe) warned item := by
  unfold DoneWith warnSecretRef
  simp only []
  rcases h with h | h | h | h
  · rw [if_pos (Or.inl h)]
  · rw [if_pos (Or.inr h)]
  · rw [if_pos h, ite_self]
  · rw [h, ite_self, ite_self]

theorem givenOnce_secretRef (unicode : UnicodeData)
    (probe : CrKey -> RedisSecretRef -> ProbeOutcome) :
    GivenOnce (warnSecretRef unicode probe) (Probed probe) ProbeDone := by
  constructor
  · intro warned item
    unfold warnSecretRef
    simp only []
    split
    · exact Finset.Subset.refl warned
    · split
      · exact Finset.Subset.refl warned
      · split
        · exact Finset.Subset.refl warned
        · split
          · exact Finset.Subset.refl warned
          · exact Finset.subset_insert _ _
          · exact Finset.subset_insert _ _
  · intro warned item hprobed
    by_cases hdone : ProbeDone warned item
    · rw [hdone.doneWith unicode probe]
      exact hdone
    · unfold ProbeDone at hdone
      simp only [not_or] at hdone
      rcases hdone with ⟨hns, hname, hwarned, href⟩
      cases hsome : redisSecretRefOf (specOf item) with
      | none => exact absurd hsome href
      | some ref =>
          have hprobe := hprobed ref hsome
          apply Or.inr
          apply Or.inr
          apply Or.inl
          unfold warnSecretRef
          simp only [hns, hname, hwarned, hsome, or_self, if_false]
          cases hanswer : probe (keyOf item) ref with
          | failed => exact absurd hanswer hprobe
          | success => exact Finset.mem_insert_self _ _
          | forbidden => exact Finset.mem_insert_self _ _
  · intro warned warned' item hdone hsub
    exact warned_or_mono hsub hdone

/-!
## What a check reads
-/

/-- The fields of a resource that a check reads. -/
structure Reading where
  crNamespace : String
  name : Option String
  uid : String
  creationTimestamp : String
  redisUrlEmpty : Bool
  secretRef : Option RedisSecretRef
deriving DecidableEq

def reading (cr : ClusterManager) : Reading where
  crNamespace := textOf cr.metadata.crNamespace
  name := cr.metadata.name
  uid := textOf cr.metadata.uid
  creationTimestamp := textOf cr.metadata.creationTimestamp
  redisUrlEmpty := redisUrlEmpty (specOf cr)
  secretRef := redisSecretRefOf (specOf cr)

section Reading

variable {a b : ClusterManager} (h : reading a = reading b)

include h

theorem crName_of_reading : crName a = crName b := by
  have hname : a.metadata.name = b.metadata.name := congrArg Reading.name h
  unfold crName
  rw [hname]

theorem keyOf_of_reading : keyOf a = keyOf b := by
  have hname : a.metadata.name = b.metadata.name := congrArg Reading.name h
  have hns : textOf a.metadata.crNamespace = textOf b.metadata.crNamespace :=
    congrArg Reading.crNamespace h
  unfold keyOf
  rw [hname, hns]

theorem created_of_reading (unicode : UnicodeData) : created unicode a = created unicode b := by
  have hcreated : textOf a.metadata.creationTimestamp = textOf b.metadata.creationTimestamp :=
    congrArg Reading.creationTimestamp h
  unfold created
  rw [hcreated, crName_of_reading h]

theorem seniority_of_reading (unicode : UnicodeData) :
    seniority unicode a = seniority unicode b := by
  have hname : a.metadata.name = b.metadata.name := congrArg Reading.name h
  have huid : textOf a.metadata.uid = textOf b.metadata.uid := congrArg Reading.uid h
  unfold seniority seniorityKey
  rw [created_of_reading h, hname, huid]

theorem sameCr_of_reading {c d : ClusterManager} (hcd : reading c = reading d) :
    sameCr a c = sameCr b d := by
  have hname : a.metadata.name = b.metadata.name := congrArg Reading.name h
  have hname' : c.metadata.name = d.metadata.name := congrArg Reading.name hcd
  have huid : textOf a.metadata.uid = textOf b.metadata.uid := congrArg Reading.uid h
  have huid' : textOf c.metadata.uid = textOf d.metadata.uid := congrArg Reading.uid hcd
  unfold sameCr
  rw [hname, hname', huid, huid']
  by_cases hne : textOf b.metadata.uid ≠ "" ∧ textOf d.metadata.uid ≠ ""
  · rw [if_pos hne, if_pos hne, eq_of_textOf (by rw [huid]; exact hne.1) huid,
      eq_of_textOf (by rw [huid']; exact hne.2) huid']
  · rw [if_neg hne, if_neg hne]

theorem urlDone_of_reading {warned : Finset CrKey} (hdone : UrlDone warned a) :
    UrlDone warned b := by
  have hempty : redisUrlEmpty (specOf a) = redisUrlEmpty (specOf b) :=
    congrArg Reading.redisUrlEmpty h
  have href : redisSecretRefOf (specOf a) = redisSecretRefOf (specOf b) :=
    congrArg Reading.secretRef h
  unfold UrlDone hasRedisSecretRef at hdone ⊢
  rw [← keyOf_of_reading h, ← hempty, ← href]
  exact hdone

theorem probeDone_of_reading {warned : Finset CrKey} (hdone : ProbeDone warned a) :
    ProbeDone warned b := by
  have href : redisSecretRefOf (specOf a) = redisSecretRefOf (specOf b) :=
    congrArg Reading.secretRef h
  unfold ProbeDone at hdone ⊢
  rw [← keyOf_of_reading h, ← href]
  exact hdone

end Reading

/-!
## Listings with the same readings
-/

/-- Two listings show a check the same resources, in whatever order. -/
def SameReadings (items items' : List ClusterManager) : Prop :=
  (items.map reading).Perm (items'.map reading)

/-- The names of a listing tell its resources apart. -/
def NamesDistinct (items : List ClusterManager) : Prop :=
  (items.map fun cr => textOf cr.metadata.name).Nodup

section Listings

variable {unicode : UnicodeData} {items items' : List ClusterManager}

theorem SameReadings.symm (h : SameReadings items items') : SameReadings items' items :=
  List.Perm.symm h

theorem SameReadings.exists_reading (h : SameReadings items items') {cr : ClusterManager}
    (hcr : cr ∈ items) : exists cr', cr' ∈ items' ∧ reading cr = reading cr' := by
  have hmem : reading cr ∈ items'.map reading := h.mem_iff.mp (List.mem_map_of_mem hcr)
  rcases List.mem_map.mp hmem with ⟨cr', hcr', heq⟩
  exact ⟨cr', hcr', heq.symm⟩

theorem SameReadings.datable (h : SameReadings items items') (hdatable : Datable unicode items) :
    Datable unicode items' := by
  intro cr hcr
  rcases h.symm.exists_reading hcr with ⟨cr', hcr', heq⟩
  rw [created_of_reading heq]
  exact hdatable cr' hcr'

theorem SameReadings.namesDistinct (h : SameReadings items items')
    (hdistinct : NamesDistinct items) : NamesDistinct items' := by
  have hperm := h.map fun r => textOf r.name
  rw [List.map_map, List.map_map] at hperm
  exact hperm.nodup_iff.mp hdistinct

theorem name_of_seniority {a b : ClusterManager} {k : SeniorityKey}
    (ha : seniorityKey unicode a = .ok k) (hb : seniorityKey unicode b = .ok k) :
    textOf a.metadata.name = textOf b.metadata.name := by
  have hname : forall cr, seniorityKey unicode cr = .ok k ->
      (ofLex (ofLex k).2).1 = textOf cr.metadata.name := by
    intro cr hcr
    unfold seniorityKey at hcr
    cases hcreated : created unicode cr with
    | error err =>
        rw [hcreated] at hcr
        cases hcr
    | ok t =>
        rw [hcreated] at hcr
        cases hcr
        rfl
  rw [← hname a ha, ← hname b hb]

/-- Listings with the same readings elect resources with the same reading. -/
theorem SameReadings.heads (h : SameReadings items items') (hdatable : Datable unicode items)
    (hdistinct : NamesDistinct items) {w : ClusterManager}
    (hw : (sortOn (seniority unicode) items).head? = some w) :
    exists w', (sortOn (seniority unicode) items').head? = some w' ∧ reading w = reading w' := by
  have hne : items ≠ [] := by
    intro hnil
    rw [hnil] at hw
    cases hw
  rcases head?_sortOn (seniority unicode) hne with ⟨first, hfirst, hmem, hleast⟩
  have hwfirst : w = first := Option.some.inj (hw.symm.trans hfirst)
  rw [hwfirst]
  rcases h.exists_reading hmem with ⟨x, hx, hreading⟩
  rcases head?_sortOn (seniority unicode) (List.ne_nil_of_mem hx) with
    ⟨w', hw', hmem', hleast'⟩
  rcases h.symm.exists_reading hmem' with ⟨y, hy, hreading'⟩
  have hkey : seniority unicode w' = seniority unicode x := by
    apply le_antisymm (hleast' x hx)
    rw [← seniority_of_reading hreading, seniority_of_reading hreading']
    exact hleast y hy
  have hdatable' := h.datable hdatable
  have hname : textOf w'.metadata.name = textOf x.metadata.name :=
    name_of_seniority (hdatable'.key hmem') (by rw [hkey]; exact hdatable'.key hx)
  have heq : w' = x :=
    List.inj_on_of_nodup_map (h.namesDistinct hdistinct) hmem' hx hname
  exists w'
  constructor
  · exact hw'
  · rw [heq]
    exact hreading

theorem mem_losers_view {w : ClusterManager} {n : String} :
    n ∈ ((losersOf (some w) items).map crName).toFinset <->
      exists cr, cr ∈ items ∧ sameCr cr w = false ∧ crName cr = n := by
  unfold losersOf
  simp only [List.mem_toFinset, List.mem_map, List.mem_filter, Bool.not_eq_true']
  constructor
  · intro h
    rcases h with ⟨cr, ⟨hcr, hnot⟩, hn⟩
    exact ⟨cr, hcr, hnot, hn⟩
  · intro h
    rcases h with ⟨cr, hcr, hnot, hn⟩
    exact ⟨cr, ⟨hcr, hnot⟩, hn⟩

theorem SameReadings.losers_subset (h : SameReadings items items') {w w' : ClusterManager}
    (hw : reading w = reading w') {n : String}
    (hn : n ∈ ((losersOf (some w) items).map crName).toFinset) :
    n ∈ ((losersOf (some w') items').map crName).toFinset := by
  rcases mem_losers_view.mp hn with ⟨cr, hcr, hnot, hname⟩
  rcases h.exists_reading hcr with ⟨cr', hcr', heq⟩
  apply mem_losers_view.mpr
  exists cr'
  constructor
  · exact hcr'
  constructor
  · rw [← sameCr_of_reading heq hw]
    exact hnot
  · rw [← crName_of_reading heq]
    exact hname

theorem view_eq_viewOf (hdatable : Datable unicode items) :
    view unicode items = viewOf (sortOn (seniority unicode) items).head? items := by
  unfold view
  rw [hdatable.resolve_eq]

/-- A check sees one view in listings with the same readings. -/
theorem SameReadings.view_eq (h : SameReadings items items') (hdatable : Datable unicode items)
    (hdistinct : NamesDistinct items) : view unicode items = view unicode items' := by
  rw [view_eq_viewOf hdatable, view_eq_viewOf (h.datable hdatable)]
  cases hw : (sortOn (seniority unicode) items).head? with
  | none =>
      -- an empty listing has an empty partner
      have hnil : items = [] := by
        by_contra hne
        rcases head?_sortOn (seniority unicode) hne with ⟨first, hfirst, _⟩
        rw [hw] at hfirst
        cases hfirst
      have hnil' : items' = [] := by
        have hlength := h.length_eq
        rw [hnil, List.length_map, List.length_map] at hlength
        exact List.length_eq_zero_iff.mp hlength.symm
      rw [hnil, hnil']
      rfl
  | some w =>
      rcases h.heads hdatable hdistinct hw with ⟨w', hw', hreading⟩
      rw [hw']
      unfold viewOf
      apply Prod.ext
      · show some (crName w) = some (crName w')
        rw [crName_of_reading hreading]
      · apply Finset.ext
        intro n
        constructor
        · exact h.losers_subset hreading
        · exact h.symm.losers_subset hreading.symm

/-- An election that can be decided leaves its view, and no Event when the view
is the one before. -/
theorem enforce_view (hdatable : Datable unicode items) (lastState : Option GuardView) :
    exists events, enforce unicode lastState items = .ok (some (view unicode items), events) ∧
      (lastState = some (view unicode items) -> events = []) := by
  rw [view_eq_viewOf hdatable, enforce_resolved hdatable.resolve_eq]
  exact ⟨_, rfl, fun hsame => if_pos hsame.symm⟩

end Listings

/-!
## Fingerprints
-/

theorem truthy_of_pyEq {v v' : Json} (h : v.pyEq v' = true) : v.truthy = v'.truthy := by
  have hnumber : forall (q : Rat) (w : Json), w.number? = some q -> w.truthy = decide (q ≠ 0) := by
    intro q w hw
    cases w with
    | bool b =>
        cases hw
        cases b <;> rfl
    | int n =>
        cases hw
        unfold Json.truthy
        rw [Bool.eq_iff_iff, bne_iff_ne, decide_eq_true_iff, Ne, Ne, ← Rat.intCast_inj]
        rfl
    | float x =>
        cases x with
        | finite value text =>
            cases hw
            unfold Json.truthy
            rw [Bool.eq_iff_iff, bne_iff_ne, decide_eq_true_iff]
        | infinite negative => cases hw
    | _ => cases hw
  have hnumbers : forall (q : Rat), v.number? = some q -> (some q == v'.number?) = true ->
      v.truthy = v'.truthy := by
    intro q hv hq
    rw [hnumber q v hv, hnumber q v' (eq_of_beq hq).symm]
  cases v with
  | null =>
      rw [Json.pyEq] at h
      cases v' <;> first | rfl | cases h
  | bool b =>
      rw [Json.pyEq] at h
      exact hnumbers _ rfl h
  | int n =>
      rw [Json.pyEq] at h
      exact hnumbers _ rfl h
  | float x =>
      cases x with
      | finite value text =>
          rw [Json.pyEq] at h
          exact hnumbers _ rfl h
      | infinite negative =>
          rw [Json.pyEq, decide_eq_true_iff] at h
          rw [h]
  | str s =>
      rw [Json.pyEq, decide_eq_true_iff] at h
      rw [h]
  | arr items =>
      cases v' with
      | arr items' =>
          rw [Json.pyEq] at h
          cases items <;> cases items' <;> first | rfl | simp [Json.pyEqItems] at h
      | _ => simp [Json.pyEq] at h
  | obj ms =>
      cases v' with
      | obj ms' =>
          rw [Json.pyEq] at h
          cases ms <;> cases ms' <;> first | rfl | simp [Json.pyEqMembers] at h
      | _ => simp [Json.pyEq] at h

section Members

variable {ms ms' : List (String × Json)} (h : Json.pyEqMembers ms ms' = true)

include h

/-- A key has a value on both sides, and the values compare equal, or on
neither. -/
theorem lookup_cases (key : String) :
    (ms.lookup key = none ∧ ms'.lookup key = none) ∨
      exists v v', ms.lookup key = some v ∧ ms'.lookup key = some v' ∧ v.pyEq v' = true := by
  have hlookup := Json.lookup_of_pyEqMembers key h
  cases hv' : ms'.lookup key with
  | none => exact Or.inl ⟨hlookup.1 hv', rfl⟩
  | some v' =>
      rcases hlookup.2 v' hv' with ⟨v, hv, heq⟩
      exact Or.inr ⟨v, v', hv, rfl, heq⟩

theorem redisUrlEmpty_of_pyEq : redisUrlEmpty ms = redisUrlEmpty ms' := by
  unfold redisUrlEmpty
  rcases lookup_cases h "redisUrl" with ⟨hnone, hnone'⟩ | ⟨v, v', hv, hv', heq⟩
  · rw [hnone, hnone']
  · rw [hv, hv', Option.getD_some, Option.getD_some, truthy_of_pyEq heq]

theorem textAt_of_pyEq (key : String) : textAt ms key = textAt ms' key := by
  unfold textAt
  rcases lookup_cases h key with ⟨hnone, hnone'⟩ | ⟨v, v', hv, hv', heq⟩
  · rw [hnone, hnone']
  · rw [hv, hv']
    cases v' with
    | str s => rw [Json.eq_str_of_pyEq heq]
    | _ =>
        cases v with
        | str s =>
            rw [Json.pyEq, decide_eq_true_iff] at heq
            cases heq
        | _ => rfl

/-- Objects below a key compare equal, or there is none on either side. -/
theorem objectAt_of_pyEq (key : String) :
    (objectAt ms key = none ∧ objectAt ms' key = none) ∨
      exists o o', objectAt ms key = some o ∧ objectAt ms' key = some o' ∧
        Json.pyEqMembers o o' = true := by
  unfold objectAt
  rcases lookup_cases h key with ⟨hnone, hnone'⟩ | ⟨v, v', hv, hv', heq⟩
  · rw [hnone, hnone']
    exact Or.inl ⟨rfl, rfl⟩
  · rw [hv, hv']
    cases v' with
    | obj o' =>
        rcases Json.exists_obj_of_pyEq heq with ⟨o, ho, hmembers⟩
        rw [ho]
        exact Or.inr ⟨o, o', rfl, rfl, hmembers⟩
    | _ =>
        cases v with
        | obj o => simp [Json.pyEq] at heq
        | _ => exact Or.inl ⟨rfl, rfl⟩

theorem redisSecretRefOf_of_pyEq : redisSecretRefOf ms = redisSecretRefOf ms' := by
  unfold redisSecretRefOf
  rcases objectAt_of_pyEq h "redisCredentials" with ⟨hnone, hnone'⟩ | ⟨o, o', ho, ho', heq⟩
  · rw [hnone, hnone']
  · rw [ho, ho']
    show (objectAt o "secretRef").bind _ = (objectAt o' "secretRef").bind _
    rcases objectAt_of_pyEq heq "secretRef" with ⟨hnone, hnone'⟩ | ⟨r, r', hr, hr', href⟩
    · rw [hnone, hnone']
    · rw [hr, hr']
      show (textAt r "name").bind _ = (textAt r' "name").bind _
      rw [textAt_of_pyEq href "name", textAt_of_pyEq href "key"]

end Members

/-- A fingerprint and a resource agree on what a check reads. -/
structure ReadsAs (surface : PolicySurface) (cr : ClusterManager) : Prop where
  uid : surface.uid = textOf cr.metadata.uid
  redisUrlEmpty : SingletonGuard.redisUrlEmpty (surface.spec.getD []) =
    SingletonGuard.redisUrlEmpty (specOf cr)
  secretRef : redisSecretRefOf (surface.spec.getD []) = redisSecretRefOf (specOf cr)

theorem readsAs_self (cr : ClusterManager) : ReadsAs (crPolicySurface cr) cr :=
  ⟨rfl, rfl, rfl⟩

theorem readsAs_of_pyEq {surface : PolicySurface} {cr : ClusterManager}
    (h : surface.pyEq (crPolicySurface cr) = true) : ReadsAs surface cr := by
  unfold PolicySurface.pyEq at h
  simp only [Bool.and_eq_true, decide_eq_true_iff] at h
  rcases h with ⟨⟨⟨⟨huid, hspec⟩, _⟩, _⟩, _⟩
  have hcr : (crPolicySurface cr).spec = cr.spec := rfl
  rw [hcr] at hspec
  cases hs : surface.spec with
  | none =>
      rw [hs] at hspec
      cases hs' : cr.spec with
      | none => exact ⟨huid, by rw [hs, specOf, hs'], by rw [hs, specOf, hs']⟩
      | some ms' =>
          rw [hs'] at hspec
          cases hspec
  | some ms =>
      rw [hs] at hspec
      cases hs' : cr.spec with
      | none =>
          rw [hs'] at hspec
          cases hspec
      | some ms' =>
          rw [hs'] at hspec
          have hmembers : Json.pyEqMembers ms ms' = true := by
            simpa [Json.pyEq] using hspec
          constructor
          · exact huid
          · rw [hs, specOf, hs']
            exact redisUrlEmpty_of_pyEq hmembers
          · rw [hs, specOf, hs']
            exact redisSecretRefOf_of_pyEq hmembers

/-!
## Runs

The resources that the watch has delivered so far, by name.
-/

abbrev Delivered := List (String × ClusterManager)

def Delivered.items (crs : Delivered) : List ClusterManager :=
  crs.map Prod.snd

def Delivered.after (crs : Delivered) (event : WatchEvent) : Delivered :=
  let others := crs.filter fun entry => entry.1 ≠ event.name
  if event.type = .deleted then others else others ++ [(event.name, event.body)]

structure Step where
  event : WatchEvent
  answers : CheckAnswers

/-- An event of the namespace's watch: its body is that of the resource it
names, and a uid keeps its creation timestamp. -/
structure Genuine (crNamespace : String) (crs : Delivered) (event : WatchEvent) : Prop where
  name : event.body.metadata.name = some event.name
  crNamespace : event.body.metadata.crNamespace = some crNamespace
  immutable : forall cr, (event.name, cr) ∈ crs ->
    textOf cr.metadata.uid = textOf event.body.metadata.uid ->
    textOf cr.metadata.creationTimestamp = textOf event.body.metadata.creationTimestamp

/-- A check that can do its work: its listing shows the resources that were
delivered, the election can be decided, and no probe fails. -/
def Answered (unicode : UnicodeData) (crs : Delivered) (answers : CheckAnswers) : Prop :=
  exists items, answers.listCrs = some items ∧ SameReadings items crs.items ∧
    Datable unicode items ∧ forall cr, cr ∈ items -> Probed answers.probe cr

/-- The event is skipped in this state. -/
def Skips (crNamespace : String) (state : GuardState) (event : WatchEvent) : Prop :=
  (skipGuardRelist state crNamespace event).1 = true

/-- A check on these resources, listed in any order, would emit no Event and
leave the view and the warned keys as they are. -/
def WouldDoNothing (unicode : UnicodeData) (crNamespace : String) (state : GuardState)
    (crs : Delivered) : Prop :=
  forall items probe, items.Perm crs.items ->
    let checked := check unicode crNamespace state { listCrs := some items, probe := probe }
    checked.events = [] ∧ checked.raised = none ∧
      checked.state.lastState = state.lastState ∧
      checked.state.redisUrlWarned = state.redisUrlWarned ∧
      checked.state.secretRefWarned = state.secretRefWarned

/-- Every check of a run can do its work. -/
def Conforms (unicode : UnicodeData) (crNamespace : String) :
    GuardState -> Delivered -> List Step -> Prop
  | _, _, [] => True
  | state, crs, step :: rest =>
      Genuine crNamespace crs step.event ∧
      (¬ Skips crNamespace state step.event ->
        Answered unicode (crs.after step.event) step.answers) ∧
      Conforms unicode crNamespace
        (singletonGuardEvent unicode crNamespace state step.event step.answers).state
        (crs.after step.event) rest

/-- Wherever a run skips an event, the check would have done nothing. -/
def SkipsSound (unicode : UnicodeData) (crNamespace : String) :
    GuardState -> Delivered -> List Step -> Prop
  | _, _, [] => True
  | state, crs, step :: rest =>
      (Skips crNamespace state step.event ->
        WouldDoNothing unicode crNamespace state (crs.after step.event)) ∧
      SkipsSound unicode crNamespace
        (singletonGuardEvent unicode crNamespace state step.event step.answers).state
        (crs.after step.event) rest

/-!
## What a check leaves
-/

/-- The delivered resources carry their names and the namespace. -/
structure Keyed (crNamespace : String) (crs : Delivered) : Prop where
  nodup : (crs.map Prod.fst).Nodup
  name : forall n cr, (n, cr) ∈ crs -> cr.metadata.name = some n
  crNamespace : forall n cr, (n, cr) ∈ crs -> cr.metadata.crNamespace = some crNamespace

/-- The guard has checked a listing: it holds its view and is finished with its
resources. -/
structure Checked (unicode : UnicodeData) (state : GuardState) (items : List ClusterManager) :
    Prop where
  lastState : state.lastState = some (view unicode items)
  datable : Datable unicode items
  urls : forall cr, cr ∈ items -> UrlDone state.redisUrlWarned cr
  secrets : forall cr, cr ∈ items -> ProbeDone state.secretRefWarned cr

section Checks

variable {unicode : UnicodeData} {crNamespace : String}

theorem Keyed.namesDistinct {crs : Delivered} (h : Keyed crNamespace crs) :
    NamesDistinct crs.items := by
  have hnames : (crs.items.map fun cr => textOf cr.metadata.name) = crs.map Prod.fst := by
    unfold Delivered.items
    rw [List.map_map]
    apply List.map_congr_left
    intro entry hentry
    show textOf entry.2.metadata.name = entry.1
    rw [h.name entry.1 entry.2 hentry]
    rfl
  unfold NamesDistinct
  rw [hnames]
  exact h.nodup

theorem Keyed.after {crs : Delivered} (h : Keyed crNamespace crs) {event : WatchEvent}
    (hevent : Genuine crNamespace crs event) : Keyed crNamespace (crs.after event) := by
  have hothers : forall n cr, (n, cr) ∈ (crs.filter fun entry => entry.1 ≠ event.name) ->
      (n, cr) ∈ crs ∧ n ≠ event.name := by
    intro n cr hmem
    simpa using hmem
  have hkeys : ((crs.filter fun entry => entry.1 ≠ event.name).map Prod.fst).Nodup :=
    h.nodup.sublist ((List.filter_sublist).map Prod.fst)
  unfold Delivered.after
  simp only []
  by_cases hdeleted : event.type = .deleted
  · rw [if_pos hdeleted]
    constructor
    · exact hkeys
    · exact fun n cr hmem => h.name n cr (hothers n cr hmem).1
    · exact fun n cr hmem => h.crNamespace n cr (hothers n cr hmem).1
  · rw [if_neg hdeleted]
    constructor
    · rw [List.map_append, List.nodup_append]
      constructor
      · exact hkeys
      constructor
      · exact List.nodup_singleton _
      · intro n hn m hm heq
        rcases List.mem_map.mp hn with ⟨⟨n', cr⟩, hmem, hn'⟩
        rw [List.map_singleton, List.mem_singleton] at hm
        exact (hothers n' cr hmem).2 (hn'.trans (heq.trans hm))
    · intro n cr hmem
      rcases List.mem_append.mp hmem with hmem | hmem
      · exact h.name n cr (hothers n cr hmem).1
      · cases List.mem_singleton.mp hmem
        exact hevent.name
    · intro n cr hmem
      rcases List.mem_append.mp hmem with hmem | hmem
      · exact h.crNamespace n cr (hothers n cr hmem).1
      · cases List.mem_singleton.mp hmem
        exact hevent.crNamespace

/-- Checking a listing checks every listing with the same readings. -/
theorem Checked.of_sameReadings {state : GuardState} {items items' : List ClusterManager}
    (h : Checked unicode state items) (hsame : SameReadings items items')
    (hdistinct : NamesDistinct items) : Checked unicode state items' := by
  constructor
  · rw [h.lastState, hsame.view_eq h.datable hdistinct]
  · exact hsame.datable h.datable
  · intro cr hcr
    rcases hsame.symm.exists_reading hcr with ⟨cr', hcr', heq⟩
    exact urlDone_of_reading heq.symm (h.urls cr' hcr')
  · intro cr hcr
    rcases hsame.symm.exists_reading hcr with ⟨cr', hcr', heq⟩
    exact probeDone_of_reading heq.symm (h.secrets cr' hcr')

/-- A check of a listing whose election can be decided and whose probes are
answered. -/
theorem check_checked {state : GuardState} {items : List ClusterManager}
    {probe : CrKey -> RedisSecretRef -> ProbeOutcome} (hns : crNamespace ≠ "")
    (hdatable : Datable unicode items) (hprobed : forall cr, cr ∈ items -> Probed probe cr) :
    let checked := check unicode crNamespace state { listCrs := some items, probe := probe }
    Checked unicode checked.state items ∧ checked.raised = none ∧
      checked.state.lastSeenSurface = state.lastSeenSurface := by
  rcases enforce_view hdatable state.lastState with ⟨events, henforce, _⟩
  unfold check
  rw [if_neg hns]
  simp only [henforce]
  constructor
  · constructor
    · rfl
    · exact hdatable
    · exact givenOnce_redisUrl.warnAll_finished items state.redisUrlWarned
        fun _ _ => True.intro
    · exact (givenOnce_secretRef unicode probe).warnAll_finished items state.secretRefWarned
        hprobed
  · exact ⟨rfl, rfl⟩

/-- A check of a listing that was checked before does nothing. -/
theorem check_again {state : GuardState} {items : List ClusterManager}
    (h : Checked unicode state items) (hns : crNamespace ≠ "")
    (probe : CrKey -> RedisSecretRef -> ProbeOutcome) :
    let checked := check unicode crNamespace state { listCrs := some items, probe := probe }
    checked.events = [] ∧ checked.raised = none ∧
      checked.state.lastState = state.lastState ∧
      checked.state.redisUrlWarned = state.redisUrlWarned ∧
      checked.state.secretRefWarned = state.secretRefWarned := by
  rcases enforce_view h.datable state.lastState with ⟨events, henforce, hquiet⟩
  have hurls : emitRedisUrlGuardEvents state.redisUrlWarned items = (state.redisUrlWarned, []) :=
    warnAll_of_done fun cr hcr => (h.urls cr hcr).doneWith
  have hsecrets : emitRedisSecretRefForbiddenEvents unicode probe state.secretRefWarned items =
      (state.secretRefWarned, []) :=
    warnAll_of_done fun cr hcr => (h.secrets cr hcr).doneWith unicode probe
  unfold check warnItems
  rw [if_neg hns]
  simp only [henforce, hurls, hsecrets, hquiet h.lastState, List.append_nil]
  exact ⟨trivial, trivial, h.lastState.symm, trivial, trivial⟩

theorem Checked.wouldDoNothing {state : GuardState} {crs : Delivered}
    (h : Checked unicode state crs.items) (hkeyed : Keyed crNamespace crs)
    (hns : crNamespace ≠ "") : WouldDoNothing unicode crNamespace state crs := by
  intro items probe hperm
  have hsame : SameReadings crs.items items := (hperm.map reading).symm
  exact check_again (h.of_sameReadings hsame hkeyed.namesDistinct) hns probe

end Checks

/-!
## The fingerprints
-/

/-- Every recorded fingerprint is that of the delivered resource of its name. -/
def Recorded (crNamespace : String) (cache : GuardCache) (crs : Delivered) : Prop :=
  forall n surface, ((crNamespace, n), surface) ∈ cache ->
    exists cr, (n, cr) ∈ crs ∧ ReadsAs surface cr

/-- Between events: nothing is recorded yet, or the guard has checked what was
delivered and the fingerprints are those of the delivered resources. -/
structure Steady (unicode : UnicodeData) (crNamespace : String) (state : GuardState)
    (crs : Delivered) : Prop where
  keyed : Keyed crNamespace crs
  checked : state.lastSeenSurface ≠ [] -> Checked unicode state crs.items
  recorded : Recorded crNamespace state.lastSeenSurface crs

section Fingerprints

variable {unicode : UnicodeData} {crNamespace : String}

theorem mem_pop {cache : GuardCache} {key : CrKey} {entry : CrKey × PolicySurface} :
    entry ∈ cache.pop key <-> entry ∈ cache ∧ entry.1 ≠ key := by
  unfold GuardCache.pop
  rw [List.mem_filter, decide_eq_true_iff]

theorem mem_of_lookup {cache : GuardCache} {key : CrKey} {surface : PolicySurface}
    (h : List.lookup key cache = some surface) : (key, surface) ∈ cache := by
  induction cache with
  | nil => cases h
  | cons entry rest ih =>
      rcases entry with ⟨key', surface'⟩
      by_cases hkey : key = key'
      · rw [hkey, List.lookup_cons_self] at h
        rw [hkey, Option.some.inj h]
        exact List.mem_cons_self
      · rw [List.lookup_cons, beq_eq_false_iff_ne.mpr hkey] at h
        exact List.mem_cons_of_mem _ (ih h)

/-- A look-up keeps the entries; it only changes their order. -/
theorem mem_get {cache : GuardCache} {key : CrKey} {entry : CrKey × PolicySurface}
    (h : entry ∈ (cache.get key).2) : entry ∈ cache := by
  unfold GuardCache.get at h
  cases hlookup : List.lookup key cache with
  | none =>
      rw [hlookup] at h
      exact h
  | some surface =>
      rw [hlookup] at h
      rcases List.mem_append.mp h with h | h
      · exact (mem_pop.mp h).1
      · rw [List.mem_singleton.mp h]
        exact mem_of_lookup hlookup

theorem mem_skipGuardRelist {state : GuardState} {event : WatchEvent}
    {entry : CrKey × PolicySurface}
    (h : entry ∈ (skipGuardRelist state crNamespace event).2) :
    entry ∈ state.lastSeenSurface := by
  unfold skipGuardRelist at h
  by_cases htype : event.type ≠ .modified
  · rw [if_pos htype] at h
    exact h
  · rw [if_neg htype] at h
    by_cases hnone : state.lastState.isNone = true
    · rw [if_pos hnone] at h
      exact h
    · rw [if_neg hnone] at h
      have hmem : forall {entry}, entry ∈ (state.lastSeenSurface.get (crNamespace, event.name)).2 ->
          entry ∈ state.lastSeenSurface := fun h => mem_get h
      apply hmem
      cases hget : (state.lastSeenSurface.get (crNamespace, event.name)).1 with
      | none =>
          simp only [hget] at h
          exact h
      | some surface =>
          simp only [hget] at h
          exact h

/-- A set entry replaces that of its key; some others may be evicted. -/
theorem mem_set {cache : GuardCache} {key : CrKey} {surface : PolicySurface}
    {entry : CrKey × PolicySurface} (h : entry ∈ cache.set key surface) :
    entry = (key, surface) ∨ (entry ∈ cache ∧ entry.1 ≠ key) := by
  have hentries : entry ∈ cache.pop key ++ [(key, surface)] := by
    unfold GuardCache.set at h
    simp only [] at h
    by_cases hpresent : (List.lookup key cache).isSome = true
    · rw [if_pos hpresent] at h
      exact h
    · rw [if_neg hpresent] at h
      exact List.mem_of_mem_drop h
  rcases List.mem_append.mp hentries with hmem | hmem
  · exact Or.inr (mem_pop.mp hmem)
  · exact Or.inl (List.mem_singleton.mp hmem)

/-- What a skipped event finds: a recorded fingerprint of its name that reads as
its body, which becomes the only one of its key. -/
theorem skip_found {state : GuardState} {event : WatchEvent}
    (hskip : Skips crNamespace state event) :
    event.type = .modified ∧ exists surface,
      ((crNamespace, event.name), surface) ∈ state.lastSeenSurface ∧
      ReadsAs surface event.body ∧
      (skipGuardRelist state crNamespace event).2 =
        state.lastSeenSurface.pop (crNamespace, event.name) ++
          [((crNamespace, event.name), surface)] := by
  unfold Skips at hskip
  unfold skipGuardRelist at hskip ⊢
  by_cases htype : event.type ≠ .modified
  · rw [if_pos htype] at hskip
    cases hskip
  · rw [if_neg htype] at hskip ⊢
    by_cases hnone : state.lastState.isNone = true
    · rw [if_pos hnone] at hskip
      cases hskip
    · rw [if_neg hnone] at hskip ⊢
      unfold GuardCache.get at hskip ⊢
      cases hlookup : List.lookup (crNamespace, event.name) state.lastSeenSurface with
      | none =>
          simp only [hlookup] at hskip
          cases hskip
      | some surface =>
          simp only [hlookup] at hskip ⊢
          constructor
          · exact not_not.mp htype
          · exact ⟨surface, mem_of_lookup hlookup, readsAs_of_pyEq hskip, rfl⟩

/-!
## Steps
-/

theorem Delivered.mem_after_of_ne {crs : Delivered} {event : WatchEvent} {n : String}
    {cr : ClusterManager} (hmem : (n, cr) ∈ crs) (hne : n ≠ event.name) :
    (n, cr) ∈ crs.after event := by
  have hothers : (n, cr) ∈ crs.filter fun entry => entry.1 ≠ event.name := by
    simpa using ⟨hmem, hne⟩
  unfold Delivered.after
  simp only []
  split
  · exact hothers
  · exact List.mem_append_left _ hothers

theorem Delivered.mem_after_self (crs : Delivered) {event : WatchEvent}
    (htype : event.type ≠ .deleted) : (event.name, event.body) ∈ crs.after event := by
  unfold Delivered.after
  rw [if_neg htype]
  exact List.mem_append_right _ List.mem_cons_self

/-- Entries of other names are still those of delivered resources. -/
theorem Recorded.after {cache : GuardCache} {crs : Delivered} {event : WatchEvent}
    (h : Recorded crNamespace cache crs) {n : String} {surface : PolicySurface}
    (hmem : ((crNamespace, n), surface) ∈ cache)
    (hne : (crNamespace, n) ≠ (crNamespace, event.name)) :
    exists cr, (n, cr) ∈ crs.after event ∧ ReadsAs surface cr := by
  rcases h n surface hmem with ⟨cr, hcr, hreads⟩
  have hname : n ≠ event.name := fun heq => hne (by rw [heq])
  exact ⟨cr, Delivered.mem_after_of_ne hcr hname, hreads⟩

/-- The body of a skipped event reads as the resource that it replaces. -/
theorem Delivered.sameReadings_after {crs : Delivered} (hkeyed : Keyed crNamespace crs)
    {event : WatchEvent} (hevent : Genuine crNamespace crs event) (htype : event.type ≠ .deleted)
    {cr : ClusterManager} (hcr : (event.name, cr) ∈ crs) {surface : PolicySurface}
    (hreads : ReadsAs surface cr) (hbody : ReadsAs surface event.body) :
    SameReadings crs.items (crs.after event).items := by
  have huid : textOf cr.metadata.uid = textOf event.body.metadata.uid := by
    rw [← hreads.uid, hbody.uid]
  have hreading : reading cr = reading event.body := by
    unfold reading
    rw [hkeyed.name _ _ hcr, hkeyed.crNamespace _ _ hcr, hevent.name, hevent.crNamespace, huid,
      hevent.immutable cr hcr huid, ← hreads.redisUrlEmpty, hbody.redisUrlEmpty,
      ← hreads.secretRef, hbody.secretRef]
  have hnodup : crs.Nodup := List.Nodup.of_map _ hkeyed.nodup
  have hsplit : crs.Perm
      ((crs.filter fun entry => entry.1 ≠ event.name) ++ [(event.name, cr)]) := by
    apply (List.perm_ext_iff_of_nodup hnodup _).mpr
    · intro entry
      rw [List.mem_append, List.mem_filter, decide_eq_true_iff, List.mem_singleton]
      constructor
      · intro hmem
        by_cases hname : entry.1 = event.name
        · exact Or.inr (List.inj_on_of_nodup_map hkeyed.nodup hmem hcr hname)
        · exact Or.inl ⟨hmem, hname⟩
      · intro hmem
        rcases hmem with hmem | hmem
        · exact hmem.1
        · rw [hmem]
          exact hcr
    · rw [List.nodup_append]
      constructor
      · exact hnodup.filter _
      constructor
      · exact List.nodup_singleton _
      · intro a ha b hb heq
        rw [List.mem_filter, decide_eq_true_iff] at ha
        apply ha.2
        rw [heq, List.mem_singleton.mp hb]
  unfold SameReadings Delivered.items Delivered.after
  rw [if_neg htype, List.map_map, List.map_map]
  apply (hsplit.map _).trans
  rw [List.map_append, List.map_append, List.map_singleton, List.map_singleton]
  show (_ ++ [reading cr]).Perm (_ ++ [reading event.body])
  rw [hreading]

/-- A skipped event leaves the guard steady, and its check would have done
nothing. -/
theorem Steady.skip {state : GuardState} {crs : Delivered} {event : WatchEvent}
    (h : Steady unicode crNamespace state crs) (hns : crNamespace ≠ "")
    (hevent : Genuine crNamespace crs event) (hskip : Skips crNamespace state event) :
    WouldDoNothing unicode crNamespace state (crs.after event) ∧
      Steady unicode crNamespace
        { state with lastSeenSurface := (skipGuardRelist state crNamespace event).2 }
        (crs.after event) := by
  rcases skip_found hskip with ⟨htype, surface, hmem, hbody, hcache⟩
  have htype' : event.type ≠ .deleted := by
    rw [htype]
    exact WatchType.noConfusion
  rcases h.recorded event.name surface hmem with ⟨cr, hcr, hreads⟩
  have hkeyed := h.keyed.after hevent
  have hsame := Delivered.sameReadings_after h.keyed hevent htype' hcr hreads hbody
  have hchecked : Checked unicode state (crs.after event).items :=
    (h.checked (List.ne_nil_of_mem hmem)).of_sameReadings hsame h.keyed.namesDistinct
  constructor
  · exact hchecked.wouldDoNothing hkeyed hns
  · constructor
    · exact hkeyed
    · exact fun _ => ⟨hchecked.lastState, hchecked.datable, hchecked.urls, hchecked.secrets⟩
    · intro n surface' hmem'
      simp only [hcache] at hmem'
      rcases List.mem_append.mp hmem' with hold | hnew
      · exact h.recorded.after (mem_pop.mp hold).1 (mem_pop.mp hold).2
      · cases List.mem_singleton.mp hnew
        exact ⟨event.body, Delivered.mem_after_self crs htype', hbody⟩

/-- A check that can do its work leaves the guard steady. -/
theorem Steady.checks {state : GuardState} {crs : Delivered} {event : WatchEvent}
    {answers : CheckAnswers} (h : Steady unicode crNamespace state crs) (hns : crNamespace ≠ "")
    (hevent : Genuine crNamespace crs event) (hskip : ¬ Skips crNamespace state event)
    (hanswered : Answered unicode (crs.after event) answers) :
    Steady unicode crNamespace
      (singletonGuardEvent unicode crNamespace state event answers).state (crs.after event) := by
  have hkeyed := h.keyed.after hevent
  rcases hanswered with ⟨items, hlist, hsame, hdatable, hprobed⟩
  have hanswers : answers = { listCrs := some items, probe := answers.probe } := by
    rw [← hlist]
  have hdistinct : NamesDistinct items := hsame.symm.namesDistinct hkeyed.namesDistinct
  have hcheck : forall start : GuardState,
      Checked unicode (check unicode crNamespace start answers).state (crs.after event).items ∧
        (check unicode crNamespace start answers).raised = none ∧
        (check unicode crNamespace start answers).state.lastSeenSurface =
          start.lastSeenSurface := by
    intro start
    rw [hanswers]
    have hdone := @check_checked unicode crNamespace start items answers.probe hns hdatable hprobed
    exact ⟨hdone.1.of_sameReadings hsame hdistinct, hdone.2⟩
  unfold singletonGuardEvent
  simp only []
  by_cases hdeleted : event.type = .deleted
  · rw [if_pos hdeleted]
    rcases hcheck { state with
      lastSeenSurface := state.lastSeenSurface.pop (crNamespace, event.name) } with
      ⟨hchecked, _, hcache⟩
    constructor
    · exact hkeyed
    · exact fun _ => hchecked
    · intro n surface hmem
      rw [hcache] at hmem
      exact h.recorded.after (mem_pop.mp hmem).1 (mem_pop.mp hmem).2
  · have hnot : ¬ (skipGuardRelist state crNamespace event).1 = true := hskip
    rw [if_neg hdeleted, if_neg hnot]
    rcases hcheck { state with
      lastSeenSurface := (skipGuardRelist state crNamespace event).2 } with
      ⟨hchecked, hraised, hcache⟩
    rw [hraised, if_neg (by simp)]
    constructor
    · exact hkeyed
    · exact fun _ => ⟨hchecked.lastState, hchecked.datable, hchecked.urls, hchecked.secrets⟩
    · intro n surface hmem
      rcases mem_set hmem with hnew | ⟨hold, hne⟩
      · cases hnew
        exact ⟨event.body, Delivered.mem_after_self crs hdeleted, readsAs_self event.body⟩
      · rw [hcache] at hold
        exact h.recorded.after (mem_skipGuardRelist hold) hne

theorem Steady.run : forall (steps : List Step) {state : GuardState} {crs : Delivered},
    crNamespace ≠ "" -> Steady unicode crNamespace state crs ->
    Conforms unicode crNamespace state crs steps ->
    SkipsSound unicode crNamespace state crs steps := by
  intro steps
  induction steps with
  | nil =>
      intro state crs _ _ _
      exact True.intro
  | cons step rest ih =>
      intro state crs hns hsteady hconforms
      rcases hconforms with ⟨hevent, hanswered, hrest⟩
      by_cases hskip : Skips crNamespace state step.event
      · rcases hsteady.skip hns hevent hskip with ⟨hnothing, hafter⟩
        have hdeleted : step.event.type ≠ .deleted := by
          rw [(skip_found hskip).1]
          exact WatchType.noConfusion
        have hfound : (skipGuardRelist state crNamespace step.event).1 = true := hskip
        have hstate : (singletonGuardEvent unicode crNamespace state step.event
            step.answers).state =
              { state with lastSeenSurface := (skipGuardRelist state crNamespace step.event).2 } := by
          unfold singletonGuardEvent
          simp only []
          rw [if_neg hdeleted, if_pos hfound]
        constructor
        · exact fun _ => hnothing
        · rw [hstate] at hrest ⊢
          exact ih hns hafter hrest
      · constructor
        · exact fun h => absurd h hskip
        · exact ih hns (hsteady.checks hns hevent hskip (hanswered hskip)) hrest

/-- In every run whose checks can do their work, from a process that has
recorded no fingerprint, a skipped check would have done nothing. -/
theorem skips_sound {state : GuardState} {steps : List Step} (hns : crNamespace ≠ "")
    (hfresh : state.lastSeenSurface = []) (h : Conforms unicode crNamespace state [] steps) :
    SkipsSound unicode crNamespace state [] steps := by
  apply Steady.run steps hns _ h
  constructor
  · constructor
    · exact List.nodup_nil
    · exact fun n cr hmem => absurd hmem List.not_mem_nil
    · exact fun n cr hmem => absurd hmem List.not_mem_nil
  · exact fun hne => absurd hfresh hne
  · intro n surface hmem
    rw [hfresh] at hmem
    cases hmem

end Fingerprints

/-- A resource with a Redis URL, at a version of its status. -/
def clusterManager (redisUrl : String) (version : Nat) : ClusterManager where
  metadata := { crNamespace := some "openstudio", name := some "oscm", uid := some "u1",
                creationTimestamp := some "2024-01-01T00:00:00Z",
                resourceVersion := some (toString version) }
  spec := some [("redisUrl", .str redisUrl)]
  status := .obj [("lastRecycleAt", .str (toString version))]

def watchStep (type : WatchType) (body : ClusterManager)
    (listCrs : Option (List ClusterManager)) : Step where
  event := { type := type, name := "oscm", body := body }
  answers := { listCrs := listCrs, probe := fun _ _ => .success }

/-- An addition, then a write of the status. -/
def statusRun : List Step :=
  [watchStep .added (clusterManager "redis://queue:6379" 1)
      (some [clusterManager "redis://queue:6379" 1]),
    watchStep .modified (clusterManager "redis://queue:6379" 2)
      (some [clusterManager "redis://queue:6379" 2])]

theorem answered_clusterManager (redisUrl : String) (version : Nat)
    (crs : Delivered) (hcrs : crs.items = [clusterManager redisUrl version]) :
    Answered UnicodeData.ascii crs
      (watchStep .modified (clusterManager redisUrl version)
        (some [clusterManager redisUrl version])).answers := by
  exists [clusterManager redisUrl version]
  constructor
  · rfl
  constructor
  · unfold SameReadings
    rw [hcrs]
  constructor
  · intro cr hcr
    rw [List.mem_singleton.mp hcr]
    -- the timestamp does not depend on the rest of the resource
    have hreading : created UnicodeData.ascii (clusterManager redisUrl version) =
        created UnicodeData.ascii (clusterManager "" 0) := by
      unfold created
      rfl
    have hok : ((created UnicodeData.ascii (clusterManager "" 0)).toOption).isSome = true := by
      decide +kernel
    rw [hreading]
    cases hcreated : created UnicodeData.ascii (clusterManager "" 0) with
    | ok t => exact ⟨t, rfl⟩
    | error err =>
        rw [hcreated] at hok
        cases hok
  · intro cr _ ref _ h
    cases h

theorem skips_sound_status :
    SkipsSound UnicodeData.ascii "openstudio" {} [] statusRun :=
  skips_sound (by decide) rfl (by
    constructor
    · exact ⟨rfl, rfl, fun cr hcr => absurd hcr List.not_mem_nil⟩
    constructor
    · exact fun _ => answered_clusterManager "redis://queue:6379" 1 _ (by decide +kernel)
    constructor
    · constructor
      · rfl
      · rfl
      · intro cr hcr _
        have heq : ("oscm", cr) ∈ [("oscm", clusterManager "redis://queue:6379" 1)] := hcr
        cases List.mem_singleton.mp heq
        rfl
    constructor
    · exact fun _ => answered_clusterManager "redis://queue:6379" 2 _ (by decide +kernel)
    · exact True.intro)

/-- The Redis URL is removed while the listing fails; the fingerprint is
recorded all the same. -/
def failedListRun : List Step :=
  [watchStep .added (clusterManager "redis://queue:6379" 1)
      (some [clusterManager "redis://queue:6379" 1]),
    watchStep .modified (clusterManager "" 2) none,
    watchStep .modified (clusterManager "" 3) (some [clusterManager "" 3])]

/-- The third event is skipped, and its check would have warned. -/
theorem skip_loses_warning :
    ¬ SkipsSound UnicodeData.ascii "openstudio" {} [] failedListRun := by
  intro hsound
  have hskip : Skips "openstudio"
      (singletonGuardEvent UnicodeData.ascii "openstudio"
        (singletonGuardEvent UnicodeData.ascii "openstudio" {}
          { type := .added, name := "oscm", body := clusterManager "redis://queue:6379" 1 }
          { listCrs := some [clusterManager "redis://queue:6379" 1],
            probe := fun _ _ => .success }).state
        { type := .modified, name := "oscm", body := clusterManager "" 2 }
        { listCrs := none, probe := fun _ _ => .success }).state
      { type := .modified, name := "oscm", body := clusterManager "" 3 } := by
    show (skipGuardRelist _ _ _).1 = true
    decide +kernel
  have hnothing := hsound.2.2.1 hskip
  have hevents := (hnothing [clusterManager "" 3] (fun _ _ => .success) (List.Perm.refl _)).1
  revert hevents
  decide +kernel

end SingletonGuard
end OpenStudioOperator
