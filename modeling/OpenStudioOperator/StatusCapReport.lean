import OpenStudioOperator.StatusCap
import OpenStudioOperator.StatusRetry

/-!
# The report of an eviction

The keys that an attempt evicts are kept until the call ends, whatever the
later attempts do.  So the report is right when the patch that was applied
evicts and leaves its own key out, or when no attempt evicted.
-/

namespace OpenStudioOperator
namespace StatusDocument

open Foundation ReadModifyWrite

/-!
## The call
-/

/-- The write evicts: the map is at the cap and the value is a new one. -/
def Evicts (field : StatusField) (key : String) (encoded : Json)
    (ms : List (String × Json)) : Prop :=
  let entries := (getMember ms field.key).members
  !encoded.isNull ∧ statusMapMaxEntries <= entries.length ∧
    !(getMember entries key).pyEq encoded

instance decidableEvicts (field : StatusField) (key : String) (encoded : Json)
    (ms : List (String × Json)) : Decidable (Evicts field key encoded ms) :=
  inferInstanceAs (Decidable (_ ∧ _))

/-- The closure of `_set_map_entry` with its `evicted_keys`, which an attempt
without an eviction leaves as they were. -/
def buildEntry {exc : Type} (protectedIds : List String) (field : StatusField) (key : String)
    (encoded : Json) (evictedKeys : List String) (ms : List (String × Json)) :
    Except exc (Option Json × List String) :=
  .ok (entryPatch protectedIds field key encoded ms,
    if Evicts field key encoded ms then
      cappedKeys protectedIds (getMember ms field.key).members
    else evictedKeys)

/-- The keys and their number, as the Event gives them. -/
structure CapEvent where
  dropped : Nat
  keys : List String
deriving DecidableEq, Repr

/-- What `_set_map_entry` reports: the increments of `STATUS_MAP_CAPS_TOTAL` and
the `StatusMapCapped` Events. -/
structure CapReport where
  capsTotal : Nat
  events : List CapEvent
deriving DecidableEq, Repr

def reportEvictedKeys (evictedKeys : List String) : CapReport :=
  if evictedKeys.isEmpty then ⟨0, []⟩ else ⟨1, [⟨evictedKeys.length, evictedKeys⟩]⟩

section Report

variable {exc : Type} (raise : PyExc -> exc) (server : Server Json exc)
variable (protectedIds : List String) (field : StatusField) (key : String) (encoded : Json)

/-- `_set_map_entry`, up to its report. -/
def setMapEntry (status : Json) : RmwOutcome Json Json (Failure exc) (List String) :=
  mutate raise server (buildEntry protectedIds field key encoded) [] status

/-- The keys that the patches of a call took out of the map, beside its own. -/
def removedBy (out : RmwOutcome Json Json (Failure exc) (List String)) : List String :=
  (appliedPatches out).flatMap fun t =>
    removedKeys key (mapEntries field t.target) (mapEntries field (t.target.mergePatch t.sent))

/-- The report names each key that was removed, once, and no other. -/
def ReportsRemoved (out : RmwOutcome Json Json (Failure exc) (List String))
    (report : CapReport) : Prop :=
  exists removed, removed.Perm (removedBy field key out) ∧
    report = reportEvictedKeys removed

/-- The victims are what the write removes: its own key is not among them, and
no entry that stays is a null. -/
def RemovesVictims (entries : List (String × Json)) : Prop :=
  (key ∉ entries.map Prod.fst ∨ ¬ Evictable protectedIds entries key) ∧
    forall k v, (k, v) ∈ entries -> k ≠ key -> ¬ Evictable protectedIds entries k ->
      v.isNull = false

/-- The applied patch evicts and removes its victims, or no attempt evicted. -/
def ReportIsCurrent (out : RmwOutcome Json Json (Failure exc) (List String)) : Prop :=
  (exists t, t ∈ appliedPatches out ∧ Evicts field key encoded t.readState.members ∧
      RemovesVictims protectedIds key (mapEntries field t.readState)) ∨
    forall t, t ∈ out.attempts -> ¬ Evicts field key encoded t.readState.members

end Report

/-!
## What the attempts leave
-/

section Attempts

variable {exc : Type} {raise : PyExc -> exc} {server : Server Json exc}
variable {protectedIds : List String} {field : StatusField} {key : String} {encoded : Json}

theorem reportEvictedKeys_eq_iff {xs ys : List String} :
    reportEvictedKeys xs = reportEvictedKeys ys <-> xs = ys := by
  constructor
  · intro h
    unfold reportEvictedKeys at h
    cases xs with
    | nil =>
        cases ys with
        | nil => rfl
        | cons y ys => cases h
    | cons x xs =>
        cases ys with
        | nil => cases h
        | cons y ys =>
            simp only [List.isEmpty_cons, Bool.false_eq_true, if_false, CapReport.mk.injEq,
              List.cons.injEq, CapEvent.mk.injEq, true_and, and_true] at h
            rw [h.2.1, h.2.2]
  · intro h
    rw [h]

theorem reportsRemoved_iff {out : RmwOutcome Json Json (Failure exc) (List String)}
    {evictedKeys : List String} :
    ReportsRemoved field key out (reportEvictedKeys evictedKeys) <->
      evictedKeys.Perm (removedBy field key out) := by
  constructor
  · rintro ⟨removed, hperm, hreport⟩
    rw [reportEvictedKeys_eq_iff.mp hreport]
    exact hperm
  · intro hperm
    exact ⟨evictedKeys, hperm, rfl⟩

theorem entryPatch_of_evicts {ms : List (String × Json)} (h : Evicts field key encoded ms) :
    entryPatch protectedIds field key encoded ms =
      some (.obj [(field.key,
        cappedPatch protectedIds key encoded (getMember ms field.key).members)]) :=
  if_pos h

/-- A patch without an eviction names its own key only. -/
theorem entryPatch_of_not_evicts {ms : List (String × Json)}
    (h : ¬ Evicts field key encoded ms) {patch : Json}
    (hpatch : entryPatch protectedIds field key encoded ms = some patch) :
    patch = .obj [(field.key, .obj [(key, encoded)])] := by
  have hbranch : entryPatch protectedIds field key encoded ms =
      if (getMember (getMember ms field.key).members key).pyEq encoded then none
      else some (.obj [(field.key, .obj [(key, encoded)])]) := if_neg h
  rw [hbranch] at hpatch
  split at hpatch
  · cases hpatch
  · exact (Option.some.inj hpatch).symm

theorem cappedKeys_ne_nil {entries : List (String × Json)}
    (hcap : statusMapMaxEntries <= entries.length) :
    cappedKeys protectedIds entries ≠ [] := by
  intro hnil
  have hlength := @length_cappedKeys protectedIds entries hcap
  rw [hnil, List.length_nil] at hlength
  exact Nat.succ_ne_zero _ hlength.symm

/-- The builder as the retry loop calls it. -/
theorem buildFrom_entry {evictedKeys evictedKeys' : List String} {status : Json}
    {patch? : Option Json}
    (h : buildFrom raise (buildEntry protectedIds field key encoded) evictedKeys status =
      .ok (patch?, evictedKeys')) :
    patch? = entryPatch protectedIds field key encoded status.members ∧
      evictedKeys' = if Evicts field key encoded status.members then
        cappedKeys protectedIds (mapEntries field status) else evictedKeys := by
  unfold buildFrom at h
  cases hread : readStatus status with
  | error e =>
      rw [hread] at h
      cases h
  | ok ms =>
      rw [hread] at h
      have hms := readStatus_members hread
      subst hms
      cases h
      exact ⟨rfl, rfl⟩

theorem buildFrom_obj (evictedKeys : List String) (ms : List (String × Json)) :
    buildFrom raise (buildEntry protectedIds field key encoded) evictedKeys (.obj ms) =
      .ok (entryPatch protectedIds field key encoded ms,
        if Evicts field key encoded ms then
          cappedKeys protectedIds (getMember ms field.key).members
        else evictedKeys) := by
  unfold buildFrom
  rw [readStatus_obj]
  rfl

/-- After conflicts the closure remembers an eviction if any attempt evicted. -/
theorem evictedKeys_after_conflicts {status s : Json}
    {ts : List (Attempt Json Json (Failure exc))} {n m : Nat} {a₀ evictedKeys : List String}
    (h : Conflicts (failing server)
      (buildFrom raise (buildEntry protectedIds field key encoded)) n a₀ status ts m
      evictedKeys s) :
    evictedKeys = [] <->
      a₀ = [] ∧ forall t, t ∈ ts -> ¬ Evicts field key encoded t.readState.members := by
  induction h with
  | nil => simp
  | cons _ hbuild _ _ ih =>
      rw [ih, (buildFrom_entry hbuild).2, List.forall_mem_cons]
      split_ifs with hevicts
      · refine iff_of_false ?_ fun h => h.2.1 hevicts
        intro h
        exact cappedKeys_ne_nil hevicts.2.1 h.1
      · simp only [hevicts, not_false_eq_true, true_and]

/-- Other writers who act between the attempts leave documents. -/
theorem canonical_after_conflicts (hquiet : forall n s, server.beforePatch n s = s)
    (hwriters : forall n s, s.Canonical -> (server.beforeRead n s).Canonical)
    {build : List String -> Json -> Except (Failure exc) (Option Json × List String)}
    {status s : Json} {ts : List (Attempt Json Json (Failure exc))} {n m : Nat}
    {a a' : List String} (h : Conflicts (failing server) build n a status ts m a' s)
    (hcanonical : status.Canonical) : s.Canonical := by
  induction h with
  | nil => exact hcanonical
  | cons _ _ _ _ ih =>
      apply ih
      show (server.beforePatch _ (server.beforeRead _ _)).Canonical
      rw [hquiet]
      exact hwriters _ _ hcanonical

/-- At the cap the victims are exactly what is removed when the written key is
not one of them and no null is left. -/
theorem cappedKeys_perm_removedKeys_iff {entries : List (String × Json)}
    (h : Members.Sorted entries) (hcap : statusMapMaxEntries <= entries.length) :
    (cappedKeys protectedIds entries).Perm
        (removedKeys key entries (cappedEntries protectedIds key encoded entries)) <->
      RemovesVictims protectedIds key entries := by
  constructor
  · intro hperm
    constructor
    · by_cases hkey : key ∈ entries.map Prod.fst
      · right
        intro hevictable
        have hvictim := (mem_cappedKeys_iff h hcap hkey).mpr hevictable
        have hremoved := hperm.mem_iff.mp hvictim
        rw [removedKeys_eq_filter] at hremoved
        exact (mem_otherKeys.mp (List.mem_of_mem_filter hremoved)).2 rfl
      · exact Or.inl hkey
    · intro k v hentry hne hevictable
      have hmem : k ∈ entries.map Prod.fst := List.mem_map.mpr ⟨_, hentry, rfl⟩
      by_contra hnull
      apply hevictable
      rw [← mem_cappedKeys_iff h hcap hmem, hperm.mem_iff, removedKeys_eq_filter,
        List.mem_filter]
      refine ⟨mem_otherKeys.mpr ⟨hmem, hne⟩, ?_⟩
      rw [lookup_capped_survivor h hcap hentry hne hevictable, Json.mergedMember,
        if_pos (by simpa using hnull)]
      rfl
  · rintro ⟨hkey, hsurvivors⟩
    rw [removedKeys_capped h hcap hsurvivors]
    rw [List.perm_ext_iff_of_nodup (nodup_cappedKeys h) (nodup_victims h)]
    intro k
    unfold victims
    rw [List.mem_filter, decide_eq_true_eq, mem_otherKeys]
    constructor
    · intro hk
      refine ⟨⟨mem_cappedKeys hk, ?_⟩, hk⟩
      intro heq
      subst heq
      rcases hkey with hnew | hspared
      · exact hnew (mem_cappedKeys hk)
      · exact hspared ((mem_cappedKeys_iff h hcap (mem_cappedKeys hk)).mp hk)
    · intro hk
      exact hk.2

end Attempts

/-- A call that returns reports exactly what it removed if and only if its
applied patch evicts and removes its victims, or none of its attempts evicted. -/
theorem eviction_report_iff {exc : Type} (raise : PyExc -> exc) (server : Server Json exc)
    (protectedIds : List String) (field : StatusField) (key : String) (encoded : Json)
    (status : Json) (hcanonical : status.Canonical)
    (hquiet : forall n s, server.beforePatch n s = s)
    (hwriters : forall n s, s.Canonical -> (server.beforeRead n s).Canonical)
    (evictedKeys : List String)
    (hreturns : (setMapEntry raise server protectedIds field key encoded status).result =
      .ok evictedKeys) :
    ReportsRemoved field key (setMapEntry raise server protectedIds field key encoded status)
        (reportEvictedKeys evictedKeys) <->
      ReportIsCurrent protectedIds field key encoded
        (setMapEntry raise server protectedIds field key encoded status) := by
  rw [reportsRemoved_iff]
  rcases run_returned_cases hreturns with
    ⟨earlier, last, m, a, s, hattempts, _, hconflicts, hread, hbuild, htarget, happlied, _⟩ |
      ⟨m, a, s, hconflicts, _, hbuild, happlied, _⟩
  · have hlastDoc : last.readState.Canonical := by
      rw [hread]
      exact hwriters _ _ (canonical_after_conflicts hquiet hwriters hconflicts hcanonical)
    have hmet : last.target = last.readState := by
      rw [htarget]
      exact hquiet _ _
    have hall : (setMapEntry raise server protectedIds field key encoded status).attempts =
        earlier ++ [last] := hattempts
    have hone : appliedPatches
        (setMapEntry raise server protectedIds field key encoded status) = [last] := happlied
    have hremovedBy : removedBy field key
        (setMapEntry raise server protectedIds field key encoded status) =
          removedKeys key (mapEntries field last.readState)
            (mapEntries field (last.readState.mergePatch last.sent)) := by
      rw [removedBy, hone, List.flatMap_singleton, hmet]
    have hevicted := evictedKeys_after_conflicts hconflicts
    rcases buildFrom_entry hbuild with ⟨hpatch, hkeys⟩
    rw [hremovedBy]
    by_cases hevicts : Evicts field key encoded last.readState.members
    · rw [if_pos hevicts] at hkeys
      rw [entryPatch_of_evicts hevicts, Option.some.injEq] at hpatch
      have hafter : mapEntries field (last.readState.mergePatch last.sent) =
          cappedEntries protectedIds key encoded (mapEntries field last.readState) := by
        rw [hpatch]
        exact mapEntries_capped
      rw [hkeys, hafter, cappedKeys_perm_removedKeys_iff
        (sorted_mapEntries hlastDoc field) hevicts.2.1]
      constructor
      · intro hremoves
        exact Or.inl ⟨last, by rw [hone]; exact List.mem_singleton_self _, hevicts, hremoves⟩
      · rintro (⟨t, ht, _, hremoves⟩ | hnone)
        · rw [hone] at ht
          rw [List.mem_singleton.mp ht] at hremoves
          exact hremoves
        · exact absurd hevicts (hnone last (by rw [hall]; simp))
    · rw [if_neg hevicts] at hkeys
      have hsent := entryPatch_of_not_evicts hevicts hpatch.symm
      rw [hsent, mapEntries_merge, removedKeys_single, List.perm_nil, hkeys, hevicted]
      constructor
      · rintro ⟨_, hnone⟩
        right
        intro t ht
        rw [hall] at ht
        rcases List.mem_append.mp ht with hearlier | hlast
        · exact hnone t hearlier
        · rw [List.mem_singleton.mp hlast]
          exact hevicts
      · rintro (⟨t, ht, hevicts', _⟩ | hnone)
        · rw [hone] at ht
          rw [List.mem_singleton.mp ht] at hevicts'
          exact absurd hevicts' hevicts
        · refine ⟨rfl, fun t ht => hnone t ?_⟩
          rw [hall]
          exact List.mem_append_left _ ht
  · have hnothing : appliedPatches
        (setMapEntry raise server protectedIds field key encoded status) = [] := happlied
    rcases buildFrom_entry hbuild with ⟨hpatch, hkeys⟩
    have hevicts : ¬ Evicts field key encoded ((failing server).beforeRead m s).members := by
      intro hevicts
      rw [entryPatch_of_evicts hevicts] at hpatch
      cases hpatch
    rw [if_neg hevicts] at hkeys
    rw [removedBy, hnothing, List.flatMap_nil, List.perm_nil, hkeys,
      evictedKeys_after_conflicts hconflicts, ReportIsCurrent, hnothing]
    constructor
    · rintro ⟨_, hnone⟩
      exact Or.inr hnone
    · rintro (⟨t, ht, _⟩ | hnone)
      · cases ht
      · exact ⟨rfl, hnone⟩

/-- The full map is read by the first attempt, and an empty one by the others;
the first answers `first`, the others accept. -/
def emptiedServer (first : PatchAnswer PyExc) : Server Json PyExc where
  beforeRead := fun n s => if n = 1 then s else .obj []
  read := fun _ => none
  beforePatch := fun _ s => s
  patch := fun n => if n = 1 then first else .ok

theorem evicts_fullStatus :
    Evicts .softStops "a" (anchorEntry "watching") fullStatus.members := by
  refine ⟨rfl, le_of_eq length_fullEntries.symm, ?_⟩
  have habsent : getMember (getMember fullStatus.members StatusField.softStops.key).members
      "a" = .null := getMember_fullEntries
  rw [habsent]
  decide +kernel

/-- The first attempt on the full map computes an eviction. -/
theorem buildFrom_fullStatus :
    buildFrom id (buildEntry [] .softStops "a" (anchorEntry "watching")) [] fullStatus =
      .ok (some (.obj [(StatusField.softStops.key,
        cappedPatch [] "a" (anchorEntry "watching") fullEntries)]),
        cappedKeys [] fullEntries) := by
  have hevicts : Evicts .softStops "a" (anchorEntry "watching")
      [(StatusField.softStops.key, .obj fullEntries)] := evicts_fullStatus
  rw [fullStatus, buildFrom_obj, entryPatch_of_evicts hevicts, if_pos hevicts]
  rfl

theorem eviction_report_applied :
    exists evictedKeys,
      (setMapEntry id (emptiedServer .ok) [] .softStops "a" (anchorEntry "watching")
        fullStatus).result = .ok evictedKeys ∧
      ReportsRemoved .softStops "a"
        (setMapEntry id (emptiedServer .ok) [] .softStops "a" (anchorEntry "watching")
          fullStatus) (reportEvictedKeys evictedKeys) := by
  have hrun := @run_of_course _ _ _ _ (failing (emptiedServer .ok))
    (fun patch s => Json.mergePatch s patch) _ .statusStoreConflictError 1 _ _ _ _ _ _
    .nil maxConflictRetries (Nat.succ_pos 4) _ (.accepted rfl buildFrom_fullStatus rfl)
  have hresult : (setMapEntry id (emptiedServer .ok) [] .softStops "a"
      (anchorEntry "watching") fullStatus).result = .ok (cappedKeys [] fullEntries) :=
    congrArg RmwOutcome.result hrun
  have happlied : appliedPatches (setMapEntry id (emptiedServer .ok) [] .softStops "a"
      (anchorEntry "watching") fullStatus) = _ := congrArg appliedPatches hrun
  refine ⟨_, hresult, ?_⟩
  apply (eviction_report_iff id (emptiedServer .ok) [] .softStops "a"
    (anchorEntry "watching") fullStatus canonical_fullStatus (fun _ _ => rfl) ?_ _ hresult).mpr
  · refine Or.inl ⟨_, by rw [happlied]; exact List.mem_singleton_self _, evicts_fullStatus, ?_⟩
    refine ⟨Or.inl not_mem_fullEntries, ?_⟩
    intro k v hentry _ _
    rcases List.mem_map.mp hentry with ⟨w, _, hw⟩
    cases hw
    rfl
  · intro n s hs
    show (if n = 1 then s else Json.obj []).Canonical
    split_ifs
    · exact hs
    · exact ⟨List.Pairwise.nil, trivial⟩

/-- An eviction that a conflict undid is reported when the retry evicts nothing. -/
theorem eviction_report_counterexample :
    exists evictedKeys,
      (setMapEntry id (emptiedServer .conflict) [] .softStops "a" (anchorEntry "watching")
        fullStatus).result = .ok evictedKeys ∧
      ¬ ReportsRemoved .softStops "a"
        (setMapEntry id (emptiedServer .conflict) [] .softStops "a" (anchorEntry "watching")
          fullStatus) (reportEvictedKeys evictedKeys) := by
  have hretry : buildFrom id (buildEntry [] .softStops "a" (anchorEntry "watching"))
      (cappedKeys [] fullEntries) (.obj []) =
        .ok (some (.obj [(StatusField.softStops.key,
          .obj [("a", anchorEntry "watching")])]), cappedKeys [] fullEntries) := by
    have hspares : ¬ Evicts .softStops "a" (anchorEntry "watching") [] := by
      intro hevicts
      exact absurd hevicts.2.1 (Nat.not_le_of_lt statusMapMaxEntries_pos)
    have hpatch : entryPatch [] .softStops "a" (anchorEntry "watching") [] =
        some (.obj [(StatusField.softStops.key, .obj [("a", anchorEntry "watching")])]) := by
      decide +kernel
    rw [buildFrom_obj, hpatch, if_neg hspares]
  have hrun := @run_of_course _ _ _ _ (failing (emptiedServer .conflict))
    (fun patch s => Json.mergePatch s patch) _ .statusStoreConflictError 1 _ _ _ _ _ _
    (.cons rfl buildFrom_fullStatus rfl .nil) maxConflictRetries
    (Nat.succ_lt_succ (Nat.succ_pos 3)) _ (.accepted rfl hretry rfl)
  have hresult : (setMapEntry id (emptiedServer .conflict) [] .softStops "a"
      (anchorEntry "watching") fullStatus).result = .ok (cappedKeys [] fullEntries) :=
    congrArg RmwOutcome.result hrun
  have hremoved : removedBy .softStops "a" (setMapEntry id (emptiedServer .conflict) []
      .softStops "a" (anchorEntry "watching") fullStatus) = [] :=
    (congrArg (removedBy .softStops "a") hrun).trans rfl
  refine ⟨_, hresult, ?_⟩
  rw [reportsRemoved_iff, hremoved, List.perm_nil]
  exact cappedKeys_ne_nil (le_of_eq length_fullEntries.symm)

end StatusDocument
end OpenStudioOperator
