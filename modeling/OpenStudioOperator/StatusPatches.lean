import OpenStudioOperator.StatusDocument

/-!
# What the patches of the store touch

How the document is read after a patch, and for every mutation the members
that its patch names.
-/

namespace OpenStudioOperator
namespace StatusDocument

open Foundation

/-!
## Maps and entries
-/

section Entries

variable {status : Json} {field : StatusField} {ms entries : List (String × Json)}

theorem readStatus_members (h : readStatus status = .ok ms) : ms = status.members := by
  unfold readStatus at h
  cases status with
  | obj members =>
      cases members with
      | nil => exact (Except.ok.inj h).symm
      | cons m rest => exact (Except.ok.inj h).symm
  | _ =>
      split at h
      · cases h
      · exact (Except.ok.inj h).symm

theorem readStatus_obj (ms : List (String × Json)) : readStatus (.obj ms) = .ok ms := by
  cases ms <;> rfl

/-- A map that can be read is the members of its field. -/
theorem readMap_ok (h : readMap field status = .ok entries) :
    readStatus status = .ok status.members ∧
      entries = (getMember status.members field.key).members := by
  unfold readMap at h
  cases hread : readStatus status with
  | error e =>
      rw [hread] at h
      cases h
  | ok ms =>
      rw [hread] at h
      have hms := readStatus_members hread
      subst hms
      refine ⟨rfl, ?_⟩
      simp only [bind, Except.bind] at h
      cases hraw : getMember status.members field.key with
      | obj members =>
          rw [hraw] at h
          cases members with
          | nil => exact (Except.ok.inj h).symm
          | cons m rest => exact (Except.ok.inj h).symm
      | _ =>
          rw [hraw] at h
          split at h
          · cases h
          · exact (Except.ok.inj h).symm

theorem readMap_obj (h : getMember ms field.key = .obj entries) :
    readMap field (.obj ms) = .ok entries := by
  unfold readMap
  rw [readStatus_obj]
  simp only [bind, Except.bind, h]
  cases entries <;> rfl

/-- A patch of one map leaves that map with the patch merged into it. -/
theorem readMap_merge {patch : List (String × Json)}
    (h : readMap field status = .ok entries) :
    readMap field (status.mergePatch (.obj [(field.key, .obj patch)])) =
      .ok (Json.mergeMembers entries patch) := by
  rw [Json.mergePatch]
  apply readMap_obj
  unfold getMember
  rw [Json.lookup_mergeMembers _ _ _ (List.pairwise_singleton _ _), List.lookup_cons_self,
    (readMap_ok h).2]
  rfl

theorem sorted_cappedPatch (protectedIds : List String) (key : String) (encoded : Json)
    (h : Members.Sorted entries) :
    Members.Sorted (cappedPatch protectedIds key encoded entries).members := by
  apply Members.sorted_insert
  unfold Members.Sorted
  rw [List.pairwise_map]
  exact h

theorem sorted_readMap (hcanonical : status.Canonical)
    (h : readMap field status = .ok entries) : Members.Sorted entries := by
  rw [(readMap_ok h).2]
  unfold getMember
  cases hlookup : status.members.lookup field.key with
  | none => exact List.Pairwise.nil
  | some v => exact (hcanonical.members.2.lookup hlookup).members.1

/-- `_set_map_entry` skips what is stored already, sends its one key, or at the
cap rewrites the map. -/
theorem entryPatch_cases (protectedIds : List String) (field : StatusField) (key : String)
    (encoded : Json) (ms : List (String × Json)) :
    ((getMember (getMember ms field.key).members key).pyEq encoded = true ∧
      entryPatch protectedIds field key encoded ms = none) ∨
    ((getMember (getMember ms field.key).members key).pyEq encoded = false ∧
      (encoded.isNull = true ∨
        (getMember ms field.key).members.length < statusMapMaxEntries) ∧
      entryPatch protectedIds field key encoded ms =
        some (.obj [(field.key, .obj [(key, encoded)])])) ∨
    ((getMember (getMember ms field.key).members key).pyEq encoded = false ∧
      encoded.isNull = false ∧
      statusMapMaxEntries <= (getMember ms field.key).members.length ∧
      entryPatch protectedIds field key encoded ms =
        some (.obj [(field.key,
          cappedPatch protectedIds key encoded (getMember ms field.key).members)])) := by
  unfold entryPatch
  cases hsame : (getMember (getMember ms field.key).members key).pyEq encoded with
  | true => simp [hsame]
  | false =>
      cases hnull : encoded.isNull with
      | true => simp [hsame]
      | false =>
          by_cases hcap : statusMapMaxEntries <= (getMember ms field.key).members.length
          · simp [hsame, hcap]
          · simp [hsame, hcap, Nat.lt_of_not_le hcap]

end Entries

/-!
## Frames
-/

/-- The members of the status that a mutation may write. -/
def StoreMutation.fields : StoreMutation -> List String
  | .setSoftStop _ _ => [StatusField.softStops.key]
  | .markSoftStopEscalated _ _ _ => [StatusField.softStops.key]
  | .clearSoftStop _ => [StatusField.softStops.key]
  | .setRequeue _ _ => [StatusField.requeues.key]
  | .setStartedSince _ _ => [StatusField.startedSince.key]
  | .clearStartedSince _ => [StatusField.startedSince.key]
  | .setArchivedAnalysis _ _ => [StatusField.archivedAnalyses.key]
  | .clearArchivedAnalysis _ => [StatusField.archivedAnalyses.key]
  | .setStopRecord _ _ => [StatusField.stoppedAnalyses.key]
  | .pruneStopRecord _ => [StatusField.stoppedAnalyses.key]
  | .appendDeferredEvent _ _ => [deferredEventsKey]
  | .clearDeferredEvents => [deferredEventsKey]
  | .setLastRecycleAt _ => [lastRecycleAtKey]
  | .setLastWebBackgroundRestartAt _ => [lastWebBackgroundRestartKey]
  | .setStallWindowStartedAt _ => [stallWindowStartedAtKey]
  | .setWebBackgroundIneffectiveRestarts _ => [webBackgroundIneffectiveRestartsKey]
  | .prune _ _ =>
      [StatusField.softStops.key, StatusField.archivedAnalyses.key,
        StatusField.stoppedAnalyses.key, StatusField.requeues.key,
        StatusField.startedSince.key]

/-- A patch of the named members. -/
def PatchOf (keys : List String) (patch : Json) : Prop :=
  exists members, patch = .obj members ∧ Members.Sorted members ∧
    forall m, m ∈ members -> m.1 ∈ keys

section Frames

variable {unicode : UnicodeData} {ms : List (String × Json)} {patch : Json}

theorem patchOf_member (key : String) (v : Json) : PatchOf [key] (.obj [(key, v)]) := by
  refine ⟨_, rfl, List.pairwise_singleton _ _, ?_⟩
  intro m hm
  rw [List.mem_singleton.mp hm]
  exact List.mem_singleton_self key

theorem patchOf_entryPatch {protectedIds : List String} {field : StatusField} {key : String}
    {encoded : Json} (h : entryPatch protectedIds field key encoded ms = some patch) :
    PatchOf [field.key] patch := by
  rcases entryPatch_cases protectedIds field key encoded ms with
    ⟨_, hskip⟩ | ⟨_, _, hsent⟩ | ⟨_, _, _, hsent⟩
  · rw [hskip] at h
    cases h
  · rw [hsent] at h
    cases h
    exact patchOf_member _ _
  · rw [hsent] at h
    cases h
    exact patchOf_member _ _

theorem patchOf_scalarPatch {key : String} {encoded : Json}
    (h : scalarPatch key encoded ms = some patch) : PatchOf [key] patch := by
  unfold scalarPatch at h
  split at h
  · cases h
  · cases h
    exact patchOf_member _ _

theorem patchOf_escalationPatch {id outcome : String} {at' : Instant}
    (h : escalationPatch unicode id at' outcome ms = .ok (some patch)) :
    PatchOf [StatusField.softStops.key] patch := by
  unfold escalationPatch at h
  split at h
  · simp only at h
    split at h
    · cases h
    · cases h
      exact patchOf_member _ _
  · cases h

/-- The deferred events that the store reads. -/
def storedEvents (ms : List (String × Json)) : List Json :=
  match getMember ms deferredEventsKey with
  | .arr items => items
  | _ => []

/-- An event is appended unless the list is full. -/
theorem appendPatch_cases (entry : List (String × String)) (maxEntries : Option Nat)
    (ms : List (String × Json)) :
    ((exists limit, maxEntries = some limit ∧ limit <= (storedEvents ms).length) ∧
      appendPatch entry maxEntries ms = none) ∨
    ((forall limit, maxEntries = some limit -> (storedEvents ms).length < limit) ∧
      appendPatch entry maxEntries ms =
        some (.obj [(deferredEventsKey, .arr (storedEvents ms ++ [encodeEvent entry]))])) := by
  have heq : appendPatch entry maxEntries ms =
      if maxEntries.any fun limit => decide (limit <= (storedEvents ms).length) then none
      else some (.obj [(deferredEventsKey, .arr (storedEvents ms ++ [encodeEvent entry]))]) :=
    rfl
  rw [heq]
  cases maxEntries with
  | none => simp
  | some limit =>
      by_cases hfull : limit <= (storedEvents ms).length
      · simp [hfull]
      · simp [hfull, Nat.lt_of_not_le hfull]

theorem patchOf_appendPatch {entry : List (String × String)} {maxEntries : Option Nat}
    (h : appendPatch entry maxEntries ms = some patch) : PatchOf [deferredEventsKey] patch := by
  rcases appendPatch_cases entry maxEntries ms with ⟨_, hskip⟩ | ⟨_, hsent⟩
  · rw [hskip] at h
    cases h
  · rw [hsent] at h
    cases h
    exact patchOf_member _ _

theorem patchOf_clearPatch (h : clearPatch ms = some patch) :
    PatchOf [deferredEventsKey] patch := by
  unfold clearPatch at h
  split at h
  · cases h
    exact patchOf_member _ _
  · cases h

/-- The members of a fold of insertions are sorted and come from the list. -/
theorem sorted_foldl_insert : forall (entries start : List (String × Json)),
    Members.Sorted start ->
    Members.Sorted (entries.foldl (fun ms m => Members.insert m.1 m.2 ms) start) ∧
      forall m, m ∈ entries.foldl (fun ms m => Members.insert m.1 m.2 ms) start ->
        m ∈ entries ∨ m ∈ start
  | [], start, hsorted => ⟨hsorted, fun _ hm => Or.inr hm⟩
  | (k, v) :: rest, start, hsorted => by
      rcases sorted_foldl_insert rest (Members.insert k v start)
        (Members.sorted_insert hsorted) with ⟨hfold, hmem⟩
      refine ⟨hfold, ?_⟩
      intro m hm
      rcases hmem m hm with hrest | hstart
      · exact Or.inl (List.mem_cons_of_mem _ hrest)
      · rcases Members.mem_insert hstart with hnew | hold
        · rw [hnew]
          exact Or.inl List.mem_cons_self
        · exact Or.inr hold

theorem scopePatch_key {scope : StatusField × Option (List String)} {entry : String × Json}
    (h : scopePatch ms scope = some entry) : entry.1 = scope.1.key := by
  unfold scopePatch at h
  split at h
  · cases h
  · simp only at h
    split at h
    · cases h
    · cases h
      rfl

theorem patchOf_prunePatch {liveAnalysisIds liveDatapointIds : Option (List String)}
    (h : prunePatch liveAnalysisIds liveDatapointIds ms = some patch) :
    PatchOf (StoreMutation.prune liveAnalysisIds liveDatapointIds).fields patch := by
  unfold prunePatch at h
  simp only at h
  split at h
  · cases h
  · cases h
    rcases sorted_foldl_insert
      ((pruneScopes liveAnalysisIds liveDatapointIds).filterMap (scopePatch ms)) []
      List.Pairwise.nil with ⟨hsorted, hmem⟩
    refine ⟨_, rfl, hsorted, ?_⟩
    intro m hm
    rcases hmem m hm with hdeletion | hnil
    · rcases List.mem_filterMap.mp hdeletion with ⟨scope, hscope, hentry⟩
      rw [scopePatch_key hentry]
      have hfields : (pruneScopes liveAnalysisIds liveDatapointIds).map (fun s => s.1.key) =
          (StoreMutation.prune liveAnalysisIds liveDatapointIds).fields := rfl
      rw [← hfields]
      exact List.mem_map_of_mem hscope
    · cases hnil

/-- The patch of a mutation names only the members it may write. -/
theorem patchOf_buildPatch {protectedIds : StatusField -> List String} {op : StoreMutation}
    (h : op.buildPatch unicode protectedIds ms = .ok (some patch)) :
    PatchOf op.fields patch := by
  cases op with
  | markSoftStopEscalated id at' outcome => exact patchOf_escalationPatch h
  | appendDeferredEvent entry maxEntries => exact patchOf_appendPatch (Except.ok.inj h)
  | clearDeferredEvents => exact patchOf_clearPatch (Except.ok.inj h)
  | setLastRecycleAt at' => exact patchOf_scalarPatch (Except.ok.inj h)
  | setLastWebBackgroundRestartAt at' => exact patchOf_scalarPatch (Except.ok.inj h)
  | setStallWindowStartedAt at' => exact patchOf_scalarPatch (Except.ok.inj h)
  | setWebBackgroundIneffectiveRestarts count => exact patchOf_scalarPatch (Except.ok.inj h)
  | prune liveAnalysisIds liveDatapointIds => exact patchOf_prunePatch (Except.ok.inj h)
  | _ => exact patchOf_entryPatch (Except.ok.inj h)

end Frames

end StatusDocument
end OpenStudioOperator
