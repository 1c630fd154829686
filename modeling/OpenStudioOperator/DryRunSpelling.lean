import OpenStudioOperator.StatusStoreLaws

/-!
# Statuses up to the flag

A dry run writes `dry-run` where the live run writes `issued` or what became of
an eviction.  A status is compared in the words of the dry run, and a write of
a map entry commutes with this respelling where the respelling tells the stored
entry from the one to be written.
-/

namespace OpenStudioOperator

open Foundation

namespace DryRun

/-!
## Respelling
-/

def dryOutcome : SoftStopOutcome -> SoftStopOutcome
  | .issued => .dryRun
  | outcome => outcome

def dryAnchor (record : SoftStopRecord) : SoftStopRecord where
  issuedAt := record.issuedAt
  outcome := dryOutcome record.outcome
  escalatedAt := record.escalatedAt
  escalationOutcome := record.escalationOutcome.map fun _ => .dryRun

def dryStopOutcome : StopOutcome -> StopOutcome
  | .issued => .dryRun
  | outcome => outcome

def dryStop (record : StopRecord) : StopRecord where
  issuedAt := record.issuedAt
  outcome := dryStopOutcome record.outcome
  stoppedAt := record.stoppedAt

def dryStatus (s : Status) : Status :=
  { s with
    softStops := s.softStops.mapValues fun _ => dryAnchor
    stoppedAnalyses := s.stoppedAnalyses.mapValues fun _ => dryStop }

theorem dryOutcome_eq_watching {outcome : SoftStopOutcome} :
    dryOutcome outcome = .watching <-> outcome = .watching := by
  cases outcome with
  | issued => exact ⟨fun h => (by cases h), fun h => (by cases h)⟩
  | _ => exact Iff.rfl

theorem dryAnchor_merge (old new : SoftStopRecord) :
    dryAnchor (old.merge new) = (dryAnchor old).merge (dryAnchor new) := by
  unfold dryAnchor SoftStopRecord.merge
  cases new.escalationOutcome <;> rfl

theorem dryStop_merge (old new : StopRecord) :
    dryStop (old.merge new) = (dryStop old).merge (dryStop new) := rfl

section Alike

variable {record record' : SoftStopRecord} {stop stop' : StopRecord}

theorem issuedAt_of_dryAnchor (h : dryAnchor record = dryAnchor record') :
    record.issuedAt = record'.issuedAt := by
  have hissued := congrArg SoftStopRecord.issuedAt h
  exact hissued

theorem escalatedAt_of_dryAnchor (h : dryAnchor record = dryAnchor record') :
    record.escalatedAt = record'.escalatedAt := by
  have hescalated := congrArg SoftStopRecord.escalatedAt h
  exact hescalated

theorem watching_of_dryAnchor (h : dryAnchor record = dryAnchor record') :
    record.outcome = .watching <-> record'.outcome = .watching := by
  have houtcome := congrArg SoftStopRecord.outcome h
  have hdry : dryOutcome record.outcome = dryOutcome record'.outcome := houtcome
  rw [← dryOutcome_eq_watching, hdry, dryOutcome_eq_watching]

theorem issuedAt_of_dryStop (h : dryStop stop = dryStop stop') :
    stop.issuedAt = stop'.issuedAt := by
  have hissued := congrArg StopRecord.issuedAt h
  exact hissued

theorem stoppedAt_of_dryStop (h : dryStop stop = dryStop stop') :
    stop.stoppedAt = stop'.stoppedAt := by
  have hstopped := congrArg StopRecord.stoppedAt h
  exact hstopped

end Alike

/-!
## Map patches
-/

section MapPatch

variable {record : Type} {merge : record -> record -> record} {view : record -> record}

theorem mapValues_applyPatchEntry
    (hmerge : forall old new, view (merge old new) = merge (view old) (view new))
    (m : Dict String record) (entry : String × Option record) :
    (applyPatchEntry merge m entry).mapValues (fun _ => view) =
      applyPatchEntry merge (m.mapValues fun _ => view) (entry.1, entry.2.map view) := by
  unfold applyPatchEntry
  cases entry.2 with
  | none => exact Dict.mapValues_erase m _ entry.1
  | some r =>
      dsimp only [Option.map_some]
      rw [Dict.mapValues_set, Dict.get?_mapValues]
      congr 1
      cases m.get? entry.1 with
      | none => rfl
      | some old => exact hmerge old r

theorem mapValues_applyMapPatch
    (hmerge : forall old new, view (merge old new) = merge (view old) (view new))
    (patch : Dict String (Option record)) (m : Dict String record) :
    (applyMapPatch merge patch m).mapValues (fun _ => view) =
      applyMapPatch merge (patch.mapValues fun _ => Option.map view)
        (m.mapValues fun _ => view) := by
  have hfold : forall (entries : List (String × Option record)) (m : Dict String record),
      (entries.foldl (applyPatchEntry merge) m).mapValues (fun _ => view) =
        entries.foldl (fun m' entry => applyPatchEntry merge m' (entry.1, entry.2.map view))
          (m.mapValues fun _ => view) := by
    intro entries
    induction entries with
    | nil =>
        intro m
        rfl
    | cons entry rest ih =>
        intro m
        rw [List.foldl_cons, List.foldl_cons, ih, mapValues_applyPatchEntry hmerge]
  exact (hfold patch.entries m).trans List.foldl_map.symm

theorem evictedKeys_mapValues (protectedIds : List String) (m : Dict String record) :
    evictedKeys protectedIds (m.mapValues fun _ => view) = evictedKeys protectedIds m := by
  unfold evictedKeys
  rw [Dict.keys_mapValues, Dict.size_mapValues]

variable [DecidableEq record]

/-- Respelled, the stored entry is the one to write only if it is that one. -/
def Tells (view : record -> record) (stored encoded : Option record) : Prop :=
  stored.map view = encoded.map view -> stored = encoded

theorem buildMapPatch_mapValues {protectedIds : List String} {key : String}
    {encoded : Option record} {m : Dict String record}
    (htells : Tells view (m.get? key) encoded) :
    (buildMapPatch protectedIds key (encoded.map view) (m.mapValues fun _ => view)).1 =
      (buildMapPatch protectedIds key encoded m).1.map fun patch =>
        patch.mapValues fun _ => Option.map view := by
  have hsame : (m.mapValues fun _ => view).get? key = encoded.map view <->
      m.get? key = encoded := by
    rw [Dict.get?_mapValues]
    exact ⟨htells, fun h => congrArg (Option.map view) h⟩
  unfold buildMapPatch
  simp only [hsame, Option.isSome_map, Dict.size_mapValues, evictedKeys_mapValues, ne_eq]
  split_ifs with hcap hstored
  · -- the surviving entries are the same, respelled
    have hsurvivor : (fun k (v : record) =>
          if k ∈ evictedKeys protectedIds m then none else some (view v)) =
        fun k v => (if k ∈ evictedKeys protectedIds m then none else some v).map view := by
      funext k v
      split_ifs
      · rfl
      · rfl
    rw [Option.map_some, Dict.mapValues_set, Dict.mapValues_mapValues,
      Dict.mapValues_mapValues, hsurvivor]
  · rfl
  · rfl

end MapPatch

/-!
## Respelled fields
-/

/-- The respelling of a status acts on the map through `view`. -/
structure Respells {record : Type} (field : MapField record) (view : record -> record) : Prop where
  read : forall s, field.read (dryStatus s) = (field.read s).mapValues fun _ => view
  write : forall d s,
    dryStatus (field.write d s) = field.write (d.mapValues fun _ => view) (dryStatus s)
  merge : forall old new, view (field.merge old new) = field.merge (view old) (view new)

theorem respells_softStops : Respells softStopsField dryAnchor where
  read := fun _ => rfl
  write := fun _ _ => rfl
  merge := dryAnchor_merge

theorem respells_stoppedAnalyses : Respells stoppedAnalysesField dryStop where
  read := fun _ => rfl
  write := fun _ _ => rfl
  merge := dryStop_merge

theorem Respells.entry {record : Type} {field : MapField record}
    {view : record -> record} (hfield : Respells field view) (k : String) (s : Status) :
    field.entry k (dryStatus s) = (field.entry k s).map view := by
  unfold MapField.entry
  rw [hfield.read, Dict.get?_mapValues]

/-!
## Written entries
-/

section Written

variable {record : Type} [DecidableEq record]

/-- The status that `_set_map_entry` leaves when nobody else writes. -/
def written (field : MapField record) (protectedIds : List String) (key : String)
    (encoded : Option record) (s : Status) : Status :=
  match (buildMapPatch protectedIds key encoded (field.read s)).1 with
  | none => s
  | some patch => applyFieldPatch field patch s

variable {field : MapField record} {view : record -> record} {protectedIds : List String}
variable {key : String} {encoded encoded' : Option record} {s s' : Status}

/-- A write commutes with the respelling. -/
theorem dryStatus_written (hfield : Respells field view)
    (htells : Tells view (field.entry key s) encoded) :
    dryStatus (written field protectedIds key encoded s) =
      written field protectedIds key (encoded.map view) (dryStatus s) := by
  have hpatch : (buildMapPatch protectedIds key (encoded.map view)
        ((field.read s).mapValues fun _ => view)).1 =
      (buildMapPatch protectedIds key encoded (field.read s)).1.map fun patch =>
        patch.mapValues fun _ => Option.map view := buildMapPatch_mapValues htells
  unfold written
  rw [hfield.read, hpatch]
  cases (buildMapPatch protectedIds key encoded (field.read s)).1 with
  | none => rfl
  | some patch =>
      show dryStatus (field.write _ s) = field.write _ (dryStatus s)
      rw [hfield.write, mapValues_applyMapPatch hfield.merge, hfield.read]

/-- Two writes of entries that are spelled alike. -/
theorem written_alike (hfield : Respells field view) (h : dryStatus s = dryStatus s')
    (hencoded : encoded.map view = encoded'.map view)
    (htells : Tells view (field.entry key s) encoded)
    (htells' : Tells view (field.entry key s') encoded') :
    dryStatus (written field protectedIds key encoded s) =
      dryStatus (written field protectedIds key encoded' s') := by
  rw [dryStatus_written hfield htells, dryStatus_written hfield htells', hencoded, h]

theorem entry_written_self :
    field.entry key (written field protectedIds key encoded s) =
      encoded.map (mergeEntry field.merge (field.entry key s)) := by
  unfold written
  cases hpatch : (buildMapPatch protectedIds key encoded (field.read s)).1 with
  | none =>
      have hstored : field.entry key s = encoded := get?_of_buildMapPatch_none hpatch
      dsimp only
      rw [hstored]
      cases encoded with
      | none => rfl
      | some r => rw [Option.map_some, mergeEntry, field.merge_self]
  | some patch =>
      show (field.read (field.write _ s)).get? key = _
      rw [field.read_write, get?_applyMapPatch, get?_buildMapPatch_self hpatch]
      rfl

theorem entry_written_other {k : String} (hne : k ≠ key) :
    field.entry k (written field protectedIds key encoded s) = field.entry k s ∨
      field.entry k (written field protectedIds key encoded s) = none := by
  unfold written
  cases hpatch : (buildMapPatch protectedIds key encoded (field.read s)).1 with
  | none => exact Or.inl rfl
  | some patch =>
      show (field.read (field.write _ s)).get? k = _ ∨ (field.read (field.write _ s)).get? k = _
      rw [field.read_write]
      rcases get?_applyMapPatch_other field.merge_self hne rfl hpatch with hsame | hnone
      · exact Or.inl hsame
      · exact Or.inr hnone.1

/-- What the field's writer leaves alone is left alone. -/
theorem view_written {part : Type} {look : Status -> part}
    (hlook : forall d t, look (field.write d t) = look t) :
    look (written field protectedIds key encoded s) = look s := by
  unfold written
  cases (buildMapPatch protectedIds key encoded (field.read s)).1 with
  | none => rfl
  | some patch => exact hlook _ s

end Written

end DryRun

end OpenStudioOperator
