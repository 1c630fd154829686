import OpenStudioOperator.StatusPatches

/-!
# Reading a corrupt status

The tick wrapper skips a tick on a `StatusStoreError`.  This module says for
which documents the getters raise nothing else.
-/

namespace OpenStudioOperator
namespace StatusDocument

open Foundation

/-!
## Contained failures
-/

/-- The call returns a value with the property, or raises a `StatusStoreError`. -/
def Contained {alpha : Type} (property : alpha -> Prop) : Except PyExc alpha -> Prop
  | .ok a => property a
  | .error (.statusStoreError _) => True
  | .error _ => False

section Contained

variable {alpha beta : Type}

theorem contained_pure {property : alpha -> Prop} {a : alpha} :
    Contained property (pure a) <-> property a :=
  Iff.rfl

theorem contained_bind {property : beta -> Prop} {x : Except PyExc alpha}
    {f : alpha -> Except PyExc beta} :
    Contained property (x >>= f) <-> Contained (fun a => Contained property (f a)) x := by
  cases x with
  | ok a => exact Iff.rfl
  | error e => cases e <;> exact Iff.rfl

theorem contained_map {property : beta -> Prop} {x : Except PyExc alpha} {f : alpha -> beta} :
    Contained property (x.map f) <-> Contained (fun a => property (f a)) x := by
  cases x with
  | ok a => exact Iff.rfl
  | error e => cases e <;> exact Iff.rfl

theorem Contained.mono {property property' : alpha -> Prop} {x : Except PyExc alpha}
    (h : Contained property x) (himp : forall a, property a -> property' a) :
    Contained property' x := by
  cases x with
  | ok a => exact himp a h
  | error e => cases e <;> exact h

/-- Every item is decoded, or one of them ends the loop with an error of the store. -/
theorem contained_mapM {property : beta -> Prop} {f : alpha -> Except PyExc beta} :
    forall items : List alpha, (forall item, item ∈ items -> Contained property (f item)) ->
      Contained (fun results => forall b, b ∈ results -> property b) (items.mapM f)
  | [], _ => by
      rw [List.mapM_nil, contained_pure]
      intro b hb
      cases hb
  | item :: rest, h => by
      rw [List.mapM_cons, contained_bind]
      apply (h item List.mem_cons_self).mono
      intro b hb
      rw [contained_bind]
      apply (contained_mapM rest fun item hitem => h item (List.mem_cons_of_mem _ hitem)).mono
      intro results hresults
      rw [contained_pure]
      intro b' hb'
      rcases List.mem_cons.mp hb' with heq | hrest
      · rw [heq]
        exact hb
      · exact hresults b' hrest

end Contained

/-!
## Well-shaped values
-/

/-- A timestamp text with its `Z` spelled out. -/
def normalized (text : String) : String :=
  if text.toList.getLast? = some 'Z' then
    String.ofList (text.toList.dropLast ++ "+00:00".toList)
  else text

/-- The instant of a timestamp, as if the calendar had no end. -/
def utcOf (stamp : IsoFormat.Stamp) : Instant :=
  stamp.wall - stamp.offset.getD 0

/-- Null, or a text; and where the text is a timestamp, one within the calendar
in UTC too. -/
def TimeShaped (v : Json) : Prop :=
  v = .null ∨ exists text, v = .str text ∧
    forall stamp, IsoFormat.parse (normalized text) = some stamp -> Representable (utcOf stamp)

/-- A timestamp within the calendar. -/
def IsTime (v : Json) : Prop :=
  exists text stamp, v = .str text ∧ IsoFormat.parse (normalized text) = some stamp ∧
    Representable (utcOf stamp)

/-- What `int` converts. -/
def CountShaped (unicode : UnicodeData) : Json -> Prop
  | .int _ => True
  | .bool _ => True
  | .float (.finite _ _) => True
  | .str text => (pyInt unicode text).isSome = true
  | _ => False

def TextOrNull (v : Json) : Prop :=
  v = .null ∨ exists text, v = .str text

/-- An entry with `issuedAt`, `outcome` and one optional timestamp.  A member is
reached only when those before it were read. -/
def AnchorShaped (optionalKey : String) (raw : Json) : Prop :=
  forall ms issued, raw = .obj ms -> ms.lookup "issuedAt" = some issued ->
    TimeShaped issued ∧
      (IsTime issued -> (ms.lookup "outcome").isSome = true ->
        TimeShaped (getMember ms optionalKey))

def RequeueShaped (unicode : UnicodeData) (raw : Json) : Prop :=
  forall ms count, raw = .obj ms -> ms.lookup "count" = some count ->
    CountShaped unicode count ∧
      forall last, ms.lookup "lastRequeuedAt" = some last -> TimeShaped last

def ArchiveShaped (raw : Json) : Prop :=
  forall ms, raw = .obj ms -> (ms.lookup "backend").isSome = true ->
    TimeShaped (getMember ms "verifiedAt") ∧
      (getMember ms "verifiedAt" = .null ∨ IsTime (getMember ms "verifiedAt") ->
        TimeShaped (getMember ms "spawnedAt") ∧
          (getMember ms "spawnedAt" = .null ∨ IsTime (getMember ms "spawnedAt") ->
            TextOrNull (getMember ms "bucket")))

def EntryShaped (unicode : UnicodeData) : StatusField -> Json -> Prop
  | .softStops => AnchorShaped "escalatedAt"
  | .requeues => RequeueShaped unicode
  | .startedSince => TimeShaped
  | .archivedAnalyses => ArchiveShaped
  | .stoppedAnalyses => AnchorShaped "stoppedAt"

/-- False, so that it stands for an empty object, or an object. -/
def ObjectLike (status : Json) : Prop :=
  status.truthy = false ∨ exists ms, status = .obj ms

/-- A status without a value that a getter trips over. -/
structure StatusShaped (unicode : UnicodeData) (status : Json) : Prop where
  object : ObjectLike status
  entries : forall field entry,
    entry ∈ (getMember status.members (StatusField.key field)).members ->
      EntryShaped unicode field entry.2
  lastRecycleAt : TimeShaped (getMember status.members lastRecycleAtKey)
  lastWebBackgroundRestart : TimeShaped (getMember status.members lastWebBackgroundRestartKey)
  stallWindowStartedAt : TimeShaped (getMember status.members stallWindowStartedAtKey)

/-- What a getter returns has the declared types; only the bucket of an archive
is not converted. -/
def Value.WellTyped : Value -> Prop
  | .archivedAnalyses records => forall entry, entry ∈ records -> TextOrNull entry.2.bucket
  | .archivedAnalysis (some record) => TextOrNull record.bucket
  | _ => True

/-!
## Decoding
-/

section Decoding

variable {unicode : UnicodeData} {context : String}

theorem contained_expectObject {property : List (String × Json) -> Prop} {raw : Json} :
    Contained property (expectObject context raw) <-> forall ms, raw = .obj ms -> property ms := by
  cases raw with
  | obj ms => simp [expectObject, Contained]
  | _ => simp [expectObject, Contained]

theorem contained_required {property : Json -> Prop} {ms : List (String × Json)} {key : String} :
    Contained property (required unicode ms key context) <->
      forall v, ms.lookup key = some v -> property v := by
  unfold required
  cases ms.lookup key with
  | none => simp [Contained]
  | some v => simp [Contained]

theorem contained_strOf {property : String -> Prop} {v : Json} :
    Contained property (strOf unicode v) <-> property (v.pyStr unicode) :=
  Iff.rfl

theorem contained_intOf {property : Prop} {v : Json} :
    Contained (fun _ => property) (intOf unicode v) <-> CountShaped unicode v ∧ property := by
  cases v with
  | float x => cases x <;> simp [intOf, CountShaped, Contained]
  | str text => cases h : pyInt unicode text <;> simp [intOf, CountShaped, Contained, h]
  | _ => simp [intOf, CountShaped, Contained]

/-- `_parse_utc` of a text. -/
theorem parseUtc_str (text : String) :
    parseUtc unicode context (.str text) =
      match IsoFormat.parse (normalized text) with
      | none => .error (.statusStoreError
          (context ++ ": " ++ ("unparseable timestamp " ++ reprStr unicode text)))
      | some stamp =>
          if Representable (utcOf stamp) then .ok (utcOf stamp)
          else .error (.overflowError "date value out of range") := by
  unfold parseUtc parseIsoUtc normalized
  simp only [Json.isNull, Bool.false_eq_true, if_false]
  cases IsoFormat.parse (if text.toList.getLast? = some 'Z' then
      String.ofList (text.toList.dropLast ++ "+00:00".toList) else text) with
  | none => rfl
  | some stamp =>
      have hutc : astimezone stamp = if Representable (utcOf stamp) then .ok (utcOf stamp)
          else .error (.overflowError "date value out of range") := rfl
      simp only [hutc]
      by_cases hin : Representable (utcOf stamp)
      · simp only [if_pos hin]
      · simp only [if_neg hin]

/-- Only a text beyond the calendar, or what is neither a text nor null, escapes. -/
theorem contained_parseUtc {property : Prop} {v : Json} :
    Contained (fun _ => property) (parseUtc unicode context v) <->
      TimeShaped v ∧ (IsTime v -> property) := by
  cases v with
  | null => simp [parseUtc, Json.isNull, Contained, TimeShaped, IsTime]
  | str text =>
      rw [parseUtc_str]
      cases hparse : IsoFormat.parse (normalized text) with
      | none => simp [Contained, TimeShaped, IsTime, hparse]
      | some stamp =>
          by_cases hutc : Representable (utcOf stamp)
          · simp [Contained, TimeShaped, IsTime, hparse, hutc]
          · simp [Contained, TimeShaped, IsTime, hparse, hutc]
  | _ => simp [parseUtc, parseIsoUtc, Json.isNull, Contained, TimeShaped]

theorem contained_optionalField {alpha : Type} {property : Option alpha -> Prop} {v : Json}
    {parse : Json -> Except PyExc alpha} :
    Contained property (optionalField v parse) <->
      (v = .null -> property none) ∧
        (v ≠ .null -> Contained (fun a => property (some a)) (parse v)) := by
  unfold optionalField
  cases v with
  | null => simp [Json.isNull, Contained]
  | _ => simp [Json.isNull, contained_map]

theorem timeShaped_null : TimeShaped .null :=
  Or.inl rfl

/-- An optional timestamp. -/
theorem contained_optionalTime {property : Prop} {v : Json} :
    Contained (fun _ => property) (optionalField v (parseUtc unicode context)) <->
      TimeShaped v ∧ (v = .null ∨ IsTime v -> property) := by
  rw [contained_optionalField, contained_parseUtc]
  by_cases hnull : v = .null
  · simp [hnull, timeShaped_null]
  · simp [hnull]

theorem contained_optionalText {property : Prop} {v : Json} :
    Contained (fun _ => property) (optionalField v (strOf unicode)) <-> property := by
  rw [contained_optionalField]
  by_cases hnull : v = .null
  · simp [hnull]
  · simp [hnull, contained_strOf]

theorem contained_softStop {raw : Json} :
    Contained (fun _ => True) (SoftStopRecord.fromDict unicode context raw) <->
      AnchorShaped "escalatedAt" raw := by
  unfold SoftStopRecord.fromDict AnchorShaped
  simp only [contained_bind, contained_pure, contained_optionalText, contained_optionalTime,
    contained_strOf, contained_required, contained_parseUtc, contained_expectObject,
    Option.isSome_iff_exists, implies_true, and_true, forall_exists_index]
  exact forall_congr' fun _ => forall_comm

theorem contained_stop {raw : Json} :
    Contained (fun _ => True) (StopRecord.fromDict unicode context raw) <->
      AnchorShaped "stoppedAt" raw := by
  unfold StopRecord.fromDict AnchorShaped
  simp only [contained_bind, contained_pure, contained_optionalTime, contained_strOf,
    contained_required, contained_parseUtc, contained_expectObject,
    Option.isSome_iff_exists, implies_true, and_true, forall_exists_index]
  exact forall_congr' fun _ => forall_comm

theorem contained_requeue {raw : Json} :
    Contained (fun _ => True) (RequeueRecord.fromDict unicode context raw) <->
      RequeueShaped unicode raw := by
  unfold RequeueRecord.fromDict RequeueShaped
  simp only [contained_bind, contained_pure, contained_intOf, contained_required,
    contained_parseUtc, contained_expectObject, implies_true, and_true]
  exact forall_congr' fun _ => forall_comm

theorem contained_archivedAnalysis {raw : Json} :
    Contained (fun r => TextOrNull r.bucket)
        (ArchivedAnalysisRecord.fromDict unicode context raw) <->
      ArchiveShaped raw := by
  unfold ArchivedAnalysisRecord.fromDict ArchiveShaped
  simp only [contained_bind, contained_pure, contained_optionalText, contained_optionalTime,
    contained_strOf, contained_required, contained_expectObject,
    Option.isSome_iff_exists, forall_exists_index]

/-- What each map holds decodes without another error exactly when it is well
shaped. -/
theorem contained_startedSince {raw : Json} :
    Contained (fun _ => True) (parseUtc unicode context raw) <-> TimeShaped raw := by
  rw [contained_parseUtc]
  exact and_iff_left fun _ => trivial

end Decoding

/-!
## Getters
-/

section Getters

variable {unicode : UnicodeData} {status : Json} {field : StatusField}

theorem contained_readStatus {property : List (String × Json) -> Prop} :
    Contained property (readStatus status) <-> ObjectLike status ∧ property status.members := by
  unfold readStatus ObjectLike
  cases status with
  | obj ms => cases ms <;> simp [Json.truthy, Contained, Json.members]
  | _ =>
      split
      · rename_i htruthy
        simp [htruthy, Contained]
      · rename_i hfalsy
        simp [hfalsy, Contained, Json.members]

/-- A field that is no object reads as empty, or raises an error of the store. -/
theorem contained_readMap {property : List (String × Json) -> Prop} (hempty : property []) :
    Contained property (readMap field status) <->
      ObjectLike status ∧ property (getMember status.members field.key).members := by
  unfold readMap
  rw [contained_bind, contained_readStatus]
  apply and_congr_right
  intro _
  cases getMember status.members field.key with
  | obj entries => cases entries <;> simp [Json.truthy, Json.members, contained_pure]
  | _ =>
      simp only [Json.members, hempty, iff_true]
      split
      · trivial
      · exact hempty

/-- The entry of a map under a key, or null. -/
def entryAt (field : StatusField) (key : String) (status : Json) : Json :=
  getMember (getMember status.members field.key).members key

theorem contained_getEntry {alpha : Type} {decode : String -> Json -> Except PyExc alpha}
    {property : Option alpha -> Prop} {key : String} (hnone : property none) :
    Contained property (getEntry unicode field decode key status) <->
      ObjectLike status ∧ (entryAt field key status ≠ .null ->
        Contained (fun r => property (some r))
          (decode (entryContext unicode field key) (entryAt field key status))) := by
  unfold getEntry
  rw [contained_bind, contained_readMap]
  · apply and_congr_right
    intro _
    rw [contained_optionalField]
    exact and_iff_right fun _ => hnone
  · exact hnone

theorem contained_getEntries {alpha : Type} {decode : String -> Json -> Except PyExc alpha}
    {property : alpha -> Prop} (hobject : ObjectLike status)
    (h : forall entry, entry ∈ (getMember status.members field.key).members ->
      Contained property (decode (entryContext unicode field entry.1) entry.2)) :
    Contained (fun records => forall entry, entry ∈ records -> property entry.2)
      (getEntries unicode field decode status) := by
  unfold getEntries
  rw [contained_bind, contained_readMap]
  · refine ⟨hobject, contained_mapM _ ?_⟩
    intro entry hentry
    rw [contained_bind]
    exact (h entry hentry).mono fun r hr => hr
  · intro entry hentry
    cases hentry

theorem contained_getScalar {key : String} :
    Contained (fun _ => True) (getScalar unicode key status) <->
      ObjectLike status ∧ TimeShaped (getMember status.members key) := by
  unfold getScalar
  rw [contained_bind, contained_readStatus]
  apply and_congr_right
  intro _
  rw [contained_optionalTime]
  exact and_iff_left fun _ => trivial

theorem contained_getInt {key : String} (hobject : ObjectLike status) :
    Contained (fun _ => True) (getInt key status) := by
  unfold getInt
  rw [contained_bind, contained_readStatus]
  refine ⟨hobject, ?_⟩
  cases getMember status.members key <;> trivial

theorem contained_deferredEntries : forall (i : Nat) (items : List Json),
    Contained (fun _ => True) (deferredEntries unicode i items)
  | _, [] => trivial
  | i, item :: rest => by
      cases item with
      | obj ms =>
          rw [deferredEntries, contained_bind]
          exact (contained_deferredEntries (i + 1) rest).mono fun _ _ => trivial
      | _ => trivial

theorem contained_getDeferredEvents (hobject : ObjectLike status) :
    Contained (fun _ => True) (getDeferredEvents unicode status) := by
  unfold getDeferredEvents
  rw [contained_bind, contained_readStatus]
  refine ⟨hobject, ?_⟩
  simp only
  split
  · split
    · exact contained_deferredEntries 0 _
    · trivial
  · trivial

end Getters

/-!
## Every getter
-/

section EveryGetter

variable {unicode : UnicodeData} {status : Json}

theorem entryShaped_null (field : StatusField) : EntryShaped unicode field .null := by
  cases field with
  | startedSince => exact timeShaped_null
  | softStops =>
      intro ms issued hobj
      cases hobj
  | requeues =>
      intro ms count hobj
      cases hobj
  | archivedAnalyses =>
      intro ms hobj
      cases hobj
  | stoppedAnalyses =>
      intro ms issued hobj
      cases hobj

/-- The getter of one entry. -/
def Getter.ofEntry (key : String) : StatusField -> Getter
  | .softStops => .softStop key
  | .requeues => .requeue key
  | .startedSince => .startedSince key
  | .archivedAnalyses => .archivedAnalysis key
  | .stoppedAnalyses => .stopRecord key

/-- The getter of one entry trips over that entry only. -/
theorem contained_ofEntry (field : StatusField) (key : String) :
    Contained Value.WellTyped ((Getter.ofEntry key field).run unicode status) <->
      ObjectLike status ∧ EntryShaped unicode field (entryAt field key status) := by
  have hdrop : (entryAt field key status ≠ .null ->
      EntryShaped unicode field (entryAt field key status)) <->
        EntryShaped unicode field (entryAt field key status) := by
    constructor
    · intro h
      by_cases hnull : entryAt field key status = .null
      · rw [hnull]
        exact entryShaped_null field
      · exact h hnull
    · intro h _
      exact h
  rw [← hdrop]
  cases field with
  | softStops =>
      simp only [Getter.ofEntry, Getter.run, contained_map]
      exact (contained_getEntry trivial).trans
        (and_congr_right fun _ => imp_congr_right fun _ => contained_softStop)
  | requeues =>
      simp only [Getter.ofEntry, Getter.run, contained_map]
      exact (contained_getEntry trivial).trans
        (and_congr_right fun _ => imp_congr_right fun _ => contained_requeue)
  | startedSince =>
      simp only [Getter.ofEntry, Getter.run, contained_map]
      exact (contained_getEntry trivial).trans
        (and_congr_right fun _ => imp_congr_right fun _ => contained_startedSince)
  | archivedAnalyses =>
      simp only [Getter.ofEntry, Getter.run, contained_map]
      exact (contained_getEntry trivial).trans
        (and_congr_right fun _ => imp_congr_right fun _ => contained_archivedAnalysis)
  | stoppedAnalyses =>
      simp only [Getter.ofEntry, Getter.run, contained_map]
      exact (contained_getEntry trivial).trans
        (and_congr_right fun _ => imp_congr_right fun _ => contained_stop)

/-- In a shaped status every entry is. -/
theorem StatusShaped.entryAt (h : StatusShaped unicode status) (field : StatusField)
    (key : String) : EntryShaped unicode field (entryAt field key status) := by
  unfold StatusDocument.entryAt
  cases hlookup : (getMember status.members field.key).members.lookup key with
  | none =>
      rw [getMember, hlookup]
      exact entryShaped_null field
  | some raw =>
      rw [getMember, hlookup]
      exact h.entries field _ (Members.mem_of_lookup hlookup)

end EveryGetter

/-- A status with one operator clock. -/
def withClock (clock : Json) : Json :=
  .obj [("startedSince", .obj [("d1", clock)])]

def clockText : String := "2026-01-02T03:04:05Z"

end StatusDocument
end OpenStudioOperator
