import OpenStudioOperator.Foundation.Raising
import OpenStudioOperator.StatusPatches

/-!
# Reading back what was written

A setter sends a record, the server merges it into the older entry, and the
getter decodes the result.  The members that the record has are read back as
they were written.  A member that it omits is the older one.
-/

namespace OpenStudioOperator
namespace StatusDocument

open Foundation

/-!
## Entries that carry a record
-/

/-- The members `ms` of an entry show the encoded record, and the older members
where the record has none. -/
structure Carries (enc old ms : List (String × Json)) : Prop where
  text : forall k s, enc.lookup k = some (.str s) -> ms.lookup k = some (.str s)
  number : forall k n, enc.lookup k = some (.int n) ->
    exists v, ms.lookup k = some v ∧ v.pyEq (.int n) = true
  null : forall k, enc.lookup k = some .null -> getMember ms k = .null
  absent : forall k, enc.lookup k = none -> getMember ms k = getMember old k

section Carries

variable {enc old ms : List (String × Json)}

/-- A merge leaves an entry that carries the record. -/
theorem carries_merge (hsorted : Members.Sorted enc) (old : List (String × Json)) :
    Carries enc old (Json.mergeMembers old enc) := by
  have hlookup := fun k => Json.lookup_mergeMembers k enc old hsorted
  constructor
  · intro k s hs
    rw [hlookup, hs]
    rfl
  · intro k n hn
    refine ⟨.int n, ?_, ?_⟩
    · rw [hlookup, hn]
      rfl
    · simp [Json.pyEq]
  · intro k hnull
    unfold getMember
    rw [hlookup, hnull]
    rfl
  · intro k habsent
    unfold getMember
    rw [hlookup, habsent]

/-- An entry that compares equal to the record carries it already. -/
theorem carries_equal (h : Json.pyEqMembers ms enc = true) : Carries enc ms ms := by
  have hlookup := fun k => Json.lookup_of_pyEqMembers k h
  constructor
  · intro k s hs
    rcases (hlookup k).2 _ hs with ⟨v, hv, heq⟩
    rw [hv, Json.eq_str_of_pyEq heq]
  · intro k n hn
    exact (hlookup k).2 _ hn
  · intro k hnull
    rcases (hlookup k).2 _ hnull with ⟨v, hv, heq⟩
    unfold getMember
    rw [hv, Json.eq_null_of_pyEq heq]
    rfl
  · intro k _
    rfl

theorem Carries.getMember_text (h : Carries enc old ms) {k s : String}
    (hs : enc.lookup k = some (.str s)) : getMember ms k = .str s := by
  unfold getMember
  rw [h.text k s hs]
  rfl

end Carries

/-!
## Timestamps
-/

section Timestamps

variable {unicode : UnicodeData} {context : String} {t : Instant}

theorem getLast?_isoformat (t : Instant) : (isoformat t).toList.getLast? = some '0' := by
  unfold isoformat IsoFormat.format
  rw [String.toList_ofList, List.getLast?_append]
  rfl

/-- A written timestamp reads back as the instant. -/
theorem parseUtc_timestamp (h : Representable t) :
    parseUtc unicode context (timestamp t) = .ok t := by
  have hparse : IsoFormat.parse (isoformat t) = some ⟨t.toNat, some 0⟩ := by
    apply IsoFormat.parse_format
    have hlower := h.1
    have hupper := h.2
    lia
  have hutc : astimezone ⟨t.toNat, some 0⟩ = .ok t := by
    have hnat : ((t.toNat : Int) - (some (0 : Int)).getD 0) = t := by
      have hlower := h.1
      simp only [Option.getD_some]
      lia
    unfold astimezone
    simp only [hnat]
    rw [if_pos h]
  unfold parseUtc timestamp parseIsoUtc
  simp only [Json.isNull, Bool.false_eq_true, if_false, getLast?_isoformat, Option.some.injEq,
    show ('0' = 'Z') = False by simp, hparse, hutc]

theorem parseIsoUtc_timestamp (h : Representable t) :
    parseIsoUtc unicode (timestamp t) = .ok t := by
  have hparse : parseUtc unicode "" (timestamp t) = .ok t := parseUtc_timestamp h
  unfold parseUtc at hparse
  cases hiso : parseIsoUtc unicode (timestamp t) with
  | ok t' =>
      rw [hiso] at hparse
      exact hparse
  | error e =>
      rw [hiso] at hparse
      cases e <;> cases hparse

end Timestamps

/-!
## Written entries
-/

section Entries

variable {status : Json} {field : StatusField} {entries : List (String × Json)}

/-- What `_set_map_entry` leaves under its key. -/
theorem entryPatch_carries {protectedIds : List String} {key : String}
    {enc : List (String × Json)} (hcanonical : status.Canonical)
    (hread : readMap field status = .ok entries) (henc : Members.Sorted enc)
    {after : Json}
    (hafter : after =
      match entryPatch protectedIds field key (.obj enc) status.members with
      | some patch => status.mergePatch patch
      | none => status) :
    exists entries' ms, readMap field after = .ok entries' ∧
      getMember entries' key = .obj ms ∧ Carries enc (getMember entries key).members ms := by
  have hmerged : forall patch, Members.Sorted patch -> patch.lookup key = some (.obj enc) ->
      exists ms, getMember (Json.mergeMembers entries patch) key = .obj ms ∧
        Carries enc (getMember entries key).members ms := by
    intro patch hsorted hlookup
    refine ⟨Json.mergeMembers (getMember entries key).members enc, ?_, carries_merge henc _⟩
    unfold getMember
    rw [Json.lookup_mergeMembers _ _ _ hsorted, hlookup]
    rfl
  subst hafter
  have hentries := (readMap_ok hread).2
  rcases entryPatch_cases protectedIds field key (.obj enc) status.members with
    ⟨hsame, hskip⟩ | ⟨_, _, hsent⟩ | ⟨_, _, _, hsent⟩
  · rw [← hentries] at hsame
    rcases Json.exists_obj_of_pyEq hsame with ⟨ms, hms, hequal⟩
    rw [hskip, hms]
    exact ⟨entries, ms, hread, hms, carries_equal hequal⟩
  · rcases hmerged [(key, .obj enc)] (List.pairwise_singleton _ _) (by simp) with
      ⟨ms, hms, hcarries⟩
    rw [hsent]
    exact ⟨_, ms, readMap_merge hread, hms, hcarries⟩
  · rw [← hentries] at hsent
    have hpatch := sorted_cappedPatch protectedIds key (.obj enc)
      (sorted_readMap hcanonical hread)
    rcases hmerged _ hpatch (Members.lookup_insert_self _ _ _) with ⟨ms, hms, hcarries⟩
    rw [hsent]
    exact ⟨_, ms, readMap_merge hread, hms, hcarries⟩

end Entries

/-!
## Decoding a written record

The optional fields of the older record show through where the new one has
none.
-/

section Decoding

variable {unicode : UnicodeData} {context : String} {enc old ms : List (String × Json)}

theorem Carries.required_text (h : Carries enc old ms) {k s : String}
    (hs : enc.lookup k = some (.str s)) : required unicode ms k context = .ok (.str s) := by
  unfold required
  rw [h.text k s hs]

/-- An optional field reads as the record's, or else as the older one. -/
theorem Carries.optional {alpha : Type} (h : Carries enc old ms) {k : String}
    {parse : Json -> Except PyExc alpha} {encode : alpha -> String} {field earlier : Option alpha}
    (hlookup : enc.lookup k = field.map fun a => .str (encode a))
    (hparse : forall a, field = some a -> parse (.str (encode a)) = .ok a)
    (hearlier : optionalField (getMember old k) parse = .ok earlier) :
    optionalField (getMember ms k) parse = .ok (field.or earlier) := by
  cases field with
  | none =>
      rw [h.absent k hlookup, hearlier]
      rfl
  | some a =>
      rw [h.getMember_text hlookup]
      simp [optionalField, Json.isNull, hparse a rfl, Except.map]

theorem expectObject_ok {raw : Json} (h : expectObject context raw = .ok ms) : raw = .obj ms := by
  cases raw with
  | obj members =>
      cases h
      rfl
  | _ => cases h

/-- An optional value is null, or was parsed. -/
theorem optionalField_ok {alpha : Type} {raw : Json} {parse : Json -> Except PyExc alpha}
    {value : Option alpha} (h : optionalField raw parse = .ok value) :
    (raw = .null ∧ value = none) ∨ exists a, parse raw = .ok a ∧ value = some a := by
  unfold optionalField at h
  split at h
  · rename_i hnull
    left
    cases raw with
    | null =>
        cases h
        exact ⟨rfl, rfl⟩
    | _ => cases hnull
  · right
    cases hparse : parse raw with
    | error e =>
        rw [hparse] at h
        cases h
    | ok a =>
        rw [hparse] at h
        cases h
        exact ⟨a, rfl, rfl⟩

/-- The integer of a value that compares equal to it. -/
theorem intOf_of_pyEq {v : Json} {n : Int} (h : v.pyEq (.int n) = true) :
    intOf unicode v = .ok n := by
  cases v with
  | bool b =>
      cases b with
      | true =>
          have hn : (1 : Rat) = (n : Rat) := by simpa [Json.pyEq, Json.number?] using h
          have hone : (1 : Int) = n := by exact_mod_cast hn
          rw [← hone]
          rfl
      | false =>
          have hn : (0 : Rat) = (n : Rat) := by simpa [Json.pyEq, Json.number?] using h
          have hzero : (0 : Int) = n := by exact_mod_cast hn
          rw [← hzero]
          rfl
  | int m =>
      have hn : (m : Rat) = (n : Rat) := by simpa [Json.pyEq, Json.number?] using h
      have hm : m = n := by exact_mod_cast hn
      rw [hm]
      rfl
  | float x =>
      cases x with
      | finite value text =>
          have hn : value = (n : Rat) := by simpa [Json.pyEq, Json.number?] using h
          rw [hn]
          simp [intOf]
      | infinite negative => simp [Json.pyEq] at h
  | _ => simp [Json.pyEq, Json.isNull] at h

theorem sublist_optionalMember (key : String) (value : Option Json) :
    ((optionalMember key value).map Prod.fst).Sublist [key] := by
  cases value with
  | none => exact List.nil_sublist _
  | some v => exact List.Sublist.refl _

theorem sorted_of_keys {keys : List String} (h : (enc.map Prod.fst).Sublist keys)
    (hkeys : keys.Pairwise (· < ·)) : Members.Sorted enc :=
  List.pairwise_map.mp (hkeys.sublist h)

/-!
### Soft stops
-/

def SoftStopRecord.Representable (r : SoftStopRecord) : Prop :=
  StatusDocument.Representable r.issuedAt ∧
    forall t, r.escalatedAt = some t -> StatusDocument.Representable t

/-- The record that is read back after an earlier one. -/
def SoftStopRecord.readback (earlier : Option SoftStopRecord) (r : SoftStopRecord) :
    SoftStopRecord :=
  { r with
    escalatedAt := r.escalatedAt.or (earlier.bind escalatedAt)
    escalationOutcome := r.escalationOutcome.or (earlier.bind escalationOutcome) }

theorem SoftStopRecord.sorted_toDict (r : SoftStopRecord) :
    Members.Sorted r.toDict.members := by
  have hkeys : (r.toDict.members.map Prod.fst).Sublist
      (["escalatedAt"] ++ ["escalationOutcome"] ++ ["issuedAt", "outcome"]) := by
    simp only [SoftStopRecord.toDict, Json.members, List.map_append]
    exact ((sublist_optionalMember _ _).append (sublist_optionalMember _ _)).append
      (List.Sublist.refl _)
  exact sorted_of_keys hkeys (by decide)

theorem SoftStopRecord.optional_fields {earlier : Option SoftStopRecord} {raw : Json}
    (h : optionalField raw (SoftStopRecord.fromDict unicode context) = .ok earlier) :
    optionalField (getMember raw.members "escalatedAt")
        (parseUtc unicode (context ++ ".escalatedAt")) = .ok (earlier.bind escalatedAt) ∧
      optionalField (getMember raw.members "escalationOutcome") (strOf unicode) =
        .ok (earlier.bind escalationOutcome) := by
  rcases optionalField_ok h with ⟨hraw, hnone⟩ | ⟨r, hr, hsome⟩
  · rw [hraw, hnone]
    exact ⟨rfl, rfl⟩
  · unfold SoftStopRecord.fromDict at hr
    simp only [bind_ok_iff] at hr
    rcases hr with ⟨ms, hobj, _, _, _, _, _, _, _, _, _, hat, _, houtcome, hr⟩
    cases hr
    rw [expectObject_ok hobj, hsome]
    exact ⟨hat, houtcome⟩

theorem SoftStopRecord.fromDict_carries {r : SoftStopRecord} {earlier : Option SoftStopRecord}
    {raw : Json} (hraw : optionalField raw (SoftStopRecord.fromDict unicode context) = .ok earlier)
    (hr : r.Representable) (h : Carries r.toDict.members raw.members ms) :
    SoftStopRecord.fromDict unicode context (.obj ms) = .ok (r.readback earlier) := by
  have hmembers : r.toDict.members.lookup "issuedAt" = some (timestamp r.issuedAt) ∧
      r.toDict.members.lookup "outcome" = some (.str r.outcome) ∧
      r.toDict.members.lookup "escalatedAt" = r.escalatedAt.map timestamp ∧
      r.toDict.members.lookup "escalationOutcome" = r.escalationOutcome.map .str := by
    rcases r with ⟨_, _, _ | _, _ | _⟩ <;> exact ⟨rfl, rfl, rfl, rfl⟩
  rcases hmembers with ⟨hissued, houtcome, hescalated, hescalation⟩
  rcases SoftStopRecord.optional_fields hraw with ⟨hearlierAt, hearlierOutcome⟩
  unfold SoftStopRecord.fromDict
  simp only [bind_ok_iff]
  exact ⟨ms, rfl, _, h.required_text hissued, _, parseUtc_timestamp hr.1,
    _, h.required_text houtcome, _, rfl,
    _, h.optional hescalated (fun t ht => parseUtc_timestamp (hr.2 t ht)) hearlierAt,
    _, h.optional hescalation (fun _ _ => rfl) hearlierOutcome, rfl⟩

/-!
### Requeues
-/

theorem RequeueRecord.sorted_toDict (r : RequeueRecord) : Members.Sorted r.toDict.members :=
  sorted_of_keys (List.Sublist.refl ["count", "lastRequeuedAt"]) (by decide)

theorem RequeueRecord.fromDict_carries {r : RequeueRecord} (hr : Representable r.lastRequeuedAt)
    (h : Carries r.toDict.members old ms) :
    RequeueRecord.fromDict unicode context (.obj ms) = .ok r := by
  rcases h.number "count" r.count rfl with ⟨v, hlookup, hequal⟩
  have hcount : required unicode ms "count" context = .ok v := by
    unfold required
    rw [hlookup]
  have hlast : r.toDict.members.lookup "lastRequeuedAt" = some (timestamp r.lastRequeuedAt) :=
    rfl
  unfold RequeueRecord.fromDict
  simp only [bind_ok_iff]
  exact ⟨ms, rfl, v, hcount, _, intOf_of_pyEq hequal, _, h.required_text hlast,
    _, parseUtc_timestamp hr, rfl⟩

/-!
### Archived analyses
-/

def ArchivedAnalysisRecord.Representable (r : ArchivedAnalysisRecord (Option String)) : Prop :=
  (forall t, r.verifiedAt = some t -> StatusDocument.Representable t) ∧
    forall t, r.spawnedAt = some t -> StatusDocument.Representable t

/-- The record as it is read. -/
def ArchivedAnalysisRecord.asRead (r : ArchivedAnalysisRecord (Option String)) :
    ArchivedAnalysisRecord Json :=
  { r with bucket := bucketValue r.bucket }

theorem bucketValue_injective : Function.Injective bucketValue := by
  intro a b h
  cases a <;> cases b <;> simp_all [bucketValue]

theorem ArchivedAnalysisRecord.asRead_injective : Function.Injective asRead := by
  intro r r' h
  rcases r with ⟨_, _, _, _, _⟩
  rcases r' with ⟨_, _, _, _, _⟩
  simpa [asRead, bucketValue_injective.eq_iff] using h

def ArchivedAnalysisRecord.readback (earlier : Option (ArchivedAnalysisRecord Json))
    (r : ArchivedAnalysisRecord (Option String)) : ArchivedAnalysisRecord (Option String) :=
  { r with
    verifiedAt := r.verifiedAt.or (earlier.bind verifiedAt)
    jobName := r.jobName.or (earlier.bind jobName)
    spawnedAt := r.spawnedAt.or (earlier.bind spawnedAt) }

theorem ArchivedAnalysisRecord.sorted_toDict (r : ArchivedAnalysisRecord (Option String)) :
    Members.Sorted r.toDict.members := by
  have hkeys : (r.toDict.members.map Prod.fst).Sublist
      (["backend", "bucket"] ++ ["jobName"] ++ ["spawnedAt"] ++ ["verifiedAt"]) := by
    simp only [ArchivedAnalysisRecord.toDict, Json.members, List.map_append]
    exact (((List.Sublist.refl _).append (sublist_optionalMember _ _)).append
      (sublist_optionalMember _ _)).append (sublist_optionalMember _ _)
  exact sorted_of_keys hkeys (by decide)

theorem ArchivedAnalysisRecord.optional_fields
    {earlier : Option (ArchivedAnalysisRecord Json)} {raw : Json}
    (h : optionalField raw (ArchivedAnalysisRecord.fromDict unicode context) = .ok earlier) :
    optionalField (getMember raw.members "verifiedAt")
        (parseUtc unicode (context ++ ".verifiedAt")) = .ok (earlier.bind verifiedAt) ∧
      optionalField (getMember raw.members "jobName") (strOf unicode) =
        .ok (earlier.bind jobName) ∧
      optionalField (getMember raw.members "spawnedAt")
        (parseUtc unicode (context ++ ".spawnedAt")) = .ok (earlier.bind spawnedAt) := by
  rcases optionalField_ok h with ⟨hraw, hnone⟩ | ⟨r, hr, hsome⟩
  · rw [hraw, hnone]
    exact ⟨rfl, rfl, rfl⟩
  · unfold ArchivedAnalysisRecord.fromDict at hr
    simp only [bind_ok_iff] at hr
    rcases hr with ⟨ms, hobj, _, _, _, _, _, hverified, _, hjob, _, hspawned, hr⟩
    cases hr
    rw [expectObject_ok hobj, hsome]
    exact ⟨hverified, hjob, hspawned⟩

theorem ArchivedAnalysisRecord.fromDict_carries {r : ArchivedAnalysisRecord (Option String)}
    {earlier : Option (ArchivedAnalysisRecord Json)} {raw : Json}
    (hraw : optionalField raw (ArchivedAnalysisRecord.fromDict unicode context) = .ok earlier)
    (hr : r.Representable) (h : Carries r.toDict.members raw.members ms) :
    ArchivedAnalysisRecord.fromDict unicode context (.obj ms) =
      .ok (r.readback earlier).asRead := by
  have hmembers : r.toDict.members.lookup "backend" = some (.str r.backend) ∧
      r.toDict.members.lookup "bucket" = some (bucketValue r.bucket) ∧
      r.toDict.members.lookup "verifiedAt" = r.verifiedAt.map timestamp ∧
      r.toDict.members.lookup "jobName" = r.jobName.map .str ∧
      r.toDict.members.lookup "spawnedAt" = r.spawnedAt.map timestamp := by
    rcases r with ⟨_, _, _ | _, _ | _, _ | _⟩ <;> exact ⟨rfl, rfl, rfl, rfl, rfl⟩
  rcases hmembers with ⟨hbackend, hbucket, hverified, hjob, hspawned⟩
  rcases ArchivedAnalysisRecord.optional_fields hraw with
    ⟨hearlierVerified, hearlierJob, hearlierSpawned⟩
  -- The bucket is always sent: a text replaces the older one and a null removes it.
  have hsame : getMember ms "bucket" = bucketValue r.bucket := by
    cases hr : r.bucket with
    | none =>
        rw [hr] at hbucket
        exact h.null _ hbucket
    | some text =>
        rw [hr] at hbucket
        exact h.getMember_text hbucket
  unfold ArchivedAnalysisRecord.fromDict
  simp only [bind_ok_iff]
  refine ⟨ms, rfl, _, h.required_text hbackend, _, rfl,
    _, h.optional hverified (fun t ht => parseUtc_timestamp (hr.1 t ht)) hearlierVerified,
    _, h.optional hjob (fun _ _ => rfl) hearlierJob,
    _, h.optional hspawned (fun t ht => parseUtc_timestamp (hr.2 t ht)) hearlierSpawned, ?_⟩
  rw [hsame]
  rfl

/-!
### Stop records
-/

def StopRecord.Representable (r : StopRecord) : Prop :=
  StatusDocument.Representable r.issuedAt ∧
    forall t, r.stoppedAt = some t -> StatusDocument.Representable t

def StopRecord.readback (earlier : Option StopRecord) (r : StopRecord) : StopRecord :=
  { r with stoppedAt := r.stoppedAt.or (earlier.bind stoppedAt) }

theorem StopRecord.sorted_toDict (r : StopRecord) : Members.Sorted r.toDict.members := by
  have hkeys : (r.toDict.members.map Prod.fst).Sublist
      (["issuedAt", "outcome"] ++ ["stoppedAt"]) := by
    simp only [StopRecord.toDict, Json.members, List.map_append]
    exact (List.Sublist.refl _).append (sublist_optionalMember _ _)
  exact sorted_of_keys hkeys (by decide)

theorem StopRecord.optional_fields {earlier : Option StopRecord} {raw : Json}
    (h : optionalField raw (StopRecord.fromDict unicode context) = .ok earlier) :
    optionalField (getMember raw.members "stoppedAt")
      (parseUtc unicode (context ++ ".stoppedAt")) = .ok (earlier.bind stoppedAt) := by
  rcases optionalField_ok h with ⟨hraw, hnone⟩ | ⟨r, hr, hsome⟩
  · rw [hraw, hnone]
    rfl
  · unfold StopRecord.fromDict at hr
    simp only [bind_ok_iff] at hr
    rcases hr with ⟨ms, hobj, _, _, _, _, _, _, _, _, _, hstopped, hr⟩
    cases hr
    rw [expectObject_ok hobj, hsome]
    exact hstopped

theorem StopRecord.fromDict_carries {r : StopRecord} {earlier : Option StopRecord} {raw : Json}
    (hraw : optionalField raw (StopRecord.fromDict unicode context) = .ok earlier)
    (hr : r.Representable) (h : Carries r.toDict.members raw.members ms) :
    StopRecord.fromDict unicode context (.obj ms) = .ok (r.readback earlier) := by
  have hmembers : r.toDict.members.lookup "issuedAt" = some (timestamp r.issuedAt) ∧
      r.toDict.members.lookup "outcome" = some (.str r.outcome) ∧
      r.toDict.members.lookup "stoppedAt" = r.stoppedAt.map timestamp := by
    rcases r with ⟨_, _, _ | _⟩ <;> exact ⟨rfl, rfl, rfl⟩
  rcases hmembers with ⟨hissued, houtcome, hstopped⟩
  unfold StopRecord.fromDict
  simp only [bind_ok_iff]
  exact ⟨ms, rfl, _, h.required_text hissued, _, parseUtc_timestamp hr.1,
    _, h.required_text houtcome, _, rfl,
    _, h.optional hstopped (fun t ht => parseUtc_timestamp (hr.2 t ht))
      (StopRecord.optional_fields hraw), rfl⟩

end Decoding

/-!
## Set, then get
-/

section SetThenGet

variable {unicode : UnicodeData} {protectedIds : StatusField -> List String} {status : Json}

/-- A getter reads what the older entry and the written record leave together. -/
theorem getEntry_after {alpha : Type} {decode : String -> Json -> Except PyExc alpha}
    {op : StoreMutation} {field : StatusField} {id : String} {enc : List (String × Json)}
    {earlier : Option alpha} {read : alpha} (hcanonical : status.Canonical)
    (hop : forall ms, op.buildPatch unicode protectedIds ms =
      .ok (entryPatch (protectedIds field) field id (.obj enc) ms))
    (hsorted : Members.Sorted enc)
    (hearlier : getEntry unicode field decode id status = .ok earlier)
    (hdecode : forall raw ms,
      optionalField raw (decode (entryContext unicode field id)) = .ok earlier ->
      Carries enc raw.members ms ->
      decode (entryContext unicode field id) (.obj ms) = .ok read) :
    getEntry unicode field decode id (op.applyTo unicode protectedIds status) =
      .ok (some read) := by
  unfold getEntry at hearlier
  rcases bind_ok_iff.mp hearlier with ⟨entries, hread, hraw⟩
  have happly : op.applyTo unicode protectedIds status =
      match entryPatch (protectedIds field) field id (.obj enc) status.members with
      | some patch => status.mergePatch patch
      | none => status := by
    unfold StoreMutation.applyTo
    rw [(readMap_ok hread).1]
    simp only [bind, Except.bind, hop]
    cases entryPatch (protectedIds field) field id (.obj enc) status.members <;> rfl
  rcases entryPatch_carries hcanonical hread hsorted happly with
    ⟨entries', ms, hread', hms, hcarries⟩
  unfold getEntry
  rw [hread']
  simp only [bind, Except.bind, hms]
  simp [optionalField, Json.isNull, hdecode _ _ hraw hcarries, Except.map]

/-- A record of one of the four record maps. -/
inductive MapRecord where
  | softStop (record : SoftStopRecord)
  | requeue (record : RequeueRecord)
  | archivedAnalysis (record : ArchivedAnalysisRecord (Option String))
  | stop (record : StopRecord)
deriving DecidableEq

namespace MapRecord

/-- `set_soft_stop`, `set_requeue`, `set_archived_analysis` or `set_stop_record`. -/
def setter (id : String) : MapRecord -> StoreMutation
  | softStop r => .setSoftStop id r
  | requeue r => .setRequeue id r
  | archivedAnalysis r => .setArchivedAnalysis id r
  | stop r => .setStopRecord id r

def getter (id : String) : MapRecord -> Getter
  | softStop _ => .softStop id
  | requeue _ => .requeue id
  | archivedAnalysis _ => .archivedAnalysis id
  | stop _ => .stopRecord id

/-- The record as its getter returns it. -/
def value : MapRecord -> Value
  | softStop r => .softStop (some r)
  | requeue r => .requeue (some r)
  | archivedAnalysis r => .archivedAnalysis (some r.asRead)
  | stop r => .stopRecord (some r)

def Representable : MapRecord -> Prop
  | softStop r => r.Representable
  | requeue r => StatusDocument.Representable r.lastRequeuedAt
  | archivedAnalysis r => r.Representable
  | stop r => r.Representable

/-- Every optional field that the record lacks is also absent from the earlier
one. -/
def Covers : MapRecord -> Value -> Prop
  | softStop r, .softStop (some earlier) =>
      (r.escalatedAt = none -> earlier.escalatedAt = none) ∧
        (r.escalationOutcome = none -> earlier.escalationOutcome = none)
  | archivedAnalysis r, .archivedAnalysis (some earlier) =>
      (r.verifiedAt = none -> earlier.verifiedAt = none) ∧
        (r.jobName = none -> earlier.jobName = none) ∧
        (r.spawnedAt = none -> earlier.spawnedAt = none)
  | stop r, .stopRecord (some earlier) => r.stoppedAt = none -> earlier.stoppedAt = none
  | _, _ => True

/-- The record that is read back when the getter returned `earlier` before. -/
def readback : MapRecord -> Value -> MapRecord
  | softStop r, .softStop earlier => softStop (r.readback earlier)
  | archivedAnalysis r, .archivedAnalysis earlier => archivedAnalysis (r.readback earlier)
  | stop r, .stopRecord earlier => stop (r.readback earlier)
  | r, _ => r

theorem or_eq_left_iff {alpha : Type} (a b : Option alpha) :
    a.or b = a <-> (a = none -> b = none) := by
  cases a <;> simp

theorem readback_eq_iff (r : MapRecord) (earlier : Value) :
    r.readback earlier = r <-> r.Covers earlier := by
  cases r with
  | softStop r =>
      rcases r with ⟨_, _, _, _⟩
      cases earlier with
      | softStop earlier =>
          cases earlier <;> simp [readback, SoftStopRecord.readback, Covers, or_eq_left_iff]
      | _ => simp [readback, Covers]
  | requeue r => simp [readback, Covers]
  | archivedAnalysis r =>
      rcases r with ⟨_, _, _, _, _⟩
      cases earlier with
      | archivedAnalysis earlier =>
          cases earlier <;>
            simp [readback, ArchivedAnalysisRecord.readback, Covers, or_eq_left_iff]
      | _ => simp [readback, Covers]
  | stop r =>
      rcases r with ⟨_, _, _⟩
      cases earlier with
      | stopRecord earlier =>
          cases earlier <;> simp [readback, StopRecord.readback, Covers, or_eq_left_iff]
      | _ => simp [readback, Covers]

theorem value_injective : Function.Injective value := by
  intro r r' h
  cases r <;> cases r' <;> simp_all [value, ArchivedAnalysisRecord.asRead_injective.eq_iff]

end MapRecord

theorem map_eq_ok {alpha beta : Type} {x : Except PyExc alpha} {f : alpha -> beta} {b : beta}
    (h : x.map f = .ok b) : exists a, x = .ok a ∧ b = f a := by
  cases x with
  | error e => cases h
  | ok a =>
      cases h
      exact ⟨a, rfl, rfl⟩

/-- What the getter returns after the setter. -/
theorem getter_after_setter (hcanonical : status.Canonical) (id : String) (r : MapRecord)
    (hr : r.Representable) {earlier : Value}
    (hearlier : (r.getter id).run unicode status = .ok earlier) :
    (r.getter id).run unicode ((r.setter id).applyTo unicode protectedIds status) =
      .ok (r.readback earlier).value := by
  cases r with
  | softStop r =>
      rcases map_eq_ok hearlier with ⟨earlier, hentry, heq⟩
      subst heq
      exact congrArg (Except.map Value.softStop)
        (getEntry_after hcanonical (fun _ => rfl) r.sorted_toDict hentry fun _ _ hraw =>
          SoftStopRecord.fromDict_carries hraw hr)
  | requeue r =>
      rcases map_eq_ok hearlier with ⟨earlier, hentry, heq⟩
      subst heq
      exact congrArg (Except.map Value.requeue)
        (getEntry_after hcanonical (fun _ => rfl) r.sorted_toDict hentry fun _ _ _ =>
          RequeueRecord.fromDict_carries hr)
  | archivedAnalysis r =>
      rcases map_eq_ok hearlier with ⟨earlier, hentry, heq⟩
      subst heq
      exact congrArg (Except.map Value.archivedAnalysis)
        (getEntry_after hcanonical (fun _ => rfl) r.sorted_toDict hentry fun _ _ hraw =>
          ArchivedAnalysisRecord.fromDict_carries hraw hr)
  | stop r =>
      rcases map_eq_ok hearlier with ⟨earlier, hentry, heq⟩
      subst heq
      exact congrArg (Except.map Value.stopRecord)
        (getEntry_after hcanonical (fun _ => rfl) r.sorted_toDict hentry fun _ _ hraw =>
          StopRecord.fromDict_carries hraw hr)

/-- A record reads back as it was set exactly when it has every optional field
of the record it replaces. -/
theorem set_then_get_iff (hcanonical : status.Canonical) (id : String) (r : MapRecord)
    (hr : r.Representable) {earlier : Value}
    (hearlier : (r.getter id).run unicode status = .ok earlier) :
    (r.getter id).run unicode ((r.setter id).applyTo unicode protectedIds status) =
      .ok r.value <-> r.Covers earlier := by
  rw [getter_after_setter hcanonical id r hr hearlier, Except.ok.injEq,
    MapRecord.value_injective.eq_iff, MapRecord.readback_eq_iff]

/-- An analysis that was soft-stopped, and escalated an hour later. -/
def anchored : SoftStopRecord where
  issuedAt := days 738000
  outcome := "issued"

def escalated : SoftStopRecord :=
  { anchored with
    escalatedAt := some (days 738000 + minutes 60)
    escalationOutcome := some "evicted" }

/-- A status with one soft stop. -/
def softStopped (r : SoftStopRecord) : Json :=
  .obj [("softStops", .obj [("a1", r.toDict)])]

theorem canonical_softStopped (r : SoftStopRecord) : (softStopped r).Canonical := by
  have hrecord : r.toDict.Canonical := by
    refine ⟨r.sorted_toDict, ?_⟩
    rcases r with ⟨_, _, _ | _, _ | _⟩ <;>
      simp [optionalMember, timestamp, Json.CanonicalMembers, Json.CanonicalMember,
        Json.Canonical]
  simp [softStopped, Json.Canonical, Json.CanonicalMembers, Json.CanonicalMember,
    Members.Sorted, hrecord]

theorem set_then_get_escalated :
    (Getter.softStop "a1").run UnicodeData.ascii
      ((StoreMutation.setSoftStop "a1" escalated).applyTo UnicodeData.ascii (fun _ => [])
        (softStopped anchored)) = .ok (.softStop (some escalated)) := by
  have hearlier : (Getter.softStop "a1").run UnicodeData.ascii (softStopped anchored) =
      .ok (.softStop (some anchored)) := by
    decide +kernel
  have hissued : Representable (days 738000) := by decide
  have hrepresentable : (MapRecord.softStop escalated).Representable := by
    refine ⟨hissued, ?_⟩
    intro t ht
    cases ht
    decide
  have hcovers : (MapRecord.softStop escalated).Covers (.softStop (some anchored)) :=
    ⟨fun _ => rfl, fun _ => rfl⟩
  exact (set_then_get_iff (canonical_softStopped anchored) "a1" (.softStop escalated)
    hrepresentable hearlier).mpr hcovers

/-- The escalation marks of the earlier record survive a record without them. -/
theorem set_then_get_survives :
    (Getter.softStop "a1").run UnicodeData.ascii (softStopped escalated) =
        .ok (.softStop (some escalated)) ∧
      (Getter.softStop "a1").run UnicodeData.ascii
        ((StoreMutation.setSoftStop "a1" anchored).applyTo UnicodeData.ascii (fun _ => [])
          (softStopped escalated)) ≠ .ok (.softStop (some anchored)) := by
  decide +kernel

end SetThenGet

end StatusDocument
end OpenStudioOperator
