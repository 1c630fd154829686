import OpenStudioOperator.StatusReadback

/-!
# Pruning by age

`_prune_stale_entries` drops the entries of the maps by the age of their first
timestamp.  It hands the timestamp to `utc_parser`, which takes an error class
and returns a parser, and compares what it gets with the limit.
-/

namespace OpenStudioOperator
namespace StatusDocument

open Foundation

/-!
## The function
-/

def statusEntryMaxAgeDays : Nat := 30

/-- `_STATUS_MAP_FIELDS`. -/
def statusMapFields : List StatusField :=
  [.softStops, .requeues, .startedSince, .archivedAnalyses, .stoppedAnalyses]

/-- `a or b`. -/
def pyOr (a b : Json) : Json :=
  if a.truthy then a else b

/-- The timestamp that the age of an entry is taken from. -/
def entryTimestamp (entry : List (String × Json)) : Json :=
  pyOr (getMember entry "verifiedAt") (pyOr (getMember entry "spawnedAt")
    (pyOr (getMember entry "issuedAt") (pyOr (getMember entry "queuedAt")
      (getMember entry "startedAt"))))

/-- A value that `entry_time` can have: a time, or a parser that would raise
this error class. -/
inductive EntryTime where
  | datetime (t : Instant)
  | parser (errorCls : Json)
deriving DecidableEq

/-- `utc_parser`. -/
def utcParser (errorCls : Json) : EntryTime :=
  .parser errorCls

/-- `entry_time < cutoff`. -/
def EntryTime.lessThan (entryTime : EntryTime) (cutoff : Instant) : Except PyExc Bool :=
  match entryTime with
  | .datetime t => .ok (decide (t < cutoff))
  | .parser _ =>
      .error (.typeError ("'<' not supported between instances of 'function' and " ++
        "'datetime.datetime'"))

/-- Whether the loop puts an entry on `to_remove`. -/
def isRemoved (cutoff : Instant) (entry : Json) : Except PyExc Bool :=
  match entry with
  | .obj ms =>
      let ts := entryTimestamp ms
      if ts.isNull then .ok false
      else
        match (utcParser ts).lessThan cutoff with
        | .ok older => .ok older
        | .error (.valueError _) => .ok true
        | .error (.typeError _) => .ok true
        | .error e => .error e
  | _ => .ok false

/-- `to_remove`, for one map. -/
def keysToRemove (cutoff : Instant) : List (String × Json) -> Except PyExc (List String)
  | [] => .ok []
  | (key, entry) :: rest => do
      let removed <- isRemoved cutoff entry
      let later <- keysToRemove cutoff rest
      return if removed then key :: later else later

/-- The pass over one map, which changes the status in place. -/
def pruneField (cutoff : Instant) (status : List (String × Json)) (field : StatusField) :
    Except PyExc (List (String × Json)) :=
  match status.lookup field.key with
  | some (.obj raw) => do
      let toRemove <- keysToRemove cutoff raw
      return Members.insert field.key (.obj (raw.filter fun e => e.1 ∉ toRemove)) status
  | _ => .ok status

/-- `_prune_stale_entries`. -/
def pruneStaleEntries (now : Instant) (status : List (String × Json)) :
    Except PyExc (List (String × Json)) :=
  statusMapFields.foldlM (pruneField (now - days statusEntryMaxAgeDays)) status

/-!
## Pruning by a test on the entries
-/

/-- A map without the entries that meet the test. -/
def pruneMap (test : Json -> Bool) (raw : Json) : Json :=
  match raw with
  | .obj entries => .obj (entries.filter fun e => !test e.2)
  | other => other

/-- One member of the status, pruned if it is one of these maps. -/
def pruneMember (test : Json -> Bool) (fields : List StatusField) (m : String × Json) :
    String × Json :=
  if m.1 ∈ fields.map StatusField.key then (m.1, pruneMap test m.2) else m

/-- The status without the entries of its maps that meet the test. -/
def pruneBy (test : Json -> Bool) (status : List (String × Json)) : List (String × Json) :=
  status.map (pruneMember test statusMapFields)

/-- An object whose timestamp cannot be parsed or is older than the limit. -/
def stale (unicode : UnicodeData) (now : Instant) (entry : Json) : Bool :=
  match entry with
  | .obj ms =>
      !(entryTimestamp ms).isNull &&
        match parseIsoUtc unicode (entryTimestamp ms) with
        | .ok t => decide (t < now - days statusEntryMaxAgeDays)
        | .error _ => true
  | _ => false

/-- An object with a timestamp. -/
def dated (entry : Json) : Bool :=
  match entry with
  | .obj ms => !(entryTimestamp ms).isNull
  | _ => false

/-- An object whose timestamp parses and is not older than the limit. -/
def Fresh (unicode : UnicodeData) (now : Instant) (entry : Json) : Prop :=
  exists ms t, entry = .obj ms ∧ (entryTimestamp ms).isNull = false ∧
    parseIsoUtc unicode (entryTimestamp ms) = .ok t ∧
    now - days statusEntryMaxAgeDays <= t

/-!
## What the function removes

Every parser that is compared with the limit raises, so the timestamp of an
entry does not matter.
-/

section Pruning

variable {cutoff : Instant} {status raw : List (String × Json)} {fields : List StatusField}

theorem isRemoved_eq (cutoff : Instant) (entry : Json) :
    isRemoved cutoff entry = .ok (dated entry) := by
  cases entry with
  | obj ms =>
      unfold isRemoved dated
      cases hnull : (entryTimestamp ms).isNull with
      | true => simp only [hnull, if_true, Bool.not_true]
      | false => simp only [hnull, utcParser, EntryTime.lessThan, Bool.not_false]; rfl
  | _ => rfl

theorem keysToRemove_eq (cutoff : Instant) (raw : List (String × Json)) :
    keysToRemove cutoff raw = .ok ((raw.filter fun e => dated e.2).map Prod.fst) := by
  induction raw with
  | nil => rfl
  | cons entry rest ih =>
      rcases entry with ⟨key, entry⟩
      rw [keysToRemove, isRemoved_eq, ih]
      cases hdated : dated entry with
      | true => simp [hdated, bind, Except.bind, pure, Except.pure]
      | false => simp [hdated, bind, Except.bind, pure, Except.pure]

/-- The keys of a map are distinct, so a removed key takes its own entry only. -/
theorem filter_keysToRemove (h : Members.Sorted raw) :
    raw.filter (fun e => e.1 ∉ (raw.filter fun e => dated e.2).map Prod.fst) =
      raw.filter fun e => !dated e.2 := by
  apply List.filter_congr
  intro e he
  have hiff : e.1 ∈ (raw.filter fun e => dated e.2).map Prod.fst <-> dated e.2 = true := by
    rw [List.mem_map]
    constructor
    · intro hkey
      rcases hkey with ⟨e', he', heq⟩
      rcases List.mem_filter.mp he' with ⟨hmem', hdated⟩
      have hsame := (Members.lookup_of_mem h hmem').symm.trans
        (heq ▸ Members.lookup_of_mem h he)
      rwa [Option.some.inj hsame] at hdated
    · intro hdated
      exact ⟨e, List.mem_filter.mpr ⟨he, hdated⟩, rfl⟩
  cases hdated : dated e.2 with
  | true => simp [hiff.mpr hdated]
  | false => simp [mt hiff.mp (Bool.eq_false_iff.mp hdated)]

/-- The pass over one map. -/
theorem pruneField_eq (field : StatusField) (hsorted : Members.Sorted status)
    (hmaps : forall m, m ∈ status -> Members.Sorted m.2.members) :
    pruneField cutoff status field = .ok (status.map (pruneMember dated [field])) := by
  have hmember (m : String × Json) (hm : m ∈ status) : pruneMember dated [field] m =
      if m.1 = field.key then (field.key, pruneMap dated m.2) else m := by
    unfold pruneMember
    by_cases hk : m.1 = field.key
    · rw [if_pos (by simp [hk]), if_pos hk, hk]
    · rw [if_neg (by simpa using hk), if_neg hk]
  rw [List.map_congr_left hmember]
  have hunchanged (h : forall m, m ∈ status -> m.1 = field.key -> pruneMap dated m.2 = m.2) :
      status.map (fun m => if m.1 = field.key then (field.key, pruneMap dated m.2) else m) =
        status := by
    refine (List.map_congr_left ?_).trans (List.map_id status)
    intro m hm
    by_cases hk : m.1 = field.key
    · rw [if_pos hk, h m hm hk, ← hk, id]
    · rw [if_neg hk, id]
  have hvalue (m : String × Json) (hm : m ∈ status) (hk : m.1 = field.key) :
      status.lookup field.key = some m.2 := by
    rw [← hk]
    exact Members.lookup_of_mem hsorted hm
  unfold pruneField
  cases hfield : status.lookup field.key with
  | none =>
      rw [hunchanged]
      intro m hm hk
      rw [hvalue m hm hk] at hfield
      cases hfield
  | some old =>
      cases old with
      | obj raw =>
          have hmem := Members.mem_of_lookup hfield
          have hraw : Members.Sorted raw := hmaps _ hmem
          simp only [keysToRemove_eq, bind, Except.bind, pure, Except.pure,
            filter_keysToRemove hraw]
          rw [Members.insert_eq_map hsorted ⟨_, hmem⟩]
          refine congrArg Except.ok (List.map_congr_left ?_)
          intro m hm
          by_cases hk : m.1 = field.key
          · have hv : m.2 = .obj raw :=
              Option.some.inj ((hvalue m hm hk).symm.trans hfield)
            rw [if_pos hk, if_pos hk, hv, pruneMap]
          · rw [if_neg hk, if_neg hk]
      | _ =>
          simp only
          rw [hunchanged]
          intro m hm hk
          rw [Option.some.inj ((hvalue m hm hk).symm.trans hfield), pruneMap]
          intro entries hobj
          cases hobj

theorem pruneMap_pruneMap (test : Json -> Bool) (raw : Json) :
    pruneMap test (pruneMap test raw) = pruneMap test raw := by
  cases raw with
  | obj entries =>
      rw [pruneMap, pruneMap, List.filter_filter]
      simp only [Bool.and_self]
  | _ => rfl

theorem pruneMember_cons (test : Json -> Bool) (field : StatusField) (m : String × Json) :
    pruneMember test fields (pruneMember test [field] m) =
      pruneMember test (field :: fields) m := by
  unfold pruneMember
  by_cases hfirst : m.1 = field.key
  · by_cases hlater : m.1 ∈ fields.map StatusField.key
    · simp [← hfirst, hlater, pruneMap_pruneMap]
    · simp [← hfirst, hlater]
  · simp [hfirst]

theorem sorted_pruneMap (test : Json -> Bool) {value : Json}
    (h : Members.Sorted value.members) : Members.Sorted (pruneMap test value).members := by
  cases value with
  | obj entries => exact h.sublist List.filter_sublist
  | _ => exact h

theorem sorted_map_pruneMember (test : Json -> Bool) (h : Members.Sorted status) :
    Members.Sorted (status.map (pruneMember test fields)) := by
  have hkey (m : String × Json) : (pruneMember test fields m).1 = m.1 := by
    unfold pruneMember
    split <;> rfl
  unfold Members.Sorted
  rw [List.pairwise_map]
  refine h.imp ?_
  intro m m' hlt
  rwa [hkey, hkey]

/-- The passes over the maps one after the other. -/
theorem foldlM_pruneField (hsorted : Members.Sorted status)
    (hmaps : forall m, m ∈ status -> Members.Sorted m.2.members) :
    fields.foldlM (pruneField cutoff) status =
      .ok (status.map (pruneMember dated fields)) := by
  induction fields generalizing status with
  | nil =>
      refine congrArg Except.ok ((List.map_congr_left ?_).trans (List.map_id status)).symm
      intro m _
      rfl
  | cons field rest ih =>
      rw [List.foldlM_cons, pruneField_eq field hsorted hmaps]
      have hlater : forall m, m ∈ status.map (pruneMember dated [field]) ->
          Members.Sorted m.2.members := by
        intro m hm
        rcases List.mem_map.mp hm with ⟨m', hm', heq⟩
        subst heq
        unfold pruneMember
        split
        · exact sorted_pruneMap dated (hmaps m' hm')
        · exact hmaps m' hm'
      refine (ih (sorted_map_pruneMember dated hsorted) hlater).trans ?_
      rw [List.map_map]
      refine congrArg Except.ok (List.map_congr_left ?_)
      intro m _
      exact pruneMember_cons dated field m

/-- All entries with a timestamp go, whatever it says. -/
theorem pruneStaleEntries_eq (now : Instant) (h : (Json.obj status).Canonical) :
    pruneStaleEntries now status = .ok (pruneBy dated status) := by
  rw [Json.Canonical] at h
  refine foldlM_pruneField h.1 ?_
  intro m hm
  exact (Json.canonicalMembers_iff.mp h.2 m hm).members.1

end Pruning

/-!
## The entries that should stay
-/

section Age

variable {unicode : UnicodeData} {now : Instant} {status : List (String × Json)}
  {entry : Json}

theorem fresh_iff : Fresh unicode now entry <->
    dated entry = true ∧ stale unicode now entry = false := by
  unfold Fresh dated stale
  constructor
  · intro h
    rcases h with ⟨ms, t, hentry, hts, hparse, hage⟩
    subst hentry
    simp [hts, hparse, hage]
  · intro h
    cases entry with
    | obj ms =>
        rcases h with ⟨hdated, hstale⟩
        have hts : (entryTimestamp ms).isNull = false := by simpa using hdated
        cases hparse : parseIsoUtc unicode (entryTimestamp ms) with
        | error e => simp [hts, hparse] at hstale
        | ok t =>
            refine ⟨ms, t, rfl, hts, hparse, ?_⟩
            simpa [hts, hparse] using hstale
    | _ => simp at h

theorem dated_of_stale (h : stale unicode now entry = true) : dated entry = true := by
  cases entry with
  | obj ms =>
      rw [stale, Bool.and_eq_true] at h
      exact h.1
  | _ => cases h

/-- The two tests agree on an entry that is not fresh. -/
theorem dated_eq_stale (h : ¬ Fresh unicode now entry) :
    dated entry = stale unicode now entry := by
  rw [fresh_iff] at h
  cases hstale : stale unicode now entry with
  | true => exact dated_of_stale hstale
  | false =>
      cases hdated : dated entry with
      | true => exact absurd ⟨hdated, hstale⟩ h
      | false => rfl

end Age

/-!
### A soft stop of this moment
-/

/-- A status with one soft stop, issued at this time. -/
def softStopStatus (issuedAt : Instant) : List (String × Json) :=
  [(StatusField.softStops.key,
    .obj [("a", SoftStopRecord.toDict ⟨issuedAt, "watching", none, none⟩)])]

section SoftStop

variable {unicode : UnicodeData} {issuedAt now : Instant}

theorem truthy_timestamp (t : Instant) : (timestamp t).truthy = true := by
  have hlast := getLast?_isoformat t
  unfold timestamp Json.truthy
  cases htext : (isoformat t).isEmpty with
  | false => simp [htext]
  | true =>
      rw [String.isEmpty_iff.mp htext] at hlast
      cases hlast

theorem fresh_softStop (h : Representable issuedAt) :
    Fresh unicode now (SoftStopRecord.toDict ⟨issuedAt, "watching", none, none⟩) <->
      now - days statusEntryMaxAgeDays <= issuedAt := by
  have hts : entryTimestamp [("issuedAt", timestamp issuedAt), ("outcome", .str "watching")] =
      timestamp issuedAt := by
    have hverified (rest : Json) : pyOr (getMember [("issuedAt", timestamp issuedAt),
        ("outcome", Json.str "watching")] "verifiedAt") rest = rest := rfl
    have hspawned (rest : Json) : pyOr (getMember [("issuedAt", timestamp issuedAt),
        ("outcome", Json.str "watching")] "spawnedAt") rest = rest := rfl
    rw [entryTimestamp, hverified, hspawned]
    exact if_pos (truthy_timestamp issuedAt)
  have hobj : SoftStopRecord.toDict ⟨issuedAt, "watching", none, none⟩ =
      .obj [("issuedAt", timestamp issuedAt), ("outcome", .str "watching")] := rfl
  rw [hobj]
  constructor
  · intro hfresh
    rcases hfresh with ⟨ms, t, heq, -, hparse, hage⟩
    rw [← Json.obj.inj heq, hts, parseIsoUtc_timestamp h] at hparse
    rwa [Except.ok.inj hparse]
  · intro hage
    refine ⟨_, issuedAt, rfl, ?_, ?_, hage⟩
    · rw [hts]
      rfl
    · rw [hts]
      exact parseIsoUtc_timestamp h

/-- The one entry of the example. -/
theorem mem_softStopStatus {field : StatusField} {entries : List (String × Json)}
    {key : String} {entry : Json} (hmap : (field.key, .obj entries) ∈ softStopStatus issuedAt)
    (hentry : (key, entry) ∈ entries) :
    entry = SoftStopRecord.toDict ⟨issuedAt, "watching", none, none⟩ := by
  have hentries := congrArg Prod.snd (List.mem_singleton.mp hmap)
  rw [Json.obj.inj hentries, List.mem_singleton] at hentry
  exact congrArg Prod.snd hentry

theorem canonical_softStopStatus (issuedAt : Instant) :
    (Json.obj (softStopStatus issuedAt)).Canonical := by
  have hkeys : "issuedAt" < "outcome" := by decide
  have hentry : (SoftStopRecord.toDict ⟨issuedAt, "watching", none, none⟩).Canonical :=
    ⟨List.pairwise_pair.mpr hkeys, trivial, trivial, trivial⟩
  exact ⟨List.pairwise_singleton _ _, ⟨List.pairwise_singleton _ _, hentry, trivial⟩, trivial⟩

end SoftStop

end StatusDocument
end OpenStudioOperator
