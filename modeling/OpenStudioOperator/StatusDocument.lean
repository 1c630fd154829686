import OpenStudioOperator.Foundation.IsoFormat
import OpenStudioOperator.Foundation.PyText
import OpenStudioOperator.StatusStore

/-!
# The status as a JSON document

The store below its types: how records are written into the document and read
back, what each getter makes of an arbitrary document, and the merge patch
that each mutation sends.

An absent `.status` is a null.  A `datetime` is its instant, counted from the
start of the calendar; `_to_utc` changes its offset only.  An object is
iterated by key.
-/

namespace OpenStudioOperator
namespace StatusDocument

open Foundation

/-- The exceptions that reading a document can end in. -/
inductive PyExc where
  | statusStoreError (message : String)
  | typeError (message : String)
  | valueError (message : String)
  | overflowError (message : String)
  | attributeError (message : String)
deriving DecidableEq, Repr

section Codec

variable (unicode : UnicodeData)

/-!
## Timestamps
-/

/-- `datetime` can hold the instant. -/
def Representable (t : Instant) : Prop :=
  0 <= t ∧ t < IsoFormat.endOfCalendar

instance decidableRepresentable (t : Instant) : Decidable (Representable t) :=
  inferInstanceAs (Decidable (_ ∧ _))

/-- `_to_utc(when).isoformat()`. -/
def isoformat (t : Instant) : String :=
  IsoFormat.format t.toNat

/-- `astimezone(UTC)`. -/
def astimezone (stamp : IsoFormat.Stamp) : Except PyExc Instant :=
  let utc : Instant := stamp.wall - stamp.offset.getD 0
  if Representable utc then .ok utc else .error (.overflowError "date value out of range")

/-- `parse_iso_utc` of a value that is not null. -/
def parseIsoUtc (value : Json) : Except PyExc Instant :=
  match value with
  | .str text =>
      let normalized :=
        if text.toList.getLast? = some 'Z' then
          String.ofList (text.toList.dropLast ++ "+00:00".toList)
        else text
      match IsoFormat.parse normalized with
      | none => .error (.valueError ("unparseable timestamp " ++ reprStr unicode text))
      | some stamp => astimezone stamp
  | other =>
      .error (.typeError ("expected ISO-8601 string, got " ++ other.typeName))

/-- `_parse_utc`: only a `ValueError` becomes an error of the store. -/
def parseUtc (context : String) (value : Json) : Except PyExc Instant :=
  if value.isNull then
    .error (.statusStoreError (context ++ ": expected ISO-8601 string, got NoneType"))
  else
    match parseIsoUtc unicode value with
    | .error (.valueError message) => .error (.statusStoreError (context ++ ": " ++ message))
    | result => result

/-!
## Records
-/

structure SoftStopRecord where
  issuedAt : Instant
  outcome : String
  escalatedAt : Option Instant := none
  escalationOutcome : Option String := none
deriving DecidableEq, Repr

structure RequeueRecord where
  count : Int
  lastRequeuedAt : Instant
deriving DecidableEq, Repr

/-- `bucket` is written as a text or absent, and read as it stands, whatever it
is. -/
structure ArchivedAnalysisRecord (bucketType : Type) where
  backend : String
  bucket : bucketType
  verifiedAt : Option Instant := none
  jobName : Option String := none
  spawnedAt : Option Instant := none
deriving DecidableEq

structure StopRecord where
  issuedAt : Instant
  outcome : String
  stoppedAt : Option Instant := none
deriving DecidableEq, Repr

/-- A member of an encoded record, unless it is absent. -/
def optionalMember (key : String) (value : Option Json) : List (String × Json) :=
  match value with
  | none => []
  | some v => [(key, v)]

def timestamp (t : Instant) : Json := .str (isoformat t)

def SoftStopRecord.toDict (r : SoftStopRecord) : Json :=
  .obj (optionalMember "escalatedAt" (r.escalatedAt.map timestamp) ++
    optionalMember "escalationOutcome" (r.escalationOutcome.map .str) ++
    [("issuedAt", timestamp r.issuedAt), ("outcome", .str r.outcome)])

def RequeueRecord.toDict (r : RequeueRecord) : Json :=
  .obj [("count", .int r.count), ("lastRequeuedAt", timestamp r.lastRequeuedAt)]

/-- An absent bucket is written as a null. -/
def bucketValue (bucket : Option String) : Json :=
  (bucket.map .str).getD .null

def ArchivedAnalysisRecord.toDict (r : ArchivedAnalysisRecord (Option String)) : Json :=
  .obj ([("backend", .str r.backend), ("bucket", bucketValue r.bucket)] ++
    optionalMember "jobName" (r.jobName.map .str) ++
    optionalMember "spawnedAt" (r.spawnedAt.map timestamp) ++
    optionalMember "verifiedAt" (r.verifiedAt.map timestamp))

def StopRecord.toDict (r : StopRecord) : Json :=
  .obj ([("issuedAt", timestamp r.issuedAt), ("outcome", .str r.outcome)] ++
    optionalMember "stoppedAt" (r.stoppedAt.map timestamp))

/-- `raw.get(key)`: a null stands for an absent member. -/
def getMember (raw : List (String × Json)) (key : String) : Json :=
  (raw.lookup key).getD .null

/-- `_required`. -/
def required (raw : List (String × Json)) (key context : String) : Except PyExc Json :=
  match raw.lookup key with
  | none =>
      .error (.statusStoreError (context ++ ": missing required field " ++ reprStr unicode key))
  | some value => .ok value

/-- `None if value is None else parse(value)`. -/
def optionalField {alpha : Type} (value : Json) (parse : Json -> Except PyExc alpha) :
    Except PyExc (Option alpha) :=
  if value.isNull then .ok none else (parse value).map some

/-- The members of an entry, which has to be an object. -/
def expectObject (context : String) (raw : Json) : Except PyExc (List (String × Json)) :=
  match raw with
  | .obj ms => .ok ms
  | other =>
      .error (.statusStoreError (context ++ ": expected object, got " ++ other.typeName))

/-- `str(value)`. -/
def strOf (value : Json) : Except PyExc String :=
  .ok (value.pyStr unicode)

/-- `int(value)`. -/
def intOf (value : Json) : Except PyExc Int :=
  match value with
  | .int n => .ok n
  | .bool b => .ok (if b then 1 else 0)
  | .float (.finite x _) => .ok (if x < 0 then x.ceil else x.floor)
  | .float (.infinite _) =>
      .error (.overflowError "cannot convert float infinity to integer")
  | .str text =>
      match pyInt unicode text with
      | some n => .ok n
      | none =>
          .error (.valueError
            ("invalid literal for int() with base 10: " ++ reprStr unicode text))
  | other =>
      .error (.typeError ("int() argument must be a string, a bytes-like object " ++
        "or a real number, not '" ++ other.typeName ++ "'"))

def SoftStopRecord.fromDict (context : String) (raw : Json) :
    Except PyExc SoftStopRecord := do
  let ms <- expectObject context raw
  let issuedAt <- parseUtc unicode (context ++ ".issuedAt")
    (<- required unicode ms "issuedAt" context)
  let outcome <- strOf unicode (<- required unicode ms "outcome" context)
  let escalatedAt <- optionalField (getMember ms "escalatedAt")
    (parseUtc unicode (context ++ ".escalatedAt"))
  let escalationOutcome <- optionalField (getMember ms "escalationOutcome") (strOf unicode)
  return ⟨issuedAt, outcome, escalatedAt, escalationOutcome⟩

def RequeueRecord.fromDict (context : String) (raw : Json) : Except PyExc RequeueRecord := do
  let ms <- expectObject context raw
  let count <- intOf unicode (<- required unicode ms "count" context)
  let lastRequeuedAt <- parseUtc unicode (context ++ ".lastRequeuedAt")
    (<- required unicode ms "lastRequeuedAt" context)
  return ⟨count, lastRequeuedAt⟩

def ArchivedAnalysisRecord.fromDict (context : String) (raw : Json) :
    Except PyExc (ArchivedAnalysisRecord Json) := do
  let ms <- expectObject context raw
  let backend <- strOf unicode (<- required unicode ms "backend" context)
  let verifiedAt <- optionalField (getMember ms "verifiedAt")
    (parseUtc unicode (context ++ ".verifiedAt"))
  let jobName <- optionalField (getMember ms "jobName") (strOf unicode)
  let spawnedAt <- optionalField (getMember ms "spawnedAt")
    (parseUtc unicode (context ++ ".spawnedAt"))
  return ⟨backend, getMember ms "bucket", verifiedAt, jobName, spawnedAt⟩

def StopRecord.fromDict (context : String) (raw : Json) : Except PyExc StopRecord := do
  let ms <- expectObject context raw
  let issuedAt <- parseUtc unicode (context ++ ".issuedAt")
    (<- required unicode ms "issuedAt" context)
  let outcome <- strOf unicode (<- required unicode ms "outcome" context)
  let stoppedAt <- optionalField (getMember ms "stoppedAt")
    (parseUtc unicode (context ++ ".stoppedAt"))
  return ⟨issuedAt, outcome, stoppedAt⟩

/-!
## Getters
-/

def lastRecycleAtKey : String := "lastRecycleAt"

def lastWebBackgroundRestartKey : String := "lastWebBackgroundRestart"

def stallWindowStartedAtKey : String := "stallWindowStartedAt"

def webBackgroundIneffectiveRestartsKey : String := "webBackgroundIneffectiveRestarts"

def deferredEventsKey : String := "deferredEvents"

/-- `_read_status`: a false value stands for an empty object, and any other
value has no `get`. -/
def readStatus (status : Json) : Except PyExc (List (String × Json)) :=
  if status.truthy then
    match status with
    | .obj ms => .ok ms
    | other =>
        .error (.attributeError ("'" ++ other.typeName ++ "' object has no attribute 'get'"))
  else .ok []

/-- `_read_map`. -/
def readMap (field : StatusField) (status : Json) : Except PyExc (List (String × Json)) := do
  let ms <- readStatus status
  let raw := getMember ms field.key
  if raw.truthy then
    match raw with
    | .obj entries => return entries
    | other =>
        throw (.statusStoreError
          ("status." ++ field.key ++ ": expected object, got " ++ other.typeName))
  else return []

def entryContext (field : StatusField) (key : String) : String :=
  "status." ++ field.key ++ "[" ++ reprStr unicode key ++ "]"

/-- All entries of a map, decoded one after the other. -/
def getEntries {alpha : Type} (field : StatusField)
    (decode : String -> Json -> Except PyExc alpha) (status : Json) :
    Except PyExc (List (String × alpha)) := do
  let entries <- readMap field status
  entries.mapM fun entry => do
    let record <- decode (entryContext unicode field entry.1) entry.2
    return (entry.1, record)

/-- One entry of a map; a null is no entry. -/
def getEntry {alpha : Type} (field : StatusField)
    (decode : String -> Json -> Except PyExc alpha) (key : String) (status : Json) :
    Except PyExc (Option alpha) := do
  let entries <- readMap field status
  optionalField (getMember entries key) (decode (entryContext unicode field key))

/-- `_get_scalar`. -/
def getScalar (key : String) (status : Json) : Except PyExc (Option Instant) := do
  let ms <- readStatus status
  optionalField (getMember ms key) (parseUtc unicode ("status." ++ key))

/-- `_get_int`: strictly an integer, absent reads as zero. -/
def getInt (key : String) (status : Json) : Except PyExc Int := do
  let ms <- readStatus status
  match getMember ms key with
  | .null => return 0
  | .int n => return n
  | other =>
      throw (.statusStoreError
        ("status." ++ key ++ ": expected integer, got " ++ other.typeName))

/-- The entries of `status.deferredEvents`, their values as texts. -/
def deferredEntries : Nat -> List Json -> Except PyExc (List (List (String × String)))
  | _, [] => .ok []
  | i, .obj ms :: rest => do
      let later <- deferredEntries (i + 1) rest
      return ms.map (fun m => (m.1, m.2.pyStr unicode)) :: later
  | i, other :: _ =>
      .error (.statusStoreError ("status." ++ deferredEventsKey ++ "[" ++ toString i ++
        "]: expected object, got " ++ other.typeName))

/-- `get_deferred_events`. -/
def getDeferredEvents (status : Json) : Except PyExc (List (List (String × String))) := do
  let ms <- readStatus status
  let raw := getMember ms deferredEventsKey
  if raw.truthy then
    match raw with
    | .arr items => deferredEntries unicode 0 items
    | other =>
        throw (.statusStoreError
          ("status." ++ deferredEventsKey ++ ": expected array, got " ++ other.typeName))
  else return []

/-- The public getters. -/
inductive Getter where
  | softStops
  | softStop (id : String)
  | requeues
  | requeue (id : String)
  | startedSinceMap
  | startedSince (id : String)
  | archivedAnalyses
  | archivedAnalysis (id : String)
  | stopRecord (id : String)
  | deferredEvents
  | lastRecycleAt
  | lastWebBackgroundRestartAt
  | stallWindowStartedAt
  | webBackgroundIneffectiveRestarts
deriving DecidableEq, Repr

/-- What a getter returns. -/
inductive Value where
  | softStops (records : List (String × SoftStopRecord))
  | softStop (record : Option SoftStopRecord)
  | requeues (records : List (String × RequeueRecord))
  | requeue (record : Option RequeueRecord)
  | instants (times : List (String × Instant))
  | instant (time : Option Instant)
  | archivedAnalyses (records : List (String × ArchivedAnalysisRecord Json))
  | archivedAnalysis (record : Option (ArchivedAnalysisRecord Json))
  | stopRecord (record : Option StopRecord)
  | deferredEvents (entries : List (List (String × String)))
  | count (n : Int)
deriving DecidableEq

def Getter.run (getter : Getter) (status : Json) : Except PyExc Value :=
  match getter with
  | .softStops =>
      (getEntries unicode .softStops (SoftStopRecord.fromDict unicode) status).map .softStops
  | .softStop id =>
      (getEntry unicode .softStops (SoftStopRecord.fromDict unicode) id status).map .softStop
  | .requeues =>
      (getEntries unicode .requeues (RequeueRecord.fromDict unicode) status).map .requeues
  | .requeue id =>
      (getEntry unicode .requeues (RequeueRecord.fromDict unicode) id status).map .requeue
  | .startedSinceMap =>
      (getEntries unicode .startedSince (parseUtc unicode) status).map .instants
  | .startedSince id =>
      (getEntry unicode .startedSince (parseUtc unicode) id status).map .instant
  | .archivedAnalyses =>
      (getEntries unicode .archivedAnalyses (ArchivedAnalysisRecord.fromDict unicode)
        status).map .archivedAnalyses
  | .archivedAnalysis id =>
      (getEntry unicode .archivedAnalyses (ArchivedAnalysisRecord.fromDict unicode) id
        status).map .archivedAnalysis
  | .stopRecord id =>
      (getEntry unicode .stoppedAnalyses (StopRecord.fromDict unicode) id status).map
        .stopRecord
  | .deferredEvents => (getDeferredEvents unicode status).map .deferredEvents
  | .lastRecycleAt => (getScalar unicode lastRecycleAtKey status).map .instant
  | .lastWebBackgroundRestartAt =>
      (getScalar unicode lastWebBackgroundRestartKey status).map .instant
  | .stallWindowStartedAt => (getScalar unicode stallWindowStartedAtKey status).map .instant
  | .webBackgroundIneffectiveRestarts =>
      (getInt webBackgroundIneffectiveRestartsKey status).map .count

end Codec

/-!
## Mutations
-/

/-- The public mutations. -/
inductive StoreMutation where
  | setSoftStop (id : String) (record : SoftStopRecord)
  | markSoftStopEscalated (id : String) (at' : Instant) (outcome : String)
  | clearSoftStop (id : String)
  | setRequeue (id : String) (record : RequeueRecord)
  | setStartedSince (id : String) (at' : Instant)
  | clearStartedSince (id : String)
  | setArchivedAnalysis (id : String) (record : ArchivedAnalysisRecord (Option String))
  | clearArchivedAnalysis (id : String)
  | setStopRecord (id : String) (record : StopRecord)
  | pruneStopRecord (id : String)
  | appendDeferredEvent (entry : List (String × String)) (maxEntries : Option Nat)
  | clearDeferredEvents
  | setLastRecycleAt (at' : Option Instant)
  | setLastWebBackgroundRestartAt (at' : Option Instant)
  | setStallWindowStartedAt (at' : Option Instant)
  | setWebBackgroundIneffectiveRestarts (count : Int)
  | prune (liveAnalysisIds liveDatapointIds : Option (List String))
deriving DecidableEq

/-- The keys of a map that the size cap drops. -/
def cappedKeys (protectedIds : List String) (entries : List (String × Json)) :
    List String :=
  let keys := entries.map Prod.fst
  (keys.filter (· ∉ protectedIds) ++ keys.filter (· ∈ protectedIds)).take
    (entries.length - statusMapMaxEntries + 1)

/-- The map patch at the cap: a null for every key dropped, and every other
entry as it was read. -/
def cappedPatch (protectedIds : List String) (key : String) (encoded : Json)
    (entries : List (String × Json)) : Json :=
  let evicted := cappedKeys protectedIds entries
  .obj (Members.insert key encoded (entries.map fun entry =>
    (entry.1, if entry.1 ∈ evicted then Json.null else entry.2)))

/-- The closure of `_set_map_entry`; clearing encodes as a null. -/
def entryPatch (protectedIds : List String) (field : StatusField) (key : String)
    (encoded : Json) (status : List (String × Json)) : Option Json :=
  let entries := (getMember status field.key).members
  let current := getMember entries key
  if !encoded.isNull ∧ statusMapMaxEntries <= entries.length ∧ !current.pyEq encoded then
    some (.obj [(field.key, cappedPatch protectedIds key encoded entries)])
  else if current.pyEq encoded then none
  else some (.obj [(field.key, .obj [(key, encoded)])])

section Patches

variable (unicode : UnicodeData)

/-- The closure of `mark_soft_stop_escalated`. -/
def escalationPatch (id : String) (at' : Instant) (outcome : String)
    (status : List (String × Json)) : Except PyExc (Option Json) :=
  match getMember (getMember status StatusField.softStops.key).members id with
  | .obj current =>
      let encoded := Members.insert "escalatedAt" (timestamp at')
        (Members.insert "escalationOutcome" (.str outcome) current)
      if (Json.obj encoded).pyEq (.obj current) then .ok none
      else .ok (some (.obj [(StatusField.softStops.key, .obj [(id, .obj encoded)])]))
  | _ =>
      .error (.statusStoreError (entryContext unicode .softStops id ++
        ": anchor vanished before escalation marker"))

/-- The closure of `_set_scalar` and `_set_int`; clearing encodes as a null. -/
def scalarPatch (key : String) (encoded : Json) (status : List (String × Json)) :
    Option Json :=
  if (getMember status key).pyEq encoded then none else some (.obj [(key, encoded)])

def encodeEvent (entry : List (String × String)) : Json :=
  .obj (entry.foldl (fun ms pair => Members.insert pair.1 (.str pair.2) ms) [])

/-- The closure of `append_deferred_event`; what is not an array counts as
empty. -/
def appendPatch (entry : List (String × String)) (maxEntries : Option Nat)
    (status : List (String × Json)) : Option Json :=
  let current :=
    match getMember status deferredEventsKey with
    | .arr items => items
    | _ => []
  if maxEntries.any fun limit => decide (limit <= current.length) then none
  else some (.obj [(deferredEventsKey, .arr (current ++ [encodeEvent entry]))])

/-- The closure of `clear_deferred_events`. -/
def clearPatch (status : List (String × Json)) : Option Json :=
  if (getMember status deferredEventsKey).truthy then some (.obj [(deferredEventsKey, .null)])
  else none

/-- The nulls of one map that `prune` sends. -/
def scopePatch (status : List (String × Json)) (scope : StatusField × Option (List String)) :
    Option (String × Json) :=
  match scope.2 with
  | none => none
  | some live =>
      let dead := (getMember status scope.1.key).members.filter fun entry => entry.1 ∉ live
      if dead.isEmpty then none
      else some (scope.1.key, .obj (dead.map fun entry => (entry.1, Json.null)))

/-- The closure of `prune`. -/
def prunePatch (liveAnalysisIds liveDatapointIds : Option (List String))
    (status : List (String × Json)) : Option Json :=
  let deletions := (pruneScopes liveAnalysisIds liveDatapointIds).filterMap (scopePatch status)
  if deletions.isEmpty then none
  else some (.obj (deletions.foldl (fun ms d => Members.insert d.1 d.2 ms) []))

/-- The patch of `.status` that a mutation computes from the status it read,
or none to skip the write. -/
def StoreMutation.buildPatch (protectedIds : StatusField -> List String)
    (op : StoreMutation) (status : List (String × Json)) : Except PyExc (Option Json) :=
  let entry := fun field => entryPatch (protectedIds field) field
  match op with
  | .setSoftStop id record => .ok (entry .softStops id record.toDict status)
  | .markSoftStopEscalated id at' outcome => escalationPatch unicode id at' outcome status
  | .clearSoftStop id => .ok (entry .softStops id .null status)
  | .setRequeue id record => .ok (entry .requeues id record.toDict status)
  | .setStartedSince id at' => .ok (entry .startedSince id (timestamp at') status)
  | .clearStartedSince id => .ok (entry .startedSince id .null status)
  | .setArchivedAnalysis id record => .ok (entry .archivedAnalyses id record.toDict status)
  | .clearArchivedAnalysis id => .ok (entry .archivedAnalyses id .null status)
  | .setStopRecord id record => .ok (entry .stoppedAnalyses id record.toDict status)
  | .pruneStopRecord id => .ok (entry .stoppedAnalyses id .null status)
  | .appendDeferredEvent event maxEntries => .ok (appendPatch event maxEntries status)
  | .clearDeferredEvents => .ok (clearPatch status)
  | .setLastRecycleAt at' =>
      .ok (scalarPatch lastRecycleAtKey ((at'.map timestamp).getD .null) status)
  | .setLastWebBackgroundRestartAt at' =>
      .ok (scalarPatch lastWebBackgroundRestartKey ((at'.map timestamp).getD .null) status)
  | .setStallWindowStartedAt at' =>
      .ok (scalarPatch stallWindowStartedAtKey ((at'.map timestamp).getD .null) status)
  | .setWebBackgroundIneffectiveRestarts count =>
      .ok (scalarPatch webBackgroundIneffectiveRestartsKey (.int count) status)
  | .prune liveAnalysisIds liveDatapointIds =>
      .ok (prunePatch liveAnalysisIds liveDatapointIds status)

/-- The status after a mutation that meets no other writer. -/
def StoreMutation.applyTo (protectedIds : StatusField -> List String) (op : StoreMutation)
    (status : Json) : Json :=
  match readStatus status >>= op.buildPatch unicode protectedIds with
  | .ok (some patch) => status.mergePatch patch
  | _ => status

end Patches

end StatusDocument
end OpenStudioOperator
