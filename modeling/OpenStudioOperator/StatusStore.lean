import OpenStudioOperator.Effects

/-!
# The status store

Typed reads and conflict-retried read-modify-write mutations of the status.
`ReadModifyWrite.run` is the retry loop of `_mutate`; the patch builders below
are the closures the store passes to it.
-/

namespace OpenStudioOperator

open Foundation

def maxConflictRetries : Nat := 5

def statusMapMaxEntries : Nat := 10000

def statusMapCappedEvent : String := "StatusMapCapped"

/-!
## Transport
-/

/-- `_read_status` behind the typed getter `op`. -/
def readStatus (op : StoreOp) : OpM Status := fun env w =>
  let server := env.server w.trace op
  let s := server.beforeRead 1 w.status
  match server.read 1 with
  | none => .ok s (w.commit env.now op (.ok ()) s)
  | some e => .error e (w.commit env.now op (.error e) s)

section Mutate

variable {patch acc : Type}

/-- The retry loop of `_mutate` for the store method `op`. -/
def mutateOutcome (op : StoreOp) (apply : patch -> Status -> Status)
    (build : acc -> Status -> Except Exc (Option patch × acc)) (init : acc)
    (env : Env) (w : World) : RmwOutcome Status patch Exc acc :=
  ReadModifyWrite.run (env.server w.trace op) apply build
    Exc.statusStoreConflictError maxConflictRetries 1 init w.status

/-- `_mutate`: the accumulator is what the closure assigned on its last call. -/
def mutateStatus (op : StoreOp) (apply : patch -> Status -> Status)
    (build : acc -> Status -> Except Exc (Option patch × acc)) (init : acc) :
    OpM acc := fun env w =>
  let out := mutateOutcome op apply build init env w
  match out.result with
  | .ok a => .ok a (w.commit env.now op (.ok ()) out.final)
  | .error e => .error e (w.commit env.now op (.error e) out.final)

end Mutate

/-!
## Map patches

A map patch is an object of entries: a null removes the key, a record is
merged into the older entry.
-/

section MapPatch

variable {record : Type}

def mergeEntry (merge : record -> record -> record) (old : Option record)
    (new : record) : record :=
  match old with
  | none => new
  | some r => merge r new

def applyPatchEntry (merge : record -> record -> record)
    (m : Dict String record) (entry : String × Option record) :
    Dict String record :=
  match entry.2 with
  | none => m.erase entry.1
  | some r => m.set entry.1 (mergeEntry merge (m.get? entry.1) r)

def applyMapPatch (merge : record -> record -> record)
    (patch : Dict String (Option record)) (m : Dict String record) :
    Dict String record :=
  patch.entries.foldl (applyPatchEntry merge) m

/-- The keys the size cap drops: unprotected ones first, each group sorted. -/
def evictedKeys (protectedIds : List String) (m : Dict String record) :
    List String :=
  let sorted := m.keys.mergeSort (fun a b => decide (a ≤ b))
  let unprotectedFirst := sorted.filter (fun k => k ∉ protectedIds)
  let protectedLast := sorted.filter (fun k => k ∈ protectedIds)
  (unprotectedFirst ++ protectedLast).take (m.size - statusMapMaxEntries + 1)

variable [DecidableEq record]

/-- The map patch `_set_map_entry` computes from the map it read, with the
keys it evicts.  At the cap the patch also repeats every surviving entry. -/
def buildMapPatch (protectedIds : List String) (key : String)
    (encoded : Option record) (m : Dict String record) :
    Option (Dict String (Option record)) × Option (List String) :=
  let current := m.get? key
  if encoded.isSome ∧ statusMapMaxEntries ≤ m.size ∧ current ≠ encoded then
    let evicted := evictedKeys protectedIds m
    let survivors := m.mapValues
      (fun k v => if k ∈ evicted then none else some v)
    (some (survivors.set key encoded), some evicted)
  else if current = encoded then
    (none, none)
  else
    (some (Dict.empty.set key encoded), none)


end MapPatch

/-- The Event text of a cap eviction. -/
def cappedMessage (field : StatusField) (key : String)
    (evicted protectedIds : List String) : String :=
  let quoted := evicted.map fun k => "'" ++ k ++ "'"
  let preview := String.intercalate ", " (quoted.take 5)
  let more := evicted.length - 5
  let preview := if 5 < evicted.length then preview ++ s!" (+{more} more)" else preview
  let dropped := evicted.length
  let fieldKey := field.key
  let message :=
    s!"status.{fieldKey} size capped at {statusMapMaxEntries}: " ++
    s!"dropped {dropped} entries ({preview}) to " ++
    s!"make room for key '{key}'. Defensive cap (issue #171); " ++
    "the underlying status map is the operator's only durable " ++
    "state, and an unbounded map would amplify RMW cost on " ++
    "every tick."
  let protectedDropped := (evicted.filter (· ∈ protectedIds)).length
  if protectedDropped = 0 then message
  else
    message ++ s!" WARNING: {protectedDropped} evicted entry(ies) were " ++
      "live-anchor-protected (no unprotected candidate remained — " ++
      "the hard cap dominates; issue #648)."

/-- The registered live anchors of one map. -/
def protectedAnchorKeys (field : StatusField) : OpM (List String) := fun _ w =>
  .ok (w.protectedKeys field) w

section SetMapEntry

variable {record : Type} [DecidableEq record]

/-- Applying a map patch to the whole status. -/
def applyFieldPatch (field : MapField record)
    (patch : Dict String (Option record)) (s : Status) : Status :=
  field.write (applyMapPatch field.merge patch (field.read s)) s

/-- The closure `build_patch` of `_set_map_entry`.  The accumulator is its
`evicted_keys`, which a retry without an eviction leaves as it was. -/
def buildFieldPatch (field : MapField record) (protectedIds : List String)
    (key : String) (encoded : Option record) (evicted : List String)
    (s : Status) :
    Except Exc (Option (Dict String (Option record)) × List String) :=
  let built := buildMapPatch protectedIds key encoded (field.read s)
  .ok (built.1, built.2.getD evicted)

/-- The per-eviction Event, sent after the write. -/
def reportEviction (field : StatusField) (key : String)
    (evicted protectedIds : List String) : OpM Unit :=
  let message := cappedMessage field key evicted protectedIds
  call (fun env trace => env.statusMapCapped trace field message)
    (.statusMapCapped field message)

/-- `_set_map_entry`. -/
def setMapEntry (op : StoreOp) (field : MapField record) (key : String)
    (encoded : Option record) : OpM Unit := do
  let protectedIds <- protectedAnchorKeys field.name
  let evicted <- mutateStatus op (applyFieldPatch field)
    (buildFieldPatch field protectedIds key encoded) []
  if evicted.isEmpty then pure ()
  else reportEviction field.name key evicted protectedIds

end SetMapEntry

/-!
## Typed accessors
-/

def getSoftStops : OpM (Dict String SoftStopRecord) := do
  return (<- readStatus .getSoftStops).softStops

def setSoftStop (id : String) (record : SoftStopRecord) : OpM Unit :=
  setMapEntry (.setSoftStop id record) softStopsField id (some record)

/-- The closure of `mark_soft_stop_escalated`: stamp the anchor as it is read,
and raise when it is gone. -/
def buildEscalationMark (id : String) (at' : Instant)
    (outcome : EscalationOutcome) (s : Status) :
    Except Exc (Option SoftStopRecord × Unit) :=
  match s.softStops.get? id with
  | none =>
      .error (.statusStoreError
        s!"status.softStops['{id}']: anchor vanished before escalation marker")
  | some current =>
      let encoded := { current with
        escalatedAt := some at'
        escalationOutcome := some outcome }
      if encoded = current then .ok (none, ()) else .ok (some encoded, ())

def markSoftStopEscalated (id : String) (at' : Instant)
    (outcome : EscalationOutcome) : OpM Unit :=
  mutateStatus (.markSoftStopEscalated id at' outcome)
    (fun record => applyFieldPatch softStopsField (Dict.empty.set id (some record)))
    (fun _ => buildEscalationMark id at' outcome)
    ()

def clearSoftStop (id : String) : OpM Unit :=
  setMapEntry (.clearSoftStop id) softStopsField id none

def getRequeues : OpM (Dict String RequeueRecord) := do
  return (<- readStatus .getRequeues).requeues

def setRequeue (id : String) (record : RequeueRecord) : OpM Unit :=
  setMapEntry (.setRequeue id record) requeuesField id (some record)

def getStartedSinceMap : OpM (Dict String Instant) := do
  return (<- readStatus .getStartedSinceMap).startedSince

def setStartedSince (id : String) (at' : Instant) : OpM Unit :=
  setMapEntry (.setStartedSince id at') startedSinceField id (some at')

def clearStartedSince (id : String) : OpM Unit :=
  setMapEntry (.clearStartedSince id) startedSinceField id none

def getArchivedAnalyses : OpM (Dict String ArchivedAnalysisRecord) := do
  return (<- readStatus .getArchivedAnalyses).archivedAnalyses

def setArchivedAnalysis (id : String) (record : ArchivedAnalysisRecord) :
    OpM Unit :=
  setMapEntry (.setArchivedAnalysis id record) archivedAnalysesField id (some record)

def clearArchivedAnalysis (id : String) : OpM Unit :=
  setMapEntry (.clearArchivedAnalysis id) archivedAnalysesField id none

def getStopRecord (id : String) : OpM (Option StopRecord) := do
  return (<- readStatus (.getStopRecord id)).stoppedAnalyses.get? id

def setStopRecord (id : String) (record : StopRecord) : OpM Unit :=
  setMapEntry (.setStopRecord id record) stoppedAnalysesField id (some record)

def pruneStopRecord (id : String) : OpM Unit :=
  setMapEntry (.pruneStopRecord id) stoppedAnalysesField id none

/-!
## Scalars
-/

section Scalars

variable {value : Type} [DecidableEq value]

/-- The closure of `_set_scalar` and of `_set_int`: nothing is sent for a value
that is already stored. -/
def buildScalarPatch (field : ScalarField value) (encoded : Option value) (s : Status) :
    Except Exc (Option (Option value) × Unit) :=
  if field.read s = encoded then .ok (none, ()) else .ok (some encoded, ())

/-- `_set_scalar`; an absent value clears the field. -/
def setScalar (op : StoreOp) (field : ScalarField value) (encoded : Option value) :
    OpM Unit :=
  mutateStatus op field.write (fun _ => buildScalarPatch field encoded) ()

end Scalars

def getLastWebBackgroundRestartAt : OpM (Option Instant) := do
  return (<- readStatus .getLastWebBackgroundRestartAt).lastWebBackgroundRestart

def setLastWebBackgroundRestartAt (at' : Option Instant) : OpM Unit :=
  setScalar (.setLastWebBackgroundRestartAt at') lastWebBackgroundRestartField at'

def getLastRecycleAt : OpM (Option Instant) := do
  return (<- readStatus .getLastRecycleAt).lastRecycleAt

def setLastRecycleAt (at' : Option Instant) : OpM Unit :=
  setScalar (.setLastRecycleAt at') lastRecycleAtField at'

def getStallWindowStartedAt : OpM (Option Instant) := do
  return (<- readStatus .getStallWindowStartedAt).stallWindowStartedAt

def setStallWindowStartedAt (at' : Option Instant) : OpM Unit :=
  setScalar (.setStallWindowStartedAt at') stallWindowStartedAtField at'

/-- `_get_int`: an absent count reads as zero. -/
def getWebBackgroundIneffectiveRestarts : OpM Int := do
  let s <- readStatus .getWebBackgroundIneffectiveRestarts
  return s.webBackgroundIneffectiveRestarts.getD 0

def setWebBackgroundIneffectiveRestarts (count : Int) : OpM Unit :=
  setScalar (.setWebBackgroundIneffectiveRestarts count)
    webBackgroundIneffectiveRestartsField (some count)

/-!
## Pruning
-/

/-- `protect_anchor_keys`: the registered set is replaced, not extended. -/
def protectAnchorKeys (field : StatusField) (keys : List String) : OpM Unit :=
  fun _ w => .ok () { w with
    protectedKeys := fun f => if f = field then keys else w.protectedKeys f }

def StatusField.keysIn (field : StatusField) (s : Status) : List String :=
  match field with
  | softStops => s.softStops.keys
  | requeues => s.requeues.keys
  | startedSince => s.startedSince.keys
  | archivedAnalyses => s.archivedAnalyses.keys
  | stoppedAnalyses => s.stoppedAnalyses.keys

def eraseAll {record : Type} (ids : List String) (m : Dict String record) :
    Dict String record :=
  ids.foldl Dict.erase m

/-- A merge patch of nulls on one map. -/
def StatusField.eraseIn (field : StatusField) (ids : List String) (s : Status) : Status :=
  match field with
  | softStops => { s with softStops := eraseAll ids s.softStops }
  | requeues => { s with requeues := eraseAll ids s.requeues }
  | startedSince => { s with startedSince := eraseAll ids s.startedSince }
  | archivedAnalyses => { s with archivedAnalyses := eraseAll ids s.archivedAnalyses }
  | stoppedAnalyses => { s with stoppedAnalyses := eraseAll ids s.stoppedAnalyses }

/-- The maps `prune` covers, each with the live ids of its keys; an id space
without a live set is left alone. -/
def pruneScopes (liveAnalysisIds liveDatapointIds : Option (List String)) :
    List (StatusField × Option (List String)) :=
  [(.softStops, liveAnalysisIds),
    (.archivedAnalyses, liveAnalysisIds),
    (.stoppedAnalyses, liveAnalysisIds),
    (.requeues, liveDatapointIds),
    (.startedSince, liveDatapointIds)]

/-- The dead keys of one scope, if there are any. -/
def scopeDeletions (s : Status) (scope : StatusField × Option (List String)) :
    Option (StatusField × List String) :=
  match scope.2 with
  | none => none
  | some live =>
      let dead := (scope.1.keysIn s).filter (fun key => key ∉ live)
      if dead.isEmpty then none else some (scope.1, dead)

def deletionsOf (liveAnalysisIds liveDatapointIds : Option (List String))
    (s : Status) : List (StatusField × List String) :=
  (pruneScopes liveAnalysisIds liveDatapointIds).filterMap (scopeDeletions s)

/-- The closure `build_patch` of `prune`; the accumulator is its `applied`. -/
def buildPrunePatch (liveAnalysisIds liveDatapointIds : Option (List String))
    (_ : List (StatusField × List String)) (s : Status) :
    Except Exc (Option (List (StatusField × List String)) ×
      List (StatusField × List String)) :=
  let deletions := deletionsOf liveAnalysisIds liveDatapointIds s
  let applied := deletions.map fun d =>
    (d.1, d.2.mergeSort (fun a b => decide (a ≤ b)))
  .ok (if deletions.isEmpty then none else some deletions, applied)

def applyPrunePatch (deletions : List (StatusField × List String)) (s : Status) :
    Status :=
  deletions.foldl (fun s d => d.1.eraseIn d.2 s) s

/-- The outcome of the retry loop behind one prune. -/
def pruneOutcome (liveAnalysisIds liveDatapointIds : Option (List String))
    (env : Env) (w : World) :
    RmwOutcome Status (List (StatusField × List String)) Exc
      (List (StatusField × List String)) :=
  mutateOutcome (.prune liveAnalysisIds liveDatapointIds) applyPrunePatch
    (buildPrunePatch liveAnalysisIds liveDatapointIds) [] env w

/-- Put the patch that reached the server on the trace. -/
def World.notePruned (w : World) (time : Instant)
    (applied : Option (Attempt Status (List (StatusField × List String)) Exc)) : World :=
  match applied with
  | none => w
  | some attempt => w.log time (.pruned attempt.readState attempt.sent)

def prune (liveAnalysisIds liveDatapointIds : Option (List String)) :
    OpM (List (StatusField × List String)) := fun env w =>
  let op := StoreOp.prune liveAnalysisIds liveDatapointIds
  let out := pruneOutcome liveAnalysisIds liveDatapointIds env w
  match out.result with
  | .ok applied =>
      .ok applied ((w.commit env.now op (.ok ()) out.final).notePruned env.now out.applied)
  | .error e =>
      .error e ((w.commit env.now op (.error e) out.final).notePruned env.now out.applied)

end OpenStudioOperator
