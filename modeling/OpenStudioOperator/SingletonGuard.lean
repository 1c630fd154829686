import OpenStudioOperator.RedisCredentials
import OpenStudioOperator.Singleton
import Mathlib.Data.Finset.Insert

/-!
# The guard's checks and its watch events

A check lists the resources of the namespace, announces a change of the
election, and warns once about every resource without a Redis URL and about
every one whose Secret the operator may not read.  A watch event runs a check
unless it is a modification that leaves alone everything a check reacts to.
-/

namespace OpenStudioOperator
namespace SingletonGuard

open Foundation
open RedisCredentials

/-- A namespace and a name. -/
abbrev CrKey := String × String

def keyOf (cr : ClusterManager) : CrKey :=
  (textOf cr.metadata.crNamespace, textOf cr.metadata.name)

/-!
## Warnings
-/

/-- The members of the spec; none if there is no spec. -/
def specOf (cr : ClusterManager) : List (String × Json) :=
  cr.spec.getD []

/-- A member that is an object. -/
def objectAt (ms : List (String × Json)) (key : String) : Option (List (String × Json)) :=
  match ms.lookup key with
  | some (.obj members) => some members
  | _ => none

/-- A member that is a text. -/
def textAt (ms : List (String × Json)) (key : String) : Option String :=
  match ms.lookup key with
  | some (.str text) => some text
  | _ => none

/-- A well-formed `secretRef`; any other shape counts as absent. -/
def redisSecretRefOf (spec : List (String × Json)) : Option RedisSecretRef := do
  let credentials <- objectAt spec "redisCredentials"
  let secretRef <- objectAt credentials "secretRef"
  let name <- textAt secretRef "name"
  let key <- textAt secretRef "key"
  if name.isEmpty || key.isEmpty then none else some ⟨name, key⟩

def hasRedisSecretRef (spec : List (String × Json)) : Bool :=
  (redisSecretRefOf spec).isSome

/-- `str(spec.get("redisUrl") or "") == ""`: the text of a true value is never
empty. -/
def redisUrlEmpty (spec : List (String × Json)) : Bool :=
  !((spec.lookup "redisUrl").getD .null).truthy

/-- The object that the warnings are attached to. -/
def warnedCr (key : CrKey) : ClusterManager where
  metadata := { crNamespace := some key.1, name := some key.2 }

def redisUrlEmptyEvent (key : CrKey) : GuardEvent where
  cr := warnedCr key
  type := .warning
  reason := "RedisUrlEmpty"
  message := "spec.redisUrl is empty and spec.redisCredentials.secretRef is unset (issue #116). "
    ++ "Operator Modules 3/5 (worker recycler + web_background stall) will be no-ops until a "
    ++ "Redis URL is configured. Recommended: store the full redis://:password@queue... URL in a "
    ++ "Secret and reference it via spec.redisCredentials.secretRef (issue #463). The previous "
    ++ "default exposed the kind-recipe password \x60openstudio\x60 and has been removed."

def redisSecretRefForbiddenEvent (unicode : UnicodeData) (key : CrKey) (ref : RedisSecretRef) :
    GuardEvent where
  cr := warnedCr key
  type := .warning
  reason := "RedisSecretRefForbidden"
  message := "Secret read for spec.redisCredentials.secretRef " ++ reprStr unicode ref.name
    ++ " was denied (403 Forbidden, issue #606): the default operator Role (deploy/rbac.yaml) "
    ++ "grants secrets:get only on the canonical name(s) via resourceNames (default: "
    ++ "'openstudio-redis'). Either add " ++ reprStr unicode ref.name
    ++ " to the Role's resourceNames (a deliberate, reviewable RBAC change) or point "
    ++ "spec.redisCredentials.secretRef at a granted Secret. Redis-dependent ticks skip with "
    ++ "counted failures until resolved."

/-- One resource under a warning that is given at most once: the keys that are
done, and the Events. -/
abbrev OneTimeWarning := Finset CrKey -> ClusterManager -> Finset CrKey × List GuardEvent

def warnRedisUrl : OneTimeWarning := fun warned item =>
  let key := keyOf item
  if key.1 = "" ∨ key.2 = "" then (warned, [])
  else if key ∈ warned then (warned, [])
  else if redisUrlEmpty (specOf item) && !hasRedisSecretRef (specOf item) then
    (insert key warned, [redisUrlEmptyEvent key])
  else (warned, [])

/-- The answer to the probe of a Secret.  Any failure but a 403 may pass. -/
inductive ProbeOutcome where
  | success
  | forbidden
  | failed
deriving DecidableEq, Repr

def warnSecretRef (unicode : UnicodeData) (probe : CrKey -> RedisSecretRef -> ProbeOutcome) :
    OneTimeWarning := fun warned item =>
  let key := keyOf item
  if key.1 = "" ∨ key.2 = "" then (warned, [])
  else if key ∈ warned then (warned, [])
  else
    match redisSecretRefOf (specOf item) with
    | none => (warned, [])
    | some ref =>
        match probe key ref with
        | .failed => (warned, [])
        | .forbidden => (insert key warned, [redisSecretRefForbiddenEvent unicode key ref])
        | .success => (insert key warned, [])

/-- A warning over all items, one after the other. -/
def warnAll (warning : OneTimeWarning) : Finset CrKey -> List ClusterManager ->
    Finset CrKey × List GuardEvent
  | warned, [] => (warned, [])
  | warned, item :: rest =>
      let after := warning warned item
      let final := warnAll warning after.1 rest
      (final.1, after.2 ++ final.2)

def emitRedisUrlGuardEvents : Finset CrKey -> List ClusterManager ->
    Finset CrKey × List GuardEvent :=
  warnAll warnRedisUrl

def emitRedisSecretRefForbiddenEvents (unicode : UnicodeData)
    (probe : CrKey -> RedisSecretRef -> ProbeOutcome) : Finset CrKey -> List ClusterManager ->
    Finset CrKey × List GuardEvent :=
  warnAll (warnSecretRef unicode probe)

/-!
## A check
-/

/-- What a check reacts to in a resource. -/
structure PolicySurface where
  uid : String
  spec : Option (List (String × Json))
  labels : Option (List (String × String))
  annotations : Option (List (String × String))
  deletionTimestamp : String
deriving DecidableEq

def crPolicySurface (body : ClusterManager) : PolicySurface where
  uid := textOf body.metadata.uid
  spec := body.spec
  labels := body.metadata.labels
  annotations := body.metadata.annotations
  deletionTimestamp := textOf body.metadata.deletionTimestamp

/-- Python's `==` of two surfaces. -/
def PolicySurface.pyEq (a b : PolicySurface) : Bool :=
  decide (a.uid = b.uid) &&
    (match a.spec, b.spec with
      | none, none => true
      | some ms, some ms' => (Json.obj ms).pyEq (.obj ms')
      | _, _ => false) &&
    decide (a.labels = b.labels) && decide (a.annotations = b.annotations) &&
    decide (a.deletionTimestamp = b.deletionTimestamp)

/-- The fingerprints of the resources, the least recently used first. -/
abbrev GuardCache := List (CrKey × PolicySurface)

def maxGuardCacheEntries : Nat := 1000

def GuardCache.pop (cache : GuardCache) (key : CrKey) : GuardCache :=
  cache.filter fun entry => entry.1 ≠ key

/-- The entry of a key, which becomes the most recently used one. -/
def GuardCache.get (cache : GuardCache) (key : CrKey) : Option PolicySurface × GuardCache :=
  match List.lookup key cache with
  | none => (none, cache)
  | some surface => (some surface, cache.pop key ++ [(key, surface)])

/-- The entry of a key is set; the oldest entries go when there are too many. -/
def GuardCache.set (cache : GuardCache) (key : CrKey) (surface : PolicySurface) : GuardCache :=
  let entries := cache.pop key ++ [(key, surface)]
  if (List.lookup key cache).isSome then entries
  else entries.drop (entries.length - maxGuardCacheEntries)

/-- The memory of the process: the last view of the guard, if a check has
resolved one, the keys that were warned, and the fingerprints. -/
structure GuardState where
  lastState : Option GuardView := none
  redisUrlWarned : Finset CrKey := ∅
  secretRefWarned : Finset CrKey := ∅
  lastSeenSurface : GuardCache := []

/-- The answers that a check gets: the listing, absent when it fails, and the
probes of Secrets. -/
structure CheckAnswers where
  listCrs : Option (List ClusterManager)
  probe : CrKey -> RedisSecretRef -> ProbeOutcome

/-- The state and the Events of a check, and what escapes from it. -/
structure CheckResult where
  state : GuardState
  events : List GuardEvent
  raised : Option StatusDocument.PyExc

section Guard

variable (unicode : UnicodeData)

/-- The two warnings, after the election. -/
def warnItems (state : GuardState) (probe : CrKey -> RedisSecretRef -> ProbeOutcome)
    (items : List ClusterManager) (events : List GuardEvent) : CheckResult :=
  let urls := emitRedisUrlGuardEvents state.redisUrlWarned items
  let secrets := emitRedisSecretRefForbiddenEvents unicode probe state.secretRefWarned items
  { state := { state with redisUrlWarned := urls.1, secretRefWarned := secrets.1 }
    events := events ++ urls.2 ++ secrets.2
    raised := none }

def check (crNamespace : String) (state : GuardState) (answers : CheckAnswers) : CheckResult :=
  if crNamespace = "" then { state := state, events := [], raised := none }
  else
    match answers.listCrs with
    | none => { state := state, events := [], raised := none }
    | some items =>
        match enforce unicode state.lastState items with
        | .ok after =>
            warnItems unicode { state with lastState := after.1 } answers.probe items after.2
        -- an election that cannot be decided leaves the view; the warnings go on
        | .error (.singletonGuardError _) => warnItems unicode state answers.probe items []
        | .error (.raised exc) => { state := state, events := [], raised := some exc }

/-!
## Watch events
-/

/-- The type of a watch event; the initial listing has none. -/
inductive WatchType where
  | initial
  | added
  | modified
  | deleted
deriving DecidableEq, Repr

structure WatchEvent where
  type : WatchType
  name : String
  body : ClusterManager

/-- Whether the check may be skipped, and the fingerprints after the look-up. -/
def skipGuardRelist (state : GuardState) (crNamespace : String) (event : WatchEvent) :
    Bool × GuardCache :=
  if event.type ≠ .modified then (false, state.lastSeenSurface)
  else if state.lastState.isNone then (false, state.lastSeenSurface)
  else
    let seen := state.lastSeenSurface.get (crNamespace, event.name)
    match seen.1 with
    | none => (false, seen.2)
    | some surface => (surface.pyEq (crPolicySurface event.body), seen.2)

def singletonGuardEvent (crNamespace : String) (state : GuardState) (event : WatchEvent)
    (answers : CheckAnswers) : CheckResult :=
  let key := (crNamespace, event.name)
  if event.type = .deleted then
    check unicode crNamespace
      { state with lastSeenSurface := state.lastSeenSurface.pop key } answers
  else
    let skip := skipGuardRelist state crNamespace event
    let looked := { state with lastSeenSurface := skip.2 }
    if skip.1 then { state := looked, events := [], raised := none }
    else
      let checked := check unicode crNamespace looked answers
      if checked.raised.isSome then checked
      else
        { checked with
          state := { checked.state with
            lastSeenSurface := checked.state.lastSeenSurface.set key
              (crPolicySurface event.body) } }

end Guard

end SingletonGuard
end OpenStudioOperator
