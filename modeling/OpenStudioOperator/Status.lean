import OpenStudioOperator.Foundation.Dict

/-!
# The `.status` of the cluster-manager resource

The status subresource is the operator's only durable memory.  Its five maps
are keyed by analysis or datapoint id and hold the typed records below.  A
merge patch of one entry keeps the optional fields the patch does not carry,
so every record type says how an older entry and a newer record combine.
Beside the maps there are scalars, each of which may be absent.
-/

namespace OpenStudioOperator

open Foundation

/-!
## Time

Instants are UTC and durations are differences of instants, both in
microseconds, the resolution of `datetime`.
-/

abbrev Instant := Int

abbrev Duration := Int

def seconds (n : Nat) : Duration := (n : Int) * 1000000

def minutes (n : Nat) : Duration := (n : Int) * 60000000

def hours (n : Nat) : Duration := (n : Int) * 3600000000

def days (n : Nat) : Duration := (n : Int) * 86400000000

/-- `int(d // timedelta(minutes=1))`, rounding down. -/
def wholeMinutes (d : Duration) : Int := d / minutes 1

/-!
## Records
-/

inductive SoftStopOutcome where
  | watching
  | issued
  | dryRun
  | other (text : String)
deriving DecidableEq, Repr

inductive EscalationOutcome where
  | evicted
  | evictedPartial
  | noMatchingPods
  | dryRun
  | other (text : String)
deriving DecidableEq, Repr

structure SoftStopRecord where
  issuedAt : Instant
  outcome : SoftStopOutcome
  escalatedAt : Option Instant := none
  escalationOutcome : Option EscalationOutcome := none
deriving DecidableEq, Repr

structure RequeueRecord where
  count : Int
  lastRequeuedAt : Instant
deriving DecidableEq, Repr

structure ArchivedAnalysisRecord where
  backend : String
  bucket : Option String
  verifiedAt : Option Instant := none
  jobName : Option String := none
  spawnedAt : Option Instant := none
deriving DecidableEq, Repr

inductive StopOutcome where
  | issued
  | dryRun
  | completed
  | timeout
  | other (text : String)
deriving DecidableEq, Repr

structure StopRecord where
  issuedAt : Instant
  outcome : StopOutcome
  stoppedAt : Option Instant := none
deriving DecidableEq, Repr

/-!
## Merging a record into an older entry

An absent optional field is not part of the encoded record, so the merge keeps
the older value.  `bucket` is always encoded: a null removes the older one.
-/

def SoftStopRecord.merge (old new : SoftStopRecord) : SoftStopRecord :=
  { new with
    escalatedAt := new.escalatedAt.or old.escalatedAt
    escalationOutcome := new.escalationOutcome.or old.escalationOutcome }

def ArchivedAnalysisRecord.merge (old new : ArchivedAnalysisRecord) :
    ArchivedAnalysisRecord :=
  { new with
    verifiedAt := new.verifiedAt.or old.verifiedAt
    jobName := new.jobName.or old.jobName
    spawnedAt := new.spawnedAt.or old.spawnedAt }

def StopRecord.merge (old new : StopRecord) : StopRecord :=
  { new with stoppedAt := new.stoppedAt.or old.stoppedAt }

theorem SoftStopRecord.merge_self (r : SoftStopRecord) : r.merge r = r := by
  simp [SoftStopRecord.merge]

theorem ArchivedAnalysisRecord.merge_self (r : ArchivedAnalysisRecord) :
    r.merge r = r := by
  simp [ArchivedAnalysisRecord.merge]

theorem StopRecord.merge_self (r : StopRecord) : r.merge r = r := by
  simp [StopRecord.merge]

/-!
## The status and its maps
-/

structure Status where
  softStops : Dict String SoftStopRecord := Dict.empty
  requeues : Dict String RequeueRecord := Dict.empty
  startedSince : Dict String Instant := Dict.empty
  archivedAnalyses : Dict String ArchivedAnalysisRecord := Dict.empty
  stoppedAnalyses : Dict String StopRecord := Dict.empty
  lastWebBackgroundRestart : Option Instant := none
  stallWindowStartedAt : Option Instant := none
  webBackgroundIneffectiveRestarts : Option Int := none
  lastRecycleAt : Option Instant := none
deriving DecidableEq

inductive StatusField where
  | softStops
  | requeues
  | startedSince
  | archivedAnalyses
  | stoppedAnalyses
deriving DecidableEq, Repr

/-- The key of the map in the JSON status. -/
def StatusField.key : StatusField -> String
  | softStops => "softStops"
  | requeues => "requeues"
  | startedSince => "startedSince"
  | archivedAnalyses => "archivedAnalyses"
  | stoppedAnalyses => "stoppedAnalyses"

/-- One map of the status: where it lives and how its entries merge. -/
structure MapField (record : Type) where
  name : StatusField
  read : Status -> Dict String record
  write : Dict String record -> Status -> Status
  merge : record -> record -> record
  read_write : forall d s, read (write d s) = d
  merge_self : forall r, merge r r = r

/-- One entry of the map. -/
def MapField.entry {record : Type} (field : MapField record) (k : String)
    (s : Status) : Option record :=
  (field.read s).get? k

def softStopsField : MapField SoftStopRecord where
  name := .softStops
  read := Status.softStops
  write := fun d s => { s with softStops := d }
  merge := SoftStopRecord.merge
  read_write := fun _ _ => rfl
  merge_self := SoftStopRecord.merge_self

def requeuesField : MapField RequeueRecord where
  name := .requeues
  read := Status.requeues
  write := fun d s => { s with requeues := d }
  merge := fun _ new => new
  read_write := fun _ _ => rfl
  merge_self := fun _ => rfl

def startedSinceField : MapField Instant where
  name := .startedSince
  read := Status.startedSince
  write := fun d s => { s with startedSince := d }
  merge := fun _ new => new
  read_write := fun _ _ => rfl
  merge_self := fun _ => rfl

def archivedAnalysesField : MapField ArchivedAnalysisRecord where
  name := .archivedAnalyses
  read := Status.archivedAnalyses
  write := fun d s => { s with archivedAnalyses := d }
  merge := ArchivedAnalysisRecord.merge
  read_write := fun _ _ => rfl
  merge_self := ArchivedAnalysisRecord.merge_self

def stoppedAnalysesField : MapField StopRecord where
  name := .stoppedAnalyses
  read := Status.stoppedAnalyses
  write := fun d s => { s with stoppedAnalyses := d }
  merge := StopRecord.merge
  read_write := fun _ _ => rfl
  merge_self := StopRecord.merge_self

/-!
## Scalars
-/

/-- One scalar of the status: where it lives. -/
structure ScalarField (value : Type) where
  read : Status -> Option value
  write : Option value -> Status -> Status
  read_write : forall v s, read (write v s) = v

def lastWebBackgroundRestartField : ScalarField Instant where
  read := Status.lastWebBackgroundRestart
  write := fun v s => { s with lastWebBackgroundRestart := v }
  read_write := fun _ _ => rfl

def stallWindowStartedAtField : ScalarField Instant where
  read := Status.stallWindowStartedAt
  write := fun v s => { s with stallWindowStartedAt := v }
  read_write := fun _ _ => rfl

def lastRecycleAtField : ScalarField Instant where
  read := Status.lastRecycleAt
  write := fun v s => { s with lastRecycleAt := v }
  read_write := fun _ _ => rfl

def webBackgroundIneffectiveRestartsField : ScalarField Int where
  read := Status.webBackgroundIneffectiveRestarts
  write := fun v s => { s with webBackgroundIneffectiveRestarts := v }
  read_write := fun _ _ => rfl

end OpenStudioOperator
