import OpenStudioOperator.StatusStore

/-!
# Retention pipeline

Archive, verify, delete.  `status.archivedAnalyses` is the only memory: a
record is in flight, verified, or a dry-run marker without a Job name.
-/

namespace OpenStudioOperator

open Foundation

def analysisArchivalStartedEvent : String := "AnalysisArchivalStarted"

def analysisArchivalSucceededEvent : String := "AnalysisArchivalSucceeded"

def analysisArchivalFailedEvent : String := "AnalysisArchivalFailed"

def analysisDeletedEvent : String := "AnalysisDeleted"

structure RetentionTickResult where
  spawned : List String := []
  verified : List String := []
  deleted : List String := []
deriving DecidableEq, Repr

/-!
## Eligibility
-/

/-- The retention clock of a document: `updated_at`, else `created_at`. -/
def completionTime (doc : AnalysisDoc) : Option Instant :=
  doc.updatedAt.or doc.createdAt

def isCompleted (doc : AnalysisDoc) : Bool := doc.status = some "completed"

def eligible (doc : AnalysisDoc) (now : Instant) (retention : Duration) : Bool :=
  if isCompleted doc then
    match completionTime doc with
    | none => false
    | some completedAt => retention ≤ now - completedAt
  else false

/-- `completed_by_id`: later documents of one id replace earlier ones. -/
def completedById (docs : List AnalysisDoc) : Dict String AnalysisDoc :=
  docs.foldl
    (fun d doc =>
      if truthy doc.id ∧ isCompleted doc then d.set (doc.id.getD "") doc else d)
    Dict.empty

/-!
## Jobs
-/

inductive TerminalCondition where
  | complete
  | failed
deriving DecidableEq, Repr

/-- The first condition that is `True` and terminal decides. -/
def terminalConditionOf : List JobCondition -> Option TerminalCondition
  | [] => none
  | condition :: rest =>
      if condition.status ≠ some "True" then terminalConditionOf rest
      else if condition.type = some "Complete" then some .complete
      else if condition.type = some "Failed" then some .failed
      else terminalConditionOf rest

def jobTerminalCondition (job : Job) : Option TerminalCondition :=
  terminalConditionOf job.conditions

/-- `_read_job`: absent on 404, any other failure raises. -/
def readJob (name : String) : OpM (Option Job) :=
  tryCatch
    (do return some (<- readNamespacedJob name))
    (fun e => if e = .apiException (some 404) then pure none else throw e)

/-- The lazy once-per-tick listing of datapoints; the payload is threaded
through the spawns of the tick. -/
def datapointsPayload : Option (List DatapointDoc) -> OpM (List DatapointDoc)
  | some docs => pure docs
  | none => listDatapoints

def datapointIdsFor (payload : Option (List DatapointDoc)) (analysisId : String) :
    OpM (List String × List DatapointDoc) := do
  let docs <- datapointsPayload payload
  let ids := (docs.filter fun doc =>
    truthy doc.id && doc.analysisId.getD "" = analysisId).map fun doc =>
      doc.id.getD ""
  return (ids, docs)

/-!
## The steps of the pipeline
-/

def showBucket (bucket : Option String) : String := bucket.getD "None"

/-- Job failure: the analysis is retained and the marker cleared for a retry. -/
def failArchival (analysisId detail : String) : OpM Unit := do
  emit .warning analysisArchivalFailedEvent
    (s!"Analysis {analysisId} archival failed — {detail}; analysis RETAINED, " ++
      "retry scheduled next retention tick")
  clearArchivedAnalysis analysisId

def deleteVerified (config : OperatorConfig) (analysisId : String)
    (record : ArchivedAnalysisRecord) (justVerified : Bool) : OpM Bool :=
  if !config.storagePolicy.purgeCompletedNfsFiles then
    pure false
  else
    let backend := record.backend
    let bucket := showBucket record.bucket
    let message :=
      s!"Analysis {analysisId} deleted after verified archival to " ++
      s!"{backend}:{bucket}/{analysisId} — REST cascade frees NFS assets " ++
      "+ Mongo documents"
    if config.dryRun then do
      onlyIf justVerified
        (emit .normal analysisDeletedEvent
          (message ++ " — delete suppressed (spec.dryRun)"))
      return false
    else do
      mutate (.deleteAnalysis analysisId)
      emit .normal analysisDeletedEvent message
      clearArchivedAnalysis analysisId
      return true

/-- Record a deletion that ran in the tick's result. -/
def withDeleted (result : RetentionTickResult) (analysisId : String)
    (deleted : Bool) : RetentionTickResult :=
  if deleted then { result with deleted := result.deleted ++ [analysisId] }
  else result

/-- Write a verified record, announce it and go on to the delete step. -/
def recordVerified (config : OperatorConfig) (analysisId : String)
    (verified : ArchivedAnalysisRecord) (message : String)
    (result : RetentionTickResult) : OpM RetentionTickResult := do
  setArchivedAnalysis analysisId verified
  let result := { result with verified := result.verified ++ [analysisId] }
  emit .normal analysisArchivalSucceededEvent message
  let deleted <- deleteVerified config analysisId verified true
  return withDeleted result analysisId deleted

/-- Phase A: advance one tracked analysis by the state of its Job. -/
def reconcileTracked (config : OperatorConfig) (completed : Dict String AnalysisDoc)
    (analysisId : String) (record : ArchivedAnalysisRecord)
    (result : RetentionTickResult) : OpM RetentionTickResult := do
  let env <- read
  if !completed.contains analysisId then
    clearArchivedAnalysis analysisId
    return result
  else if record.verifiedAt.isSome then
    let deleted <- deleteVerified config analysisId record false
    return withDeleted result analysisId deleted
  else
    match record.jobName with
    | none =>
        if config.dryRun then
          return result
        else
          clearArchivedAnalysis analysisId
          return result
    | some jobName =>
        match <- readJob jobName with
        | none =>
            failArchival analysisId
              "archival Job not found (deleted out-of-band or expired mid-flight)"
            return result
        | some job =>
            match jobTerminalCondition job with
            | none => return result
            | some .failed =>
                failArchival analysisId "archival Job failed (see Job pod logs)"
                return result
            | some .complete =>
                let backend := record.backend
                let bucket := showBucket record.bucket
                recordVerified config analysisId
                  { backend := record.backend
                    bucket := record.bucket
                    verifiedAt := some env.now
                    jobName := some jobName
                    spawnedAt := record.spawnedAt }
                  (s!"Analysis {analysisId} archival Job {jobName} completed verification " ++
                    s!"(size+hash) → {backend}:{bucket}/{analysisId}")
                  result

/-- The part of phase B after the Job name is free: create, then record. -/
def spawnJob (text : TextOps) (config : OperatorConfig) (analysisId : String)
    (payload : Option (List DatapointDoc)) (result : RetentionTickResult) :
    OpM (RetentionTickResult × Option (List DatapointDoc)) := do
  let env <- read
  let policy := config.storagePolicy
  let jobName := archivalJobName text analysisId
  let (datapointIds, docs) <- datapointIdsFor payload analysisId
  match buildArchivalJob text analysisId policy env.kubeNamespace datapointIds with
  | .error message => throw (.valueError message)
  | .ok manifest =>
      mutateUnless config.dryRun (.createJob manifest)
      setArchivedAnalysis analysisId
        { backend := policy.backend.getD ""
          bucket := policy.bucket
          jobName := if config.dryRun then none else some jobName
          spawnedAt := some env.now }
      let result := { result with spawned := result.spawned ++ [analysisId] }
      let retentionDays := policy.retentionDays
      let kubeNamespace := env.kubeNamespace
      let backend := policy.backend.getD ""
      let bucket := showBucket policy.bucket
      let trees := datapointIds.length
      let message :=
        s!"Analysis {analysisId} completed beyond retentionDays={retentionDays} — " ++
        s!"spawning archival Job {kubeNamespace}/{jobName} → " ++
        s!"{backend}:{bucket}/{analysisId} " ++
        s!"({trees} datapoint trees)"
      emit .normal analysisArchivalStartedEvent
        (if config.dryRun then message ++ " — Job spawn suppressed (spec.dryRun)"
          else message)
      return (result, some docs)

/-- Phase B: spawn, or adopt, the archival Job of one eligible analysis. -/
def spawnArchival (text : TextOps) (config : OperatorConfig) (analysisId : String)
    (payload : Option (List DatapointDoc)) (result : RetentionTickResult) :
    OpM (RetentionTickResult × Option (List DatapointDoc)) := do
  let env <- read
  let policy := config.storagePolicy
  let jobName := archivalJobName text analysisId
  let backend := policy.backend.getD ""
  match <- readJob jobName with
  | none => spawnJob text config analysisId payload result
  | some existing =>
      match jobTerminalCondition existing with
      | some .complete =>
          let bucket := showBucket policy.bucket
          let result <- recordVerified config analysisId
            { backend := backend
              bucket := policy.bucket
              verifiedAt := some env.now
              jobName := some jobName
              spawnedAt := some env.now }
            (s!"Analysis {analysisId} adopted already-completed archival Job " ++
              s!"{jobName} as verified → {backend}:{bucket}/{analysisId}")
            result
          return (result, payload)
      | none =>
          setArchivedAnalysis analysisId
            { backend := backend
              bucket := policy.bucket
              jobName := some jobName
              spawnedAt := some env.now }
          return (result, payload)
      | some .failed =>
          mutateUnless config.dryRun (.deleteJob jobName)
          spawnJob text config analysisId payload result

/-- The analyses that are due and not in the tracked snapshot. -/
def dueAnalyses (completed : Dict String AnalysisDoc)
    (tracked : Dict String ArchivedAnalysisRecord) (now : Instant)
    (retention : Duration) : List String :=
  (completed.entries.filter fun entry =>
    !tracked.contains entry.1 && eligible entry.2 now retention).map Prod.fst

def archivalConfigured (policy : StoragePolicy) : Bool :=
  truthy policy.backend && truthy policy.bucket && truthy policy.secretRef

def runRetentionTick (text : TextOps) (config : OperatorConfig) :
    OpM RetentionTickResult := do
  let env <- read
  let policy := config.storagePolicy
  if !policy.archiveToS3 then
    return {}
  else if !archivalConfigured policy then
    return {}
  else
    let completed := completedById (<- listAnalyses)
    let tracked <- getArchivedAnalyses
    let result <- tracked.entries.foldlM
      (fun result entry => reconcileTracked config completed entry.1 entry.2 result)
      {}
    let due := dueAnalyses completed tracked env.now (days policy.retentionDays)
    let spawned <- due.foldlM
      (fun state analysisId => spawnArchival text config analysisId state.2 state.1)
      (result, none)
    return spawned.1

end OpenStudioOperator
