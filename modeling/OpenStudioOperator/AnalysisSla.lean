import OpenStudioOperator.StatusStore

/-!
# Analysis SLA monitor

One poll: anchor every analysis first seen `started`, then walk the persisted
anchors.  An anchor whose analysis left `started` is retired; the others are
soft-stopped, stopped and escalated as they age.  `status.softStops` and
`status.stoppedAnalyses` are the only memory.
-/

namespace OpenStudioOperator

open Foundation

def analysisSoftStoppedEvent : String := "AnalysisSoftStopped"

def analysisEscalatedEvent : String := "AnalysisEscalated"

def analysisStoppedEvent : String := "AnalysisStopped"

def stopWaitTimeoutSeconds : Nat := 60

structure SlaTickResult where
  softStopped : List String := []
  escalated : List String := []
  stopped : List String := []
deriving DecidableEq, Repr

/-!
## Status answers
-/

def isStarted (doc : StatusDoc) : Bool := doc.status = some "started"

/-- What `status.json` says; a list whose first item is not an object has no
`get`, and the attribute error leaves the tick. -/
def payloadIsStarted (payload : Option AnalysisStatusPayload) : Except Exc Bool :=
  match payload with
  | none => .ok false
  | some body =>
      match body.analysis, body.analyses with
      | some analysis, _ => .ok (isStarted analysis)
      | none, some (some first :: _) => .ok (isStarted first)
      | none, some (none :: _) => .error (.other "AttributeError")
      | none, _ => .ok false

def statusIsStarted (analysisId : String) : OpM Bool := do
  match payloadIsStarted (<- getAnalysisStatus analysisId) with
  | .ok started => pure started
  | .error e => throw e

/-!
## Escalation
-/

/-- `str.split(":")` on the characters of a text. -/
def splitColons : List Char -> List (List Char)
  | [] => [[]]
  | c :: rest =>
      if c = ':' then [] :: splitColons rest
      else
        match splitColons rest with
        | [] => [[c]]
        | segment :: segments => (c :: segment) :: segments

/-- The pod name in a Resque worker id of the shape `host:pid:queues`. -/
def podNameForWorker (workerId : String) : Option String :=
  match splitColons workerId.toList with
  | host :: _ :: _ :: _ => if host.isEmpty then none else some (String.ofList host)
  | _ => none

/-- The workers whose pod is in the namespace, as (pod, worker) pairs. -/
def matchWorkers (podNames : List (Option String)) (workerIds : List String) :
    List (String × String) :=
  let candidates := podNames.filter truthy
  workerIds.filterMap fun workerId =>
    match podNameForWorker workerId with
    | none => none
    | some podName =>
        if some podName ∈ candidates then some (podName, workerId) else none

def resqueMatchedWorkerPods (analysisId : String) : OpM (List (String × String)) := do
  let workerIds <- workersForAnalysis analysisId
  if workerIds.isEmpty then
    return []
  else
    let podNames <- listNamespacedPod
    return matchWorkers podNames workerIds

/-- The counters of the delete loop; a failure keeps its HTTP status. -/
structure EvictionCount where
  evicted : Nat := 0
  failed : Nat := 0
  lastFailure : Option (Option Nat) := none
deriving DecidableEq, Repr

/-- One pod of the delete loop: an API failure is counted, not raised. -/
def deleteVictim (config : OperatorConfig) (analysisId : String)
    (count : EvictionCount) (victim : String × String) : OpM EvictionCount :=
  let graceSeconds := if config.analysisPolicy.forceDeleteOnEscalation then some 0
    else none
  if config.dryRun then
    pure { count with evicted := count.evicted + 1 }
  else
    tryCatch
      (do
        mutate (.deletePod analysisId victim.1 graceSeconds)
        return { count with evicted := count.evicted + 1 })
      (fun e =>
        match e with
        | .apiException status =>
            pure { count with failed := count.failed + 1, lastFailure := some status }
        | e => throw e)

def escalationOutcome (config : OperatorConfig) (count : EvictionCount) :
    EscalationOutcome :=
  if config.dryRun then .dryRun
  else if count.evicted = 0 then .noMatchingPods
  else if 0 < count.failed then .evictedPartial
  else .evicted

/-- The failure that leaves the pass: not a 404, or nothing was evicted. -/
def passFailure (count : EvictionCount) : Option Exc :=
  match count.lastFailure with
  | none => none
  | some status =>
      if status ≠ some 404 ∨ count.evicted = 0 then some (.apiException status)
      else none

def escalationMessage (config : OperatorConfig) (analysisId : String)
    (record : SoftStopRecord) (now : Instant) (victims : List (String × String)) :
    String :=
  let ageMinutes := wholeMinutes (now - record.issuedAt)
  let graceMinutes := config.analysisPolicy.gracefulStopTimeoutMinutes
  let head :=
    s!"Analysis {analysisId} still started {ageMinutes}m after soft stop " ++
    s!"(gracefulStopTimeoutMinutes={graceMinutes})" ++
    " — escalating to worker-pod eviction (issue #83 D2: Resque " ++
    "worker-identity path): "
  let targets :=
    if victims.isEmpty then
      "no Resque workers currently processing this analysis " ++
        "(worker set empty or no payload match)"
    else
      "delete " ++ String.intercalate ", "
          (victims.map fun v => v.1 ++ " (worker " ++ v.2 ++ ")") ++
        if config.analysisPolicy.forceDeleteOnEscalation then
          "; grace_period_seconds=0 (immediate kill)"
        else "; default grace (drain)"
  let tail := if config.dryRun then " — pod deletions suppressed (spec.dryRun)" else ""
  head ++ targets ++ tail

/-- The part of an escalation after its targets are known. -/
def evictVictims (config : OperatorConfig) (analysisId : String)
    (record : SoftStopRecord) (victims : List (String × String)) :
    OpM EscalationOutcome := do
  let env <- read
  let count <- victims.foldlM (deleteVictim config analysisId) {}
  match passFailure count with
  | some e => throw e
  | none =>
      let outcome := escalationOutcome config count
      emit .warning analysisEscalatedEvent
        (escalationMessage config analysisId record env.now victims)
      markSoftStopEscalated analysisId env.now outcome
      return outcome

def escalateAnalysis (config : OperatorConfig) (analysisId : String)
    (record : SoftStopRecord) : OpM EscalationOutcome := do
  let victims <- resqueMatchedWorkerPods analysisId
  note (.escalationPass analysisId)
  tryCatch (evictVictims config analysisId record victims) fun e => do
    note (.escalationRaised analysisId)
    throw e

/-!
## Soft stop and stop
-/

def softStopMessage (config : OperatorConfig) (analysisId : String)
    (runtime : Duration) : String :=
  let runtimeMinutes := wholeMinutes runtime
  let maxMinutes := config.analysisPolicy.maxDurationMinutes
  s!"Analysis {analysisId} runtime {runtimeMinutes}m exceeds " ++
    s!"maxDurationMinutes={maxMinutes} " ++
    "(operator-first-sight clock; issue #83 D1)" ++
    if config.dryRun then " — soft stop suppressed (spec.dryRun)"
    else " — soft stop issued"

/-- The record a soft stop leaves: the clock of the first sight is kept. -/
def softStoppedRecord (config : OperatorConfig) (record : SoftStopRecord) :
    SoftStopRecord where
  issuedAt := record.issuedAt
  outcome := if config.dryRun then .dryRun else .issued

def softStop (config : OperatorConfig) (analysisId : String)
    (record : SoftStopRecord) : OpM Unit := do
  let env <- read
  mutateUnless config.dryRun (.softStopAnalysis analysisId)
  emit .warning analysisSoftStoppedEvent
    (softStopMessage config analysisId (env.now - record.issuedAt))
  setSoftStop analysisId (softStoppedRecord config record)

def stopMessage (config : OperatorConfig) (analysisId : String) : String :=
  s!"Analysis {analysisId} still started after graceful stop; " ++
    "issuing stop_analysis" ++
    if config.dryRun then " — stop suppressed (spec.dryRun)" else ""

def stopIssuedRecord (config : OperatorConfig) (now : Instant) : StopRecord where
  issuedAt := now
  outcome := if config.dryRun then .dryRun else .issued

def issueStop (config : OperatorConfig) (analysisId : String) : OpM Unit := do
  let env <- read
  mutateUnless config.dryRun (.stopAnalysis analysisId)
  emit .warning analysisStoppedEvent (stopMessage config analysisId)
  setStopRecord analysisId (stopIssuedRecord config env.now)

/-- `stoppedAt` is read as completion after the stop: the record is dropped. -/
def retireStopRecord (analysisId : String) (stop : StopRecord)
    (stoppedAt : Instant) : OpM Unit := do
  setStopRecord analysisId
    { issuedAt := stop.issuedAt
      outcome := .completed
      stoppedAt := some stoppedAt }
  pruneStopRecord analysisId

/-- What the stop block decides: go on to the escalation or leave the anchor,
and whether it issued a stop. -/
structure StopDecision where
  escalate : Bool
  issued : Bool
deriving DecidableEq, Repr

/-- The stop block when the record was read as present. -/
def awaitStop (analysisId : String) (stop : StopRecord) : OpM StopDecision := do
  let env <- read
  match stop.stoppedAt with
  | some stoppedAt =>
      retireStopRecord analysisId stop stoppedAt
      return { escalate := false, issued := false }
  | none =>
      if seconds stopWaitTimeoutSeconds < env.now - stop.issuedAt then
        setStopRecord analysisId
          { issuedAt := stop.issuedAt
            outcome := .timeout
            stoppedAt := some env.now }
        return { escalate := true, issued := false }
      else
        return { escalate := false, issued := false }

/-- The stop block when no record was read: the re-read record is not held to
the timeout, so the escalation follows in the same tick. -/
def firstStop (config : OperatorConfig) (analysisId : String) : OpM StopDecision := do
  issueStop config analysisId
  match <- getStopRecord analysisId with
  | none => return { escalate := true, issued := true }
  | some stop =>
      match stop.stoppedAt with
      | some stoppedAt =>
          retireStopRecord analysisId stop stoppedAt
          return { escalate := false, issued := true }
      | none => return { escalate := true, issued := true }

def stopBlock (config : OperatorConfig) (analysisId : String) : OpM StopDecision := do
  match <- getStopRecord analysisId with
  | none => firstStop config analysisId
  | some stop => awaitStop analysisId stop

/-!
## The tick
-/

/-- The end of an iteration: escalate where the stop block let it through. -/
def escalateIf (config : OperatorConfig) (analysisId : String)
    (record : SoftStopRecord) (decision : StopDecision) (result : SlaTickResult) :
    OpM SlaTickResult := do
  let result := if decision.issued then
      { result with stopped := result.stopped ++ [analysisId] }
    else result
  if decision.escalate then
    let _ <- escalateAnalysis config analysisId record
    return { result with escalated := result.escalated ++ [analysisId] }
  else
    return result

/-- One anchor of the walk. -/
def graceStep (config : OperatorConfig) (startedIds : List String)
    (analysisId : String) (record : SoftStopRecord) (result : SlaTickResult) :
    OpM SlaTickResult := do
  let env <- read
  let grace := minutes config.analysisPolicy.gracefulStopTimeoutMinutes
  let maxRuntime := minutes config.analysisPolicy.maxDurationMinutes
  if analysisId ∉ startedIds then
    clearSoftStop analysisId
    return result
  else if record.escalatedAt.isSome then
    return result
  else
    let runtime := env.now - record.issuedAt
    if record.outcome = .watching ∧ maxRuntime < runtime then
      softStop config analysisId record
      return { result with softStopped := result.softStopped ++ [analysisId] }
    else if runtime <= grace then
      return result
    else if record.outcome = .issued then
      let decision <- stopBlock config analysisId
      escalateIf config analysisId record decision result
    else
      escalateIf config analysisId record { escalate := true, issued := false } result

def graceAndEscalate (config : OperatorConfig) (startedIds : List String) :
    OpM SlaTickResult := do
  let softStops <- getSoftStops
  softStops.entries.foldlM
    (fun result entry => graceStep config startedIds entry.1 entry.2 result) {}

/-- One listed analysis of phase A. -/
def firstSight (softStops : Dict String SoftStopRecord) (startedIds : List String)
    (doc : AnalysisDoc) : OpM (List String) := do
  let env <- read
  match doc.id with
  | none => return startedIds
  | some analysisId =>
      if analysisId.isEmpty then
        return startedIds
      else
        let started <- statusIsStarted analysisId
        if !started then
          return startedIds
        else if softStops.contains analysisId then
          return startedIds ++ [analysisId]
        else
          setSoftStop analysisId { issuedAt := env.now, outcome := .watching }
          return startedIds ++ [analysisId]

def runSlaTick (config : OperatorConfig) : OpM SlaTickResult := do
  if !config.analysisPolicy.autoSoftStop then
    return {}
  else
    let softStops <- getSoftStops
    let analyses <- listAnalyses
    let startedIds <- analyses.foldlM (firstSight softStops) []
    graceAndEscalate config startedIds

end OpenStudioOperator
