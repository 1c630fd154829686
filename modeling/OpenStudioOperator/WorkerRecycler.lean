import OpenStudioOperator.WebBackgroundMonitor

/-!
# Worker recycler

A rolling restart of the worker Deployment, armed by completed work or by the
time since the last one.  The gate is checked before any poll and holds both
triggers back; `status.lastRecycleAt` is its only memory.
-/

namespace OpenStudioOperator

open Foundation

def workerRecycledEvent : String := "WorkerRecycled"

inductive RecycleTrigger where
  | analysisCompleted
  | intervalElapsed
deriving DecidableEq, Repr

def RecycleTrigger.text : RecycleTrigger -> String
  | analysisCompleted => "analysis-completed"
  | intervalElapsed => "interval-elapsed"

/-- `_blocks_recycle`: only `started` counts as work in flight. -/
def blocksRecycle (status : Option String) : Bool := status = some "started"

/-- `_armed_trigger`: a recycle that never happened is infinitely long ago. -/
def armedTrigger (analyses : List AnalysisDoc) (config : OperatorConfig)
    (now : Instant) (lastRecycleAt : Option Instant) : Option RecycleTrigger :=
  if config.workerPolicy.recycleAfterAnalysis &&
      analyses.any (fun doc => doc.status = some "completed") &&
      !analyses.any (fun doc => blocksRecycle doc.status) then
    some .analysisCompleted
  else
    match lastRecycleAt with
    | none => some .intervalElapsed
    | some last =>
        if hours config.workerPolicy.recycleWorkerIntervalHours < now - last then
          some .intervalElapsed
        else none

/-- The cooldown of the last recycle has not passed. -/
def recycleGateClosed (config : OperatorConfig) (now : Instant)
    (lastRecycleAt : Option Instant) : Bool :=
  lastRecycleAt.any fun last =>
    decide (now - last <= minutes config.workerPolicy.minRecycleIntervalMinutes)

def recycledMessage (env : Env) (trigger : RecycleTrigger) (config : OperatorConfig) :
    String :=
  let kubeNamespace := env.kubeNamespace
  let deployment := workerDeploymentOf config
  let reason := trigger.text
  s!"Recycled worker Deployment {kubeNamespace}/{deployment} (trigger: {reason}) " ++
    s!"— rolling restart via {restartedAtAnnotation} patch" ++
    if config.dryRun then " — patch suppressed (spec.dryRun)" else ""

/-- Patch, announce, and advance the anchor; a dry run advances it too. -/
def recycleWorkers (config : OperatorConfig) (trigger : RecycleTrigger) : OpM Unit := do
  let env <- read
  mutateUnless config.dryRun (.rollingRestart (workerDeploymentOf config) env.now)
  emit .normal workerRecycledEvent (recycledMessage env trigger config)
  setLastRecycleAt (some env.now)

def runRecyclerTick (config : OperatorConfig) : OpM (Option RecycleTrigger) := do
  let env <- read
  let lastRecycleAt <- getLastRecycleAt
  if recycleGateClosed config env.now lastRecycleAt then
    return none
  else
    let analyses <- listAnalyses
    match armedTrigger analyses config env.now lastRecycleAt with
    | none => return none
    | some trigger =>
        recycleWorkers config trigger
        return some trigger

end OpenStudioOperator
