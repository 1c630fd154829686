import OpenStudioOperator.StatusStore

/-!
# Stall detector of web_background

One evaluation of the stall condition: work is queued, nobody processes it,
and Kubernetes vouches for the worker fleet.  A condition that held for a
whole window restarts the Deployment; a cooldown and a breaker on ineffective
restarts space the restarts out.

The begin of the window is kept twice: in the tracker of the process, which a
restart loses, and in `status.stallWindowStartedAt`, which a fresh tracker is
restored from.  `status.lastWebBackgroundRestart` and
`status.webBackgroundIneffectiveRestarts` are the memory of the restarts.
-/

namespace OpenStudioOperator

open Foundation

def defaultWebBackgroundDeployment : String := "web-background"

def defaultWorkerDeployment : String := "worker"

def restartedAtAnnotation : String := "kubectl.kubernetes.io/restartedAt"

def workerRegistryKey : String := "resque:workers"

def webBackgroundRestartedEvent : String := "WebBackgroundRestarted"

def webBackgroundRestartIneffectiveEvent : String := "WebBackgroundRestartIneffective"

def resqueKeyLayoutUnknownEvent : String := "ResqueKeyLayoutUnknown"

def defaultWorkerHeartbeatStaleSeconds : Nat := 300

def layoutWarningGrace : Duration := seconds 60

/-!
## Backoff
-/

def ineffectiveRestartEventThreshold : Int := 3

/-- The natural cadence: one window of cooldown and one re-sustained window. -/
def naturalRearmWindows : Nat := 2

/-- Consecutive ineffective restarts, and the windows the next action waits. -/
def backoffWindowSchedule : List (Int × Nat) := [(3, 4), (5, 6), (7, 8)]

/-- `_backoff_windows`. -/
def backoffWindows (ineffectiveRestarts : Int) : Nat :=
  backoffWindowSchedule.foldl
    (fun total scheduled =>
      if scheduled.1 <= ineffectiveRestarts then scheduled.2 else total)
    naturalRearmWindows

def ineffectiveBreakerMessage (consecutive : Int) : String :=
  let windows := backoffWindows consecutive
  let skipped := windows - naturalRearmWindows
  s!"{consecutive} consecutive web_background restarts have failed to " ++
    "break the queue stall — the stall condition re-sustained a full " ++
    "window after each restart's cooldown. The cause is likely systemic " ++
    "and restarting cannot fix it: NFS share full, MongoDB down, or a " ++
    "broken web-background image. Restart actions now back off (next " ++
    s!"waits {windows} stall windows — {skipped} beyond the usual " ++
    "cadence); detection keeps running. Runbook: README.md triage " ++
    "commands + docs/validation.md (systemic-cause checklist)."

/-!
## The window tracker
-/

/-- `StallWindowTracker.observe`: the tracker after one verdict, and whether
the window is sustained. -/
def StallWindowTracker.observe (tracker : StallWindowTracker) (holds : Bool)
    (now : Instant) (window : Duration) : StallWindowTracker × Bool :=
  if holds then
    let began := tracker.firstObserved.getD now
    ({ firstObserved := some began, firstClean := none }, decide (window <= now - began))
  else
    ({ firstObserved := none, firstClean := some (tracker.firstClean.getD now) }, false)

def stallTracker : OpM StallWindowTracker := do
  return (<- processMemory).stallTracker

def setStallTracker (tracker : StallWindowTracker) : OpM Unit :=
  modifyMemory fun memory => { memory with stallTracker := tracker }

/-- `StallWindowTracker.reset`. -/
def resetStallTracker : OpM Unit :=
  setStallTracker {}

def modifyLeg2 (f : Leg2SafeguardState -> Leg2SafeguardState) : OpM Unit :=
  modifyMemory fun memory => { memory with leg2 := f memory.leg2 }

/-!
## Sensing
-/

def WorkerPod.healthy (pod : WorkerPod) : Bool :=
  pod.phase == some "Running" &&
    pod.conditions.any fun c => c.type == some "Ready" && c.status == some "True"

/-- `_worker_pods_healthy`. -/
def workerPodsHealthy (deployment : String) : OpM Bool := do
  let selector <- deploymentLabelSelector deployment
  match selector with
  | none => return false
  | some selector =>
      if selector.isEmpty then
        return false
      else
        let pods <- listWorkerPods selector
        return !pods.isEmpty && pods.all WorkerPod.healthy

def workerDeploymentOf (config : OperatorConfig) : String :=
  if config.targetWorkerDeployment.isEmpty then defaultWorkerDeployment
  else config.targetWorkerDeployment

/-- `_stall_condition_holds`: the cheapest leg first. -/
def stallConditionHolds (config : OperatorConfig) : OpM Bool := do
  let env <- read
  let registered <- workerHeartbeats
  modifyLeg2 fun state => { state with
    maxWorkersSeen := max state.maxWorkersSeen registered.length }
  let depths <- queueDepths
  if depths.all (fun depth => depth.2 = 0) then
    return false
  else
    modifyLeg2 fun state => { state with
      emptyRegistrySince :=
        if registered.isEmpty then some (state.emptyRegistrySince.getD env.now) else none }
    let stale <- staleWorkers
    if stale.length < registered.length then
      return false
    else
      workerPodsHealthy (workerDeploymentOf config)

/-- The failures of a read that leave a tick blind. -/
def Exc.blinds : Exc -> Bool
  | .redisClientError => true
  | .apiException _ => true
  | _ => false

/-- The guarded evaluation of the condition: a failed read is no evidence that
it held, so it restarts the window. -/
def senseStall (config : OperatorConfig) : OpM Bool := do
  let holds <- tryCatch (stallConditionHolds config) fun e => do
    onlyIf e.blinds do
      resetStallTracker
      setStallWindowStartedAt none
    throw e
  note (.stallSensed holds)
  return holds

def layoutUnknownMessage (elapsed : Duration) : String :=
  let elapsedSeconds := elapsed / seconds 1
  s!"Resque worker registry has been empty for {elapsedSeconds}s while a " ++
    "non-zero queue depth is observed. The centralized Resque key " ++
    s!"constants (WORKER_REGISTRY_KEY='{workerRegistryKey}') may not match " ++
    "the live v3.11.0 Redis layout; the stall condition's " ++
    "'nobody is processing' leg is vacuously true and could periodic-" ++
    "restart web_background. Run docs/kind-validation.md Resque layout " ++
    "checklist (#44). RESQUE_WORKERS_SEEN_MAX is 0 — alert on " ++
    "`openstudio_operator_resque_workers_seen_max == 0 AND " ++
    "queue depth > 0`."

/-- `_maybe_warn_resque_layout_unknown`. -/
def maybeWarnResqueLayoutUnknown : OpM Unit := do
  let env <- read
  let state := (<- processMemory).leg2
  if state.layoutWarningEmitted ∨ 0 < state.maxWorkersSeen then
    return ()
  else
    match state.emptyRegistrySince with
    | none => return ()
    | some since =>
        let elapsed := env.now - since
        onlyIf (layoutWarningGrace <= elapsed) do
          modifyLeg2 fun state => { state with layoutWarningEmitted := true }
          emit .warning resqueKeyLayoutUnknownEvent (layoutUnknownMessage elapsed)

/-- The best-effort diagnostic: its failure does not skip the tick. -/
def warnResqueLayoutUnknown : OpM Unit :=
  tryCatch maybeWarnResqueLayoutUnknown fun _ => pure ()

/-!
## The window
-/

/-- Feed the verdict to the tracker, restored from the checkpoint if it is
fresh, and keep the checkpoint in step. -/
def observeStall (window : Duration) (holds : Bool) : OpM Bool := do
  let env <- read
  let tracker <- stallTracker
  let windowBegan := holds && tracker.firstObserved.isNone
  onlyIf windowBegan do
    let persisted <- getStallWindowStartedAt
    onlyIf persisted.isSome
      (setStallTracker { tracker with firstObserved := persisted })
  let tracker <- stallTracker
  let observed := tracker.observe holds env.now window
  setStallTracker observed.1
  if windowBegan then
    setStallWindowStartedAt observed.1.firstObserved
  else
    onlyIf (!holds) (setStallWindowStartedAt none)
  return observed.2

/-- There is a restart cycle to conclude. -/
def restartCycleArmed (lastRestart : Option Instant) : OpM Bool := do
  if lastRestart.isSome then
    return true
  else
    let ineffective <- getWebBackgroundIneffectiveRestarts
    return decide (0 < ineffective)

/-- The breaker reset: one full window without the condition concludes the
restart cycle. -/
def concludeCleanWindow (window : Duration) (lastRestart : Option Instant) :
    OpM Unit := do
  let env <- read
  let tracker <- stallTracker
  let clean := tracker.firstClean.any fun since => decide (window <= env.now - since)
  onlyIf clean do
    let armed <- restartCycleArmed lastRestart
    onlyIf armed do
      setWebBackgroundIneffectiveRestarts 0
      onlyIf lastRestart.isSome (setLastWebBackgroundRestartAt none)
      note .cleanReset

/-!
## The restart
-/

/-- The action gate: engaged by the breaker, it defers the restart only. -/
def restartDeferred (window : Duration) (lastRestart : Option Instant) : OpM Bool := do
  let env <- read
  match lastRestart with
  | none => return false
  | some last =>
      let ineffective <- getWebBackgroundIneffectiveRestarts
      let windows := backoffWindows ineffective
      return decide (naturalRearmWindows < windows ∧ env.now - last <= window * windows)

def webBackgroundDeploymentOf (config : OperatorConfig) : String :=
  if config.targetWebBackgroundDeployment.isEmpty then defaultWebBackgroundDeployment
  else config.targetWebBackgroundDeployment

def restartMessage (config : OperatorConfig) (env : Env) (window : Duration) : String :=
  let windowMinutes := wholeMinutes window
  let deployment := webBackgroundDeploymentOf config
  let kubeNamespace := env.kubeNamespace
  s!"Queue stall sustained {windowMinutes}m (work queued on " ++
    "simulations/requeued, no fresh Resque worker heartbeat in " ++
    s!"{defaultWorkerHeartbeatStaleSeconds}s, worker pods Running) — restarting " ++
    s!"web_background Deployment {kubeNamespace}/{deployment} via " ++
    s!"{restartedAtAnnotation} patch" ++
    if config.dryRun then " — patch suppressed (spec.dryRun)" else ""

/-- A predecessor that still has its anchor was ineffective. -/
def countIneffective (lastRestart : Option Instant) : OpM Unit :=
  onlyIf lastRestart.isSome do
    let ineffective := (<- getWebBackgroundIneffectiveRestarts) + 1
    setWebBackgroundIneffectiveRestarts ineffective
    onlyIf (ineffectiveRestartEventThreshold <= ineffective)
      (emit .warning webBackgroundRestartIneffectiveEvent
        (ineffectiveBreakerMessage ineffective))

/-- Restart, announce, and record: the window is spent before the cooldown
anchor advances, and the tracker is reset last. -/
def restartWebBackground (config : OperatorConfig) (window : Duration)
    (lastRestart : Option Instant) : OpM Unit := do
  let env <- read
  mutateUnless config.dryRun
    (.rollingRestart (webBackgroundDeploymentOf config) env.now)
  emit .warning webBackgroundRestartedEvent (restartMessage config env window)
  setStallWindowStartedAt none
  setLastWebBackgroundRestartAt (some env.now)
  countIneffective lastRestart
  resetStallTracker

/-!
## The tick
-/

def stallWindowOf (config : OperatorConfig) : Duration :=
  minutes config.webBackgroundPolicy.stallWindowMinutes

/-- The cooldown of the last restart has not passed. -/
def gateClosed (now : Instant) (window : Duration) (lastRestart : Option Instant) : Bool :=
  lastRestart.any fun last => decide (now - last <= window)

/-- `run_stall_tick`, with the cache lookup its caller makes for it. -/
def runStallTick (config : OperatorConfig) : OpM Bool := do
  let env <- read
  lookupCaches
  let window := stallWindowOf config
  let lastRestart <- getLastWebBackgroundRestartAt
  if gateClosed env.now window lastRestart then
    return false
  else
    let holds <- senseStall config
    warnResqueLayoutUnknown
    let sustained <- observeStall window holds
    onlyIf (!holds) (concludeCleanWindow window lastRestart)
    if !sustained then
      return false
    else
      let deferred <- restartDeferred window lastRestart
      if deferred then
        return false
      else
        restartWebBackground config window lastRestart
        return true

end OpenStudioOperator
