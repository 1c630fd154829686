import OpenStudioOperator.DryRun

/-!
# The handlers in step

The watchdog, the stall monitor and the recycler read `spec.dryRun` where they
act and where they announce, and nowhere else: two runs of them that differ in
the flag stay in step.
-/

namespace OpenStudioOperator

open Foundation Prog

namespace DryRun

variable {env : Env} {c c' : OperatorConfig} {R : World -> World -> Prop}

/-!
## Watchdog
-/

theorem Lockstep.anchorPruneState (L : Lockstep env c c' R) :
    InStep R anchorPruneState anchorPruneState env := by
  unfold OpenStudioOperator.anchorPruneState
  apply InStep.bind L.processMemory
  intro memory
  exact InStep.pure _

theorem Lockstep.pruneConfirmed (L : Lockstep env c c' R)
    (liveDatapoints liveAnalyses : List String) :
    InStep R (pruneConfirmed liveDatapoints liveAnalyses)
      (pruneConfirmed liveDatapoints liveAnalyses) env := by
  unfold OpenStudioOperator.pruneConfirmed
  apply InStep.bind L.anchorPruneState
  intro state
  apply InStep.bind (L.protectAnchorKeys _ _)
  intro _
  apply InStep.bind (L.protectAnchorKeys _ _)
  intro _
  apply InStep.bind (L.protectAnchorKeys _ _)
  intro _
  apply InStep.bind (L.protectAnchorKeys _ _)
  intro _
  apply InStep.ite
  · intro _
    exact InStep.pure ()
  · intro _
    apply InStep.bind (L.prune _ _)
    intro pruned
    apply InStep.bind (L.modifyMemory _)
    intro _
    apply onlyIf_inStep
    intro _
    exact L.announce _ _ _

theorem Lockstep.runAnchorHygiene (L : Lockstep env c c' R) (startedIds : List String) :
    InStep R (runAnchorHygiene startedIds) (runAnchorHygiene startedIds) env := by
  unfold OpenStudioOperator.runAnchorHygiene
  apply InStep.bind (L.getter _ _)
  intro requeues
  apply InStep.bind (L.getter _ _)
  intro softStops
  apply InStep.bind (L.getter _ _)
  intro archived
  apply InStep.ite
  · intro _
    exact L.modifyMemory _
  · intro _
    apply InStep.bind L.listDatapoints
    intro datapoints
    apply InStep.bind L.listAnalyses
    intro analyses
    apply InStep.bind
    · exact L.note not_false
    · intro _
      apply InStep.bind (L.modifyMemory _)
      intro _
      exact L.pruneConfirmed _ _

theorem Lockstep.pruneDepartures (L : Lockstep env c c' R) (startedIds : List String)
    (startedSince : Dict String Instant) :
    InStep R (pruneDepartures startedIds startedSince)
      (pruneDepartures startedIds startedSince) env := by
  unfold OpenStudioOperator.pruneDepartures
  apply InStep.bind (L.iterateSet _)
  intro departed
  apply InStep.bind
  · apply InStep.foldlM
    intro startedSince id
    apply InStep.bind (L.setMapEntry _ _ _ _)
    intro _
    exact InStep.pure _
  · intro startedSince
    apply InStep.bind
    · exact L.note not_false
    · intro _
      exact InStep.pure _

theorem Lockstep.observeStarted (L : Lockstep env c c' R)
    (startedSince : Dict String Instant) (id : String) :
    InStep R (observeStarted startedSince id) (observeStarted startedSince id) env := by
  unfold OpenStudioOperator.observeStarted
  apply InStep.bind_read
  apply InStep.ite
  · intro _
    exact InStep.pure _
  · intro _
    apply InStep.bind (L.setMapEntry _ _ _ _)
    intro _
    exact InStep.pure _

theorem Lockstep.warnExhausted (L : Lockstep env c c' R) (id : String) (runtime : Duration)
    (budget : Int) :
    InStep R (warnExhausted c id runtime budget) (warnExhausted c' id runtime budget) env := by
  unfold OpenStudioOperator.warnExhausted
  apply InStep.bind L.processMemory
  intro memory
  apply InStep.ite
  · intro _
    exact InStep.pure ()
  · intro _
    apply InStep.bind (L.modifyMemory _)
    intro _
    exact L.emit _ _ fun config => exhaustedMessage config id runtime budget

theorem Lockstep.requeue (L : Lockstep env c c' R) (id : String) (runtime : Duration)
    (budget : Int) :
    InStep R (requeue c id runtime budget) (requeue c' id runtime budget) env := by
  unfold OpenStudioOperator.requeue
  apply InStep.bind_read
  apply InStep.bind (L.act _)
  intro _
  apply InStep.bind (L.emit _ _ fun config => requeueMessage config id runtime budget)
  intro _
  exact L.setMapEntry _ _ _ _

theorem Lockstep.checkStarted (L : Lockstep env c c' R) (requeues : Dict String RequeueRecord)
    (progress : WatchdogProgress) (id : String) :
    InStep R (checkStarted c requeues progress id) (checkStarted c' requeues progress id)
      env := by
  have hpolicy : c'.datapointPolicy = c.datapointPolicy := by rw [L.others]
  unfold OpenStudioOperator.checkStarted
  rw [hpolicy]
  apply InStep.bind_read
  cases progress.startedSince.get? id with
  | none => exact InStep.throw _
  | some since =>
      apply InStep.ite
      · intro _
        exact InStep.pure _
      · intro _
        apply InStep.ite
        · intro _
          apply InStep.bind (L.warnExhausted _ _ _)
          intro _
          exact InStep.pure _
        · intro _
          apply InStep.bind (L.requeue _ _ _)
          intro _
          apply InStep.bind (L.setMapEntry _ _ _ _)
          intro _
          exact InStep.pure _

theorem Lockstep.countTick (L : Lockstep env c c' R) (startedIds : List String) :
    InStep R (countTick startedIds) (countTick startedIds) env := by
  unfold OpenStudioOperator.countTick
  apply InStep.bind (L.modifyMemory _)
  intro _
  apply InStep.bind L.anchorPruneState
  intro state
  apply onlyIf_inStep
  intro _
  exact L.runAnchorHygiene _

theorem Lockstep.runWatchdogTick (L : Lockstep env c c' R) :
    InStep R (runWatchdogTick c) (runWatchdogTick c') env := by
  unfold OpenStudioOperator.runWatchdogTick
  apply InStep.bind L.lookupCaches
  intro _
  apply InStep.bind L.listStartedDatapoints
  intro docs
  apply InStep.bind (L.getter _ _)
  intro startedSince
  apply InStep.bind (L.pruneDepartures _ _)
  intro startedSince
  apply InStep.bind (InStep.foldlM L.observeStarted _ _)
  intro startedSince
  apply InStep.bind (L.getter _ _)
  intro requeues
  apply InStep.bind (InStep.foldlM (L.checkStarted requeues) _ _)
  intro progress
  apply InStep.bind (L.countTick _)
  intro _
  exact InStep.pure _

/-!
## Stall monitor
-/

theorem Lockstep.stallTracker (L : Lockstep env c c' R) :
    InStep R stallTracker stallTracker env := by
  unfold OpenStudioOperator.stallTracker
  apply InStep.bind L.processMemory
  intro memory
  exact InStep.pure _

theorem Lockstep.resetStallTracker (L : Lockstep env c c' R) :
    InStep R resetStallTracker resetStallTracker env := by
  unfold OpenStudioOperator.resetStallTracker setStallTracker
  exact L.modifyMemory _

theorem Lockstep.workerPodsHealthy (L : Lockstep env c c' R) (deployment : String) :
    InStep R (workerPodsHealthy deployment) (workerPodsHealthy deployment) env := by
  unfold OpenStudioOperator.workerPodsHealthy
  apply InStep.bind (L.deploymentLabelSelector _)
  intro selector
  cases selector with
  | none => exact InStep.pure _
  | some selector =>
      apply InStep.ite
      · intro _
        exact InStep.pure _
      · intro _
        apply InStep.bind (L.listWorkerPods _)
        intro pods
        exact InStep.pure _

theorem Lockstep.stallConditionHolds (L : Lockstep env c c' R) :
    InStep R (stallConditionHolds c) (stallConditionHolds c') env := by
  have hdeployment : workerDeploymentOf c' = workerDeploymentOf c := by
    rw [L.others]
    rfl
  unfold OpenStudioOperator.stallConditionHolds
  rw [hdeployment]
  apply InStep.bind_read
  apply InStep.bind L.workerHeartbeats
  intro registered
  apply InStep.bind (L.modifyMemory _)
  intro _
  apply InStep.bind L.queueDepths
  intro depths
  apply InStep.ite
  · intro _
    exact InStep.pure _
  · intro _
    apply InStep.bind (L.modifyMemory _)
    intro _
    apply InStep.bind L.staleWorkers
    intro stale
    apply InStep.ite
    · intro _
      exact InStep.pure _
    · intro _
      exact L.workerPodsHealthy _

theorem Lockstep.senseStall (L : Lockstep env c c' R) :
    InStep R (senseStall c) (senseStall c') env := by
  unfold OpenStudioOperator.senseStall
  apply InStep.bind
  · apply InStep.tryCatch L.stallConditionHolds
    intro e
    apply InStep.bind
    · apply onlyIf_inStep
      intro _
      apply InStep.bind L.resetStallTracker
      intro _
      exact L.setScalar _ _ _
    · intro _
      exact InStep.throw _
  · intro holds
    apply InStep.bind
    · exact L.note not_false
    · intro _
      exact InStep.pure _

theorem Lockstep.maybeWarnResqueLayoutUnknown (L : Lockstep env c c' R) :
    InStep R maybeWarnResqueLayoutUnknown maybeWarnResqueLayoutUnknown env := by
  unfold OpenStudioOperator.maybeWarnResqueLayoutUnknown
  apply InStep.bind_read
  apply InStep.bind L.processMemory
  intro memory
  apply InStep.ite
  · intro _
    exact InStep.pure ()
  · intro _
    cases memory.leg2.emptyRegistrySince with
    | none => exact InStep.pure ()
    | some since =>
        apply onlyIf_inStep
        intro _
        apply InStep.bind (L.modifyMemory _)
        intro _
        exact L.announce _ _ _

theorem Lockstep.warnResqueLayoutUnknown (L : Lockstep env c c' R) :
    InStep R warnResqueLayoutUnknown warnResqueLayoutUnknown env := by
  apply InStep.tryCatch L.maybeWarnResqueLayoutUnknown
  intro e
  exact InStep.pure ()

theorem Lockstep.observeStall (L : Lockstep env c c' R) (window : Duration) (holds : Bool) :
    InStep R (observeStall window holds) (observeStall window holds) env := by
  unfold OpenStudioOperator.observeStall
  apply InStep.bind_read
  apply InStep.bind L.stallTracker
  intro tracker
  apply InStep.bind
  · apply onlyIf_inStep
    intro _
    apply InStep.bind (L.getter _ _)
    intro persisted
    apply onlyIf_inStep
    intro _
    exact L.modifyMemory _
  · intro _
    apply InStep.bind L.stallTracker
    intro tracker
    apply InStep.bind (L.modifyMemory _)
    intro _
    apply InStep.ite
    · intro _
      apply InStep.bind (L.setScalar _ _ _)
      intro _
      exact InStep.pure _
    · intro _
      apply InStep.bind
      · apply onlyIf_inStep
        intro _
        exact L.setScalar _ _ _
      · intro _
        exact InStep.pure _

theorem Lockstep.restartCycleArmed (L : Lockstep env c c' R) (lastRestart : Option Instant) :
    InStep R (restartCycleArmed lastRestart) (restartCycleArmed lastRestart) env := by
  unfold OpenStudioOperator.restartCycleArmed
  apply InStep.ite
  · intro _
    exact InStep.pure _
  · intro _
    apply InStep.bind (L.getter _ _)
    intro ineffective
    exact InStep.pure _

theorem Lockstep.concludeCleanWindow (L : Lockstep env c c' R) (window : Duration)
    (lastRestart : Option Instant) :
    InStep R (concludeCleanWindow window lastRestart)
      (concludeCleanWindow window lastRestart) env := by
  unfold OpenStudioOperator.concludeCleanWindow
  apply InStep.bind_read
  apply InStep.bind L.stallTracker
  intro tracker
  apply onlyIf_inStep
  intro _
  apply InStep.bind (L.restartCycleArmed _)
  intro armed
  apply onlyIf_inStep
  intro _
  apply InStep.bind (L.setScalar _ _ _)
  intro _
  apply InStep.bind
  · apply onlyIf_inStep
    intro _
    exact L.setScalar _ _ _
  · intro _
    exact L.note not_false

theorem Lockstep.restartDeferred (L : Lockstep env c c' R) (window : Duration)
    (lastRestart : Option Instant) :
    InStep R (restartDeferred window lastRestart) (restartDeferred window lastRestart)
      env := by
  unfold OpenStudioOperator.restartDeferred
  apply InStep.bind_read
  cases lastRestart with
  | none => exact InStep.pure _
  | some last =>
      apply InStep.bind (L.getter _ _)
      intro ineffective
      exact InStep.pure _

theorem Lockstep.countIneffective (L : Lockstep env c c' R) (lastRestart : Option Instant) :
    InStep R (countIneffective lastRestart) (countIneffective lastRestart) env := by
  unfold OpenStudioOperator.countIneffective
  apply onlyIf_inStep
  intro _
  apply InStep.bind (L.getter _ _)
  intro ineffective
  apply InStep.bind (L.setScalar _ _ _)
  intro _
  apply onlyIf_inStep
  intro _
  exact L.announce _ _ _

theorem Lockstep.restartWebBackground (L : Lockstep env c c' R) (window : Duration)
    (lastRestart : Option Instant) :
    InStep R (restartWebBackground c window lastRestart)
      (restartWebBackground c' window lastRestart) env := by
  have hdeployment : webBackgroundDeploymentOf c' = webBackgroundDeploymentOf c := by
    rw [L.others]
    rfl
  unfold OpenStudioOperator.restartWebBackground
  rw [hdeployment]
  apply InStep.bind_read
  apply InStep.bind (L.act _)
  intro _
  apply InStep.bind (L.emit _ _ fun config => restartMessage config env window)
  intro _
  apply InStep.bind (L.setScalar _ _ _)
  intro _
  apply InStep.bind (L.setScalar _ _ _)
  intro _
  apply InStep.bind (L.countIneffective _)
  intro _
  exact L.resetStallTracker

theorem Lockstep.runStallTick (L : Lockstep env c c' R) :
    InStep R (runStallTick c) (runStallTick c') env := by
  have hwindow : stallWindowOf c' = stallWindowOf c := by
    rw [L.others]
    rfl
  unfold OpenStudioOperator.runStallTick
  rw [hwindow]
  apply InStep.bind_read
  apply InStep.bind L.lookupCaches
  intro _
  apply InStep.bind (L.getter _ _)
  intro lastRestart
  apply InStep.ite
  · intro _
    exact InStep.pure _
  · intro _
    apply InStep.bind L.senseStall
    intro holds
    apply InStep.bind L.warnResqueLayoutUnknown
    intro _
    apply InStep.bind (L.observeStall _ _)
    intro sustained
    apply InStep.bind
    · apply onlyIf_inStep
      intro _
      exact L.concludeCleanWindow _ _
    · intro _
      apply InStep.ite
      · intro _
        exact InStep.pure _
      · intro _
        apply InStep.bind (L.restartDeferred _ _)
        intro deferred
        apply InStep.ite
        · intro _
          exact InStep.pure _
        · intro _
          apply InStep.bind (L.restartWebBackground _ _)
          intro _
          exact InStep.pure _

/-!
## Recycler
-/

theorem Lockstep.recycleWorkers (L : Lockstep env c c' R) (trigger : RecycleTrigger) :
    InStep R (recycleWorkers c trigger) (recycleWorkers c' trigger) env := by
  have hdeployment : workerDeploymentOf c' = workerDeploymentOf c := by
    rw [L.others]
    rfl
  unfold OpenStudioOperator.recycleWorkers
  rw [hdeployment]
  apply InStep.bind_read
  apply InStep.bind (L.act _)
  intro _
  apply InStep.bind (L.emit _ _ (recycledMessage env trigger))
  intro _
  exact L.setScalar _ _ _

theorem Lockstep.runRecyclerTick (L : Lockstep env c c' R) :
    InStep R (runRecyclerTick c) (runRecyclerTick c') env := by
  have hgate : recycleGateClosed c' = recycleGateClosed c := by
    rw [L.others]
    rfl
  have harmed : forall analyses,
      armedTrigger analyses c' = armedTrigger analyses c := by
    intro analyses
    rw [L.others]
    rfl
  unfold OpenStudioOperator.runRecyclerTick
  rw [hgate]
  apply InStep.bind_read
  apply InStep.bind (L.getter _ _)
  intro lastRecycleAt
  apply InStep.ite
  · intro _
    exact InStep.pure _
  · intro _
    apply InStep.bind L.listAnalyses
    intro analyses
    rw [harmed]
    cases armedTrigger analyses c env.now lastRecycleAt with
    | none => exact InStep.pure _
    | some trigger =>
        apply InStep.bind (L.recycleWorkers _)
        intro _
        exact InStep.pure _

end DryRun

end OpenStudioOperator
