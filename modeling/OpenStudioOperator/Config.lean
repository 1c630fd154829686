import OpenStudioOperator.Status

/-!
# Operator configuration

The parts of the resource spec that the handlers read.  Every minute, hour, day
and count field has a lower bound of 0 or 1 in the resource definition, so the
fields are natural numbers; the defaults are those of the definition.
-/

namespace OpenStudioOperator

structure AnalysisPolicy where
  maxDurationMinutes : Nat := 180
  gracefulStopTimeoutMinutes : Nat := 15
  autoSoftStop : Bool := true
  forceDeleteOnEscalation : Bool := false
deriving DecidableEq, Repr

structure DatapointPolicy where
  maxDatapointRuntimeMinutes : Nat := 45
  maxAutoRequeues : Nat := 3
deriving DecidableEq, Repr

structure WorkerPolicy where
  recycleWorkerIntervalHours : Nat := 12
  recycleAfterAnalysis : Bool := true
  minRecycleIntervalMinutes : Nat := 30
deriving DecidableEq, Repr

structure StoragePolicy where
  archiveToS3 : Bool := false
  backend : Option String := none
  bucket : Option String := none
  secretRef : Option String := none
  retentionDays : Nat := 7
  purgeCompletedNfsFiles : Bool := true
deriving DecidableEq, Repr

structure WebBackgroundPolicy where
  stallWindowMinutes : Nat := 10
deriving DecidableEq, Repr

structure OperatorConfig where
  dryRun : Bool := false
  targetWorkerDeployment : String := ""
  targetWebBackgroundDeployment : String := ""
  analysisPolicy : AnalysisPolicy := {}
  datapointPolicy : DatapointPolicy := {}
  storagePolicy : StoragePolicy := {}
  webBackgroundPolicy : WebBackgroundPolicy := {}
  workerPolicy : WorkerPolicy := {}
deriving DecidableEq, Repr

/-- The validation rule of the resource definition on `analysisPolicy`. -/
def AnalysisPolicy.Admitted (policy : AnalysisPolicy) : Prop :=
  policy.gracefulStopTimeoutMinutes < policy.maxDurationMinutes

instance (policy : AnalysisPolicy) : Decidable policy.Admitted :=
  inferInstanceAs (Decidable (_ < _))

end OpenStudioOperator
