import OpenStudioOperator.StatusStore

/-!
# Datapoint watchdog

One poll of the started view: forget the clocks of datapoints that left it,
start a clock for those first seen, and requeue the ones over the runtime
while their budget lasts.  `status.startedSince` and `status.requeues` are the
memory that matters.  Every tenth poll also ages out the entries of ids that
no live view has shown for three checks; that debounce lives in the process.
-/

namespace OpenStudioOperator

open Foundation

def datapointRequeuedEvent : String := "DatapointRequeued"

def datapointRequeueExhaustedEvent : String := "DatapointRequeueExhausted"

def statusAnchorsPrunedEvent : String := "StatusAnchorsPruned"

def statusAnchorPruneEveryNTicks : Nat := 10

def statusAnchorPruneGoneConfirmations : Nat := 3

/-- `_datapoint_ids`: the named ids in order, each once. -/
def datapointIds (docIds : List (Option String)) : List String :=
  docIds.foldl
    (fun ids docId =>
      match docId with
      | none => ids
      | some id => if id.isEmpty ∨ id ∈ ids then ids else ids ++ [id])
    []

/-- The union of two sets without repetitions. -/
def setUnion (a b : List String) : List String :=
  a ++ b.filter (fun x => x ∉ a)

/-!
## Anchor hygiene
-/

/-- `_bump_absences`. -/
def bumpAbsences (counters : Dict String Nat) (tracked live : List String) :
    Dict String Nat :=
  let bumped := tracked.foldl
    (fun c key =>
      if key ∈ live then c.erase key else c.set key ((c.get? key).getD 0 + 1))
    counters
  bumped.keys.foldl (fun c key => if key ∈ tracked then c else c.erase key) bumped

/-- The ids whose counter reached the confirmations. -/
def confirmedIds (counters : Dict String Nat) : List String :=
  (counters.entries.filter
    (fun entry => statusAnchorPruneGoneConfirmations <= entry.2)).map Prod.fst

/-- The live ids a prune keeps: those in a view and those whose absence is not
yet confirmed. -/
def pruneLive (live : List String) (counters : Dict String Nat) : List String :=
  setUnion live (counters.keys.filter (fun key => key ∉ confirmedIds counters))

def modifyAnchorPrune (f : AnchorPruneState -> AnchorPruneState) : OpM Unit :=
  modifyMemory fun memory => { memory with anchorPrune := f memory.anchorPrune }

def anchorPruneState : OpM AnchorPruneState := do
  return (<- processMemory).anchorPrune

def prunedMessage (pruned : List (StatusField × List String)) : String :=
  let maps := pruned.length
  let sorted := pruned.mergeSort (fun a b => decide (a.1.key ≤ b.1.key))
  let summary := String.intercalate ", "
    (sorted.map fun p => p.1.key ++ ": " ++ toString p.2.length)
  s!"Status-anchor hygiene pruned {maps} map(s) — {summary}; " ++
    "ids absent from every live view for " ++
    s!"{statusAnchorPruneGoneConfirmations} consecutive heavy " ++
    "checks (issue #648). Live anchors and their D06 budgets are " ++
    "untouched."

/-- The end of a hygiene pass, once the absences are counted. -/
def pruneConfirmed (liveDatapoints liveAnalyses : List String) : OpM Unit := do
  let state <- anchorPruneState
  let confirmedDatapoints := confirmedIds state.absentDatapoints
  let confirmedAnalyses := confirmedIds state.absentAnalyses
  protectAnchorKeys .requeues liveDatapoints
  protectAnchorKeys .startedSince liveDatapoints
  protectAnchorKeys .softStops liveAnalyses
  protectAnchorKeys .archivedAnalyses liveAnalyses
  if confirmedDatapoints.isEmpty ∧ confirmedAnalyses.isEmpty then
    return ()
  else
    let pruned <- prune (some (pruneLive liveAnalyses state.absentAnalyses))
      (some (pruneLive liveDatapoints state.absentDatapoints))
    modifyAnchorPrune fun state => { state with
      absentDatapoints := eraseAll confirmedDatapoints state.absentDatapoints
      absentAnalyses := eraseAll confirmedAnalyses state.absentAnalyses }
    onlyIf (!pruned.isEmpty)
      (emit .normal statusAnchorsPrunedEvent (prunedMessage pruned))

/-- `_run_anchor_hygiene`. -/
def runAnchorHygiene (startedIds : List String) : OpM Unit := do
  let requeues <- getRequeues
  let softStops <- getSoftStops
  let archived <- getArchivedAnalyses
  let trackedDatapoints := requeues.keys
  let trackedAnalyses := setUnion softStops.keys archived.keys
  if trackedDatapoints.isEmpty ∧ trackedAnalyses.isEmpty then
    modifyAnchorPrune fun state => { state with
      absentDatapoints := Dict.empty
      absentAnalyses := Dict.empty }
  else
    let datapoints <- listDatapoints
    let liveDatapoints :=
      setUnion startedIds (datapointIds (datapoints.map DatapointDoc.id))
    let analyses <- listAnalyses
    let liveAnalyses := datapointIds (analyses.map AnalysisDoc.id)
    note (.heavyCheck liveDatapoints liveAnalyses)
    modifyAnchorPrune fun state => { state with
      absentDatapoints :=
        bumpAbsences state.absentDatapoints trackedDatapoints liveDatapoints
      absentAnalyses := bumpAbsences state.absentAnalyses trackedAnalyses liveAnalyses }
    pruneConfirmed liveDatapoints liveAnalyses

/-!
## Clocks
-/

/-- The departure prune, over `set(started_since) - live`. -/
def pruneDepartures (startedIds : List String) (startedSince : Dict String Instant) :
    OpM (Dict String Instant) := do
  let departed <- iterateSet (startedSince.keys.filter (fun id => id ∉ startedIds))
  let startedSince <- departed.foldlM
    (fun startedSince id => do
      clearStartedSince id
      return startedSince.erase id)
    startedSince
  note (.departuresPruned startedIds)
  return startedSince

/-- First observation of one started datapoint. -/
def observeStarted (startedSince : Dict String Instant) (id : String) :
    OpM (Dict String Instant) := do
  let env <- read
  if startedSince.contains id then
    return startedSince
  else
    setStartedSince id env.now
    return startedSince.set id env.now

/-!
## Requeues
-/

def runtimeMessage (config : OperatorConfig) (id : String) (runtime : Duration) :
    String :=
  let runtimeMinutes := wholeMinutes runtime
  let maxMinutes := config.datapointPolicy.maxDatapointRuntimeMinutes
  s!"Datapoint {id} runtime {runtimeMinutes}m exceeds " ++
    s!"maxDatapointRuntimeMinutes={maxMinutes} "

def exhaustedMessage (config : OperatorConfig) (id : String) (runtime : Duration)
    (budget : Int) : String :=
  let maxRequeues := config.datapointPolicy.maxAutoRequeues
  runtimeMessage config id runtime ++
    s!"with requeue budget exhausted ({budget}/{maxRequeues}) — " ++
    "no further action (no auto-escalation)"

def requeueMessage (config : OperatorConfig) (id : String) (runtime : Duration)
    (budget : Int) : String :=
  let maxRequeues := config.datapointPolicy.maxAutoRequeues
  let next := budget + 1
  runtimeMessage config id runtime ++ s!"— requeue {next}/{maxRequeues}" ++
    if config.dryRun then " suppressed (spec.dryRun)" else " issued"

/-- The exhaustion warning, once per datapoint and process. -/
def warnExhausted (config : OperatorConfig) (id : String) (runtime : Duration)
    (budget : Int) : OpM Unit := do
  let memory <- processMemory
  if id ∈ memory.exhaustedSeen then
    return ()
  else
    modifyMemory fun memory =>
      { memory with exhaustedSeen := memory.exhaustedSeen ++ [id] }
    emit .warning datapointRequeueExhaustedEvent
      (exhaustedMessage config id runtime budget)

/-- Requeue one datapoint and spend its budget. -/
def requeue (config : OperatorConfig) (id : String) (runtime : Duration)
    (budget : Int) : OpM Unit := do
  let env <- read
  mutateUnless config.dryRun (.requeueDatapoint id)
  emit .normal datapointRequeuedEvent (requeueMessage config id runtime budget)
  setRequeue id { count := budget + 1, lastRequeuedAt := env.now }

def budgetSpent (requeues : Dict String RequeueRecord) (id : String) : Int :=
  match requeues.get? id with
  | none => 0
  | some record => record.count

/-- The clocks of the tick and the ids it requeued. -/
structure WatchdogProgress where
  startedSince : Dict String Instant
  requeued : List String := []

/-- One started datapoint of the requeue loop. -/
def checkStarted (config : OperatorConfig) (requeues : Dict String RequeueRecord)
    (progress : WatchdogProgress) (id : String) : OpM WatchdogProgress := do
  let env <- read
  match progress.startedSince.get? id with
  | none => throw (.other "KeyError")
  | some since =>
      let runtime := env.now - since
      if runtime <= minutes config.datapointPolicy.maxDatapointRuntimeMinutes then
        return progress
      else
        let budget := budgetSpent requeues id
        if (config.datapointPolicy.maxAutoRequeues : Int) <= budget then
          warnExhausted config id runtime budget
          return progress
        else
          requeue config id runtime budget
          -- pacing: the requeue gets a full runtime window to take effect
          setStartedSince id env.now
          return { startedSince := progress.startedSince.set id env.now
                   requeued := progress.requeued ++ [id] }

/-!
## The tick
-/

/-- The hygiene cadence. -/
def countTick (startedIds : List String) : OpM Unit := do
  modifyAnchorPrune fun state => { state with ticks := state.ticks + 1 }
  let state <- anchorPruneState
  onlyIf (state.ticks % statusAnchorPruneEveryNTicks = 0) (runAnchorHygiene startedIds)

/-- `run_watchdog_tick`, with the cache lookup its caller makes for it. -/
def runWatchdogTick (config : OperatorConfig) : OpM (List String) := do
  lookupCaches
  let docs <- listStartedDatapoints
  let startedIds := datapointIds (docs.map DatapointDoc.id)
  let startedSince <- getStartedSinceMap
  let startedSince <- pruneDepartures startedIds startedSince
  let startedSince <- startedIds.foldlM observeStarted startedSince
  let requeues <- getRequeues
  let progress <- startedIds.foldlM (checkStarted config requeues)
    { startedSince := startedSince }
  countTick startedIds
  return progress.requeued

end OpenStudioOperator
