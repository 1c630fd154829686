import OpenStudioOperator.AnalysisSla
import OpenStudioOperator.DatapointWatchdog
import OpenStudioOperator.Retention
import OpenStudioOperator.StatusStoreLaws
import OpenStudioOperator.WebBackgroundMonitor
import OpenStudioOperator.WorkerRecycler

/-!
# What each handler leaves alone

A handler writes the fields it owns; any other part of the status, and of the
process's memory, is as it was when the handler is done, whether it returned
or raised.  A part is given by a view, and a field is not the view's when
writing it does not show.
-/

namespace OpenStudioOperator

open Foundation Prog

namespace Footprint

section Watched

variable {part part' : Type} {view : Status -> part} {memoryView : ProcessMemory -> part'}
variable {v : part} {u : part'} {env : Env}

/-- The watched parts of the status and of the memory have these values. -/
def Watched (view : Status -> part) (memoryView : ProcessMemory -> part') (v : part) (u : part')
    (w : World) : Prop :=
  view w.status = v ∧ memoryView w.memory = u

/-- Writing the map does not show in the view. -/
def Unwritten {record : Type} (field : MapField record) (view : Status -> part) : Prop :=
  forall d s, view (field.write d s) = view s

/-- Writing the scalar does not show in the view. -/
def Unset {value : Type} (field : ScalarField value) (view : Status -> part) : Prop :=
  forall d s, view (field.write d s) = view s

/-- Removing entries from the maps does not show in the view. -/
def Unpruned (view : Status -> part) : Prop :=
  forall (field : StatusField) ids s, view (field.eraseIn ids s) = view s

/-!
## Calls
-/

theorem preserves_call {alpha : Type} (ask : Env -> Trace -> Except Exc alpha)
    (event : Except Exc alpha -> Event) :
    Preserves (Watched view memoryView v u) (call ask event) env := by
  intro w h
  apply wp_call
  · intro _ _
    exact h
  · intro _ _
    exact h

theorem preserves_note (event : Event) :
    Preserves (Watched view memoryView v u) (note event) env :=
  fun _ h => h

theorem preserves_mutateUnless (dryRun : Bool) (m : Mutation) :
    Preserves (Watched view memoryView v u) (mutateUnless dryRun m) env := by
  apply Preserves.ite
  · intro _
    exact preserves_note _
  · intro _
    exact preserves_call _ _

theorem preserves_onlyIf {condition : Bool} {m : OpM Unit}
    (h : condition = true -> Preserves (Watched view memoryView v u) m env) :
    Preserves (Watched view memoryView v u) (onlyIf condition m) env :=
  Preserves.ite h fun _ => Preserves.pure ()

theorem preserves_processMemory :
    Preserves (Watched view memoryView v u) processMemory env :=
  fun _ h => h

theorem preserves_modifyMemory {f : ProcessMemory -> ProcessMemory}
    (hf : forall memory, memoryView (f memory) = memoryView memory) :
    Preserves (Watched view memoryView v u) (modifyMemory f) env :=
  fun w h => ⟨h.1, (hf w.memory).trans h.2⟩

theorem preserves_iterateSet (ids : List String) :
    Preserves (Watched view memoryView v u) (iterateSet ids) env :=
  fun _ h => h

/-!
## The store
-/

theorem preserves_readStatus (hleaves : env.Leaves view) (op : StoreOp) :
    Preserves (Watched view memoryView v u) (readStatus op) env := by
  intro w h
  apply wp_readStatus
  · intro s hkeeps
    exact ⟨(hkeeps _ _ hleaves).trans h.1, h.2⟩
  · intro s e hkeeps
    exact ⟨(hkeeps _ _ hleaves).trans h.1, h.2⟩

/-- A typed getter. -/
theorem preserves_getter {alpha : Type} (hleaves : env.Leaves view) (op : StoreOp)
    (f : Status -> alpha) :
    Preserves (Watched view memoryView v u) (do return f (<- readStatus op)) env :=
  Preserves.bind (preserves_readStatus hleaves op) fun _ => Preserves.pure _

theorem preserves_setMapEntry {record : Type} [DecidableEq record] {field : MapField record}
    (hleaves : env.Leaves view) (hfield : Unwritten field view) (op : StoreOp)
    (key : String) (encoded : Option record) :
    Preserves (Watched view memoryView v u) (setMapEntry op field key encoded) env := by
  intro w h
  apply wp_setMapEntry (Q := Watched view memoryView v u) (E := Watched view memoryView v u)
  · intro s hwrite
    exact ⟨(hwrite.frame _ view hleaves hfield).trans h.1, h.2⟩
  · intro s e hwrite
    exact ⟨(hwrite.frame _ view hleaves hfield).trans h.1, h.2⟩
  · intro _ _ h'
    exact h'
  · intro _ _ _ h'
    exact h'

theorem preserves_markSoftStopEscalated (hleaves : env.Leaves view)
    (hfield : Unwritten softStopsField view) (id : String) (at' : Instant)
    (outcome : EscalationOutcome) :
    Preserves (Watched view memoryView v u) (markSoftStopEscalated id at' outcome) env := by
  intro w h
  apply wp_markSoftStopEscalated (Q := Watched view memoryView v u)
    (E := Watched view memoryView v u)
  · intro s hwrite
    exact ⟨(hwrite.frame _ view hleaves hfield).trans h.1, h.2⟩
  · intro s e hwrite
    exact ⟨(hwrite.frame _ view hleaves hfield).trans h.1, h.2⟩

theorem preserves_setScalar {value : Type} [DecidableEq value] {field : ScalarField value}
    (hleaves : env.Leaves view) (hfield : Unset field view) (op : StoreOp)
    (encoded : Option value) :
    Preserves (Watched view memoryView v u) (setScalar op field encoded) env := by
  intro w h
  apply wp_setScalar
  · intro s hwrite
    exact ⟨(hwrite.frame _ view hleaves hfield).trans h.1, h.2⟩
  · intro e s hwrite
    exact ⟨(hwrite.frame _ view hleaves hfield).trans h.1, h.2⟩

theorem preserves_protectAnchorKeys (field : StatusField) (keys : List String) :
    Preserves (Watched view memoryView v u) (protectAnchorKeys field keys) env :=
  fun _ h => h

theorem view_applyPrunePatch (hview : Unpruned view) :
    forall (deletions : List (StatusField × List String)) (s : Status),
      view (applyPrunePatch deletions s) = view s := by
  intro deletions
  induction deletions with
  | nil =>
      intro s
      rfl
  | cons deletion rest ih =>
      intro s
      show view (applyPrunePatch rest (deletion.1.eraseIn deletion.2 s)) = view s
      rw [ih, hview]

theorem preserves_prune (hleaves : env.Leaves view) (hview : Unpruned view)
    (liveAnalysisIds liveDatapointIds : Option (List String)) :
    Preserves (Watched view memoryView v u) (prune liveAnalysisIds liveDatapointIds) env := by
  intro w h
  have hfinal : view (pruneOutcome liveAnalysisIds liveDatapointIds env w).final = v := by
    rw [← h.1]
    apply ReadModifyWrite.run_frame view
    · intro n s
      exact (hleaves w.trace _ n s).1
    · intro n s
      exact (hleaves w.trace _ n s).2
    · intro deletions s
      exact view_applyPrunePatch hview deletions s
  have hnoted : forall r,
      Watched view memoryView v u
        ((w.commit env.now (.prune liveAnalysisIds liveDatapointIds) r
          (pruneOutcome liveAnalysisIds liveDatapointIds env w).final).notePruned env.now
          (pruneOutcome liveAnalysisIds liveDatapointIds env w).applied) := by
    intro r
    cases (pruneOutcome liveAnalysisIds liveDatapointIds env w).applied with
    | none => exact ⟨hfinal, h.2⟩
    | some attempt => exact ⟨hfinal, h.2⟩
  unfold wp prune
  dsimp only
  cases (pruneOutcome liveAnalysisIds liveDatapointIds env w).result with
  | ok applied => exact hnoted _
  | error e => exact hnoted _

/-!
## SLA monitor

It writes `softStops` and `stoppedAnalyses`.
-/

theorem preserves_statusIsStarted (id : String) :
    Preserves (Watched view memoryView v u) (statusIsStarted id) env := by
  apply Preserves.bind (preserves_call _ _)
  intro payload
  cases payloadIsStarted payload with
  | ok started => exact Preserves.pure _
  | error e => exact Preserves.throw e

section SlaMonitor

variable (hleaves : env.Leaves view) (hsoftStops : Unwritten softStopsField view)
variable (hstops : Unwritten stoppedAnalysesField view)

include hleaves hsoftStops in
theorem preserves_firstSight (softStops : Dict String SoftStopRecord)
    (startedIds : List String) (doc : AnalysisDoc) :
    Preserves (Watched view memoryView v u) (firstSight softStops startedIds doc) env := by
  apply Preserves.bind_read
  cases doc.id with
  | none => exact Preserves.pure _
  | some id =>
      apply Preserves.ite
      · intro _
        exact Preserves.pure _
      · intro _
        apply Preserves.bind (preserves_statusIsStarted id)
        intro started
        apply Preserves.ite
        · intro _
          exact Preserves.pure _
        · intro _
          apply Preserves.ite
          · intro _
            exact Preserves.pure _
          · intro _
            apply Preserves.bind (preserves_setMapEntry hleaves hsoftStops _ _ _)
            intro _
            exact Preserves.pure _

theorem preserves_resqueMatchedWorkerPods (id : String) :
    Preserves (Watched view memoryView v u) (resqueMatchedWorkerPods id) env := by
  apply Preserves.bind (preserves_call _ _)
  intro workerIds
  apply Preserves.ite
  · intro _
    exact Preserves.pure _
  · intro _
    apply Preserves.bind (preserves_call _ _)
    intro podNames
    exact Preserves.pure _

theorem preserves_deleteVictim (config : OperatorConfig) (id : String)
    (count : EvictionCount) (victim : String × String) :
    Preserves (Watched view memoryView v u) (deleteVictim config id count victim) env := by
  apply Preserves.ite
  · intro _
    exact Preserves.pure _
  · intro _
    apply Preserves.tryCatch
    · apply Preserves.bind (preserves_call _ _)
      intro _
      exact Preserves.pure _
    · intro e
      cases e with
      | apiException status => exact Preserves.pure _
      | _ => exact Preserves.throw _

include hleaves hsoftStops in
theorem preserves_escalateAnalysis (config : OperatorConfig) (id : String)
    (record : SoftStopRecord) :
    Preserves (Watched view memoryView v u) (escalateAnalysis config id record) env := by
  apply Preserves.bind (preserves_resqueMatchedWorkerPods id)
  intro victims
  apply Preserves.bind (preserves_note _)
  intro _
  apply Preserves.tryCatch
  · apply Preserves.bind_read
    apply Preserves.bind
    · apply Preserves.foldlM
      intro victim _ count
      exact preserves_deleteVictim config id count victim
    · intro count
      cases passFailure count with
      | some e => exact Preserves.throw e
      | none =>
          apply Preserves.bind (preserves_call _ _)
          intro _
          apply Preserves.bind (preserves_markSoftStopEscalated hleaves hsoftStops _ _ _)
          intro _
          exact Preserves.pure _
  · intro e
    apply Preserves.bind (preserves_note _)
    intro _
    exact Preserves.throw e

include hleaves hsoftStops in
theorem preserves_softStop (config : OperatorConfig) (id : String) (record : SoftStopRecord) :
    Preserves (Watched view memoryView v u) (softStop config id record) env := by
  apply Preserves.bind_read
  apply Preserves.bind (preserves_mutateUnless _ _)
  intro _
  apply Preserves.bind (preserves_call _ _)
  intro _
  exact preserves_setMapEntry hleaves hsoftStops _ _ _

include hleaves hstops in
theorem preserves_retireStopRecord (id : String) (stop : StopRecord) (stoppedAt : Instant) :
    Preserves (Watched view memoryView v u) (retireStopRecord id stop stoppedAt) env :=
  Preserves.bind (preserves_setMapEntry hleaves hstops _ _ _) fun _ =>
    preserves_setMapEntry hleaves hstops _ _ _

include hleaves hstops in
theorem preserves_stopBlock (config : OperatorConfig) (id : String) :
    Preserves (Watched view memoryView v u) (stopBlock config id) env := by
  apply Preserves.bind (preserves_getter hleaves _ _)
  intro found
  cases found with
  | some stop =>
      apply Preserves.bind_read
      cases stop.stoppedAt with
      | some stoppedAt =>
          apply Preserves.bind (preserves_retireStopRecord hleaves hstops _ _ _)
          intro _
          exact Preserves.pure _
      | none =>
          apply Preserves.ite
          · intro _
            apply Preserves.bind (preserves_setMapEntry hleaves hstops _ _ _)
            intro _
            exact Preserves.pure _
          · intro _
            exact Preserves.pure _
  | none =>
      have hissued : Preserves (Watched view memoryView v u) (issueStop config id) env := by
        apply Preserves.bind_read
        apply Preserves.bind (preserves_mutateUnless _ _)
        intro _
        apply Preserves.bind (preserves_call _ _)
        intro _
        exact preserves_setMapEntry hleaves hstops _ _ _
      apply Preserves.bind hissued
      intro _
      apply Preserves.bind (preserves_getter hleaves _ _)
      intro reread
      cases reread with
      | none => exact Preserves.pure _
      | some stop =>
          dsimp only
          cases stop.stoppedAt with
          | some stoppedAt =>
              apply Preserves.bind (preserves_retireStopRecord hleaves hstops _ _ _)
              intro _
              exact Preserves.pure _
          | none => exact Preserves.pure _

include hleaves hsoftStops in
theorem preserves_escalateIf (config : OperatorConfig) (id : String) (record : SoftStopRecord)
    (decision : StopDecision) (result : SlaTickResult) :
    Preserves (Watched view memoryView v u) (escalateIf config id record decision result) env := by
  apply Preserves.ite
  · intro _
    apply Preserves.bind (preserves_escalateAnalysis hleaves hsoftStops config id record)
    intro _
    exact Preserves.pure _
  · intro _
    exact Preserves.pure _

include hleaves hsoftStops hstops in
theorem preserves_graceStep (config : OperatorConfig) (startedIds : List String) (id : String)
    (record : SoftStopRecord) (result : SlaTickResult) :
    Preserves (Watched view memoryView v u) (graceStep config startedIds id record result)
      env := by
  apply Preserves.bind_read
  apply Preserves.ite
  · intro _
    apply Preserves.bind (preserves_setMapEntry hleaves hsoftStops _ _ _)
    intro _
    exact Preserves.pure _
  · intro _
    apply Preserves.ite
    · intro _
      exact Preserves.pure _
    · intro _
      apply Preserves.ite
      · intro _
        apply Preserves.bind (preserves_softStop hleaves hsoftStops config id record)
        intro _
        exact Preserves.pure _
      · intro _
        apply Preserves.ite
        · intro _
          exact Preserves.pure _
        · intro _
          apply Preserves.ite
          · intro _
            apply Preserves.bind (preserves_stopBlock hleaves hstops config id)
            intro decision
            exact preserves_escalateIf hleaves hsoftStops config id record decision result
          · intro _
            exact preserves_escalateIf hleaves hsoftStops config id record _ result

include hleaves hsoftStops hstops in
theorem preserves_runSlaTick (config : OperatorConfig) :
    Preserves (Watched view memoryView v u) (runSlaTick config) env := by
  apply Preserves.ite
  · intro _
    exact Preserves.pure _
  · intro _
    apply Preserves.bind (preserves_getter hleaves _ _)
    intro softStops
    apply Preserves.bind (preserves_call _ _)
    intro analyses
    apply Preserves.bind
    · apply Preserves.foldlM
      intro doc _ startedIds
      exact preserves_firstSight hleaves hsoftStops softStops startedIds doc
    · intro startedIds
      apply Preserves.bind (preserves_getter hleaves _ _)
      intro softStops
      apply Preserves.foldlM
      intro entry _ result
      exact preserves_graceStep hleaves hsoftStops hstops config startedIds entry.1 entry.2
        result

end SlaMonitor

/-!
## Recycler

It writes `lastRecycleAt`.
-/

theorem preserves_runRecyclerTick (hleaves : env.Leaves view)
    (hanchor : Unset lastRecycleAtField view) (config : OperatorConfig) :
    Preserves (Watched view memoryView v u) (runRecyclerTick config) env := by
  apply Preserves.bind_read
  apply Preserves.bind (preserves_getter hleaves _ _)
  intro lastRecycleAt
  apply Preserves.ite
  · intro _
    exact Preserves.pure _
  · intro _
    apply Preserves.bind (preserves_call _ _)
    intro analyses
    cases armedTrigger analyses config env.now lastRecycleAt with
    | none => exact Preserves.pure _
    | some trigger =>
        apply Preserves.bind
        · apply Preserves.bind_read
          apply Preserves.bind (preserves_mutateUnless _ _)
          intro _
          apply Preserves.bind (preserves_call _ _)
          intro _
          exact preserves_setScalar hleaves hanchor _ _
        · intro _
          exact Preserves.pure _

/-!
## Caches
-/

/-- A process that starts afresh forgets nothing that is watched. -/
def CachesKept (env : Env) (memoryView : ProcessMemory -> part') : Prop :=
  env.freshCaches = true -> forall memory, memoryView {} = memoryView memory

theorem preserves_lookupCaches (hcaches : CachesKept env memoryView) :
    Preserves (Watched view memoryView v u) lookupCaches env := by
  apply Preserves.bind_read
  apply preserves_onlyIf
  intro hfresh
  apply Preserves.bind (preserves_note _)
  intro _
  exact preserves_modifyMemory (hcaches hfresh)

/-!
## Watchdog

It writes `requeues` and `startedSince`, and its hygiene removes entries of
every map.  Its memory is the exhausted datapoints and the absence counters.
-/

section Watchdog

variable (hleaves : env.Leaves view) (hrequeues : Unwritten requeuesField view)
variable (hstarted : Unwritten startedSinceField view) (hpruned : Unpruned view)
variable (hexhausted : forall memory seen,
  memoryView { memory with exhaustedSeen := seen } = memoryView memory)
variable (habsent : forall memory state,
  memoryView { memory with anchorPrune := state } = memoryView memory)

theorem preserves_anchorPruneState :
    Preserves (Watched view memoryView v u) anchorPruneState env :=
  Preserves.bind preserves_processMemory fun _ => Preserves.pure _

include habsent in
theorem preserves_modifyAnchorPrune (f : AnchorPruneState -> AnchorPruneState) :
    Preserves (Watched view memoryView v u) (modifyAnchorPrune f) env :=
  preserves_modifyMemory fun memory => habsent memory _

include hleaves hpruned habsent in
theorem preserves_pruneConfirmed (liveDatapoints liveAnalyses : List String) :
    Preserves (Watched view memoryView v u) (pruneConfirmed liveDatapoints liveAnalyses) env := by
  apply Preserves.bind preserves_anchorPruneState
  intro state
  apply Preserves.bind (preserves_protectAnchorKeys _ _)
  intro _
  apply Preserves.bind (preserves_protectAnchorKeys _ _)
  intro _
  apply Preserves.bind (preserves_protectAnchorKeys _ _)
  intro _
  apply Preserves.bind (preserves_protectAnchorKeys _ _)
  intro _
  apply Preserves.ite
  · intro _
    exact Preserves.pure ()
  · intro _
    apply Preserves.bind (preserves_prune hleaves hpruned _ _)
    intro pruned
    apply Preserves.bind (preserves_modifyAnchorPrune habsent _)
    intro _
    apply preserves_onlyIf
    intro _
    exact preserves_call _ _

include hleaves hpruned habsent in
theorem preserves_runAnchorHygiene (startedIds : List String) :
    Preserves (Watched view memoryView v u) (runAnchorHygiene startedIds) env := by
  apply Preserves.bind (preserves_getter hleaves _ _)
  intro requeues
  apply Preserves.bind (preserves_getter hleaves _ _)
  intro softStops
  apply Preserves.bind (preserves_getter hleaves _ _)
  intro archived
  apply Preserves.ite
  · intro _
    exact preserves_modifyAnchorPrune habsent _
  · intro _
    apply Preserves.bind (preserves_call _ _)
    intro datapoints
    apply Preserves.bind (preserves_call _ _)
    intro analyses
    apply Preserves.bind (preserves_note _)
    intro _
    apply Preserves.bind (preserves_modifyAnchorPrune habsent _)
    intro _
    exact preserves_pruneConfirmed hleaves hpruned habsent _ _

include hleaves hstarted in
theorem preserves_pruneDepartures (startedIds : List String)
    (startedSince : Dict String Instant) :
    Preserves (Watched view memoryView v u) (pruneDepartures startedIds startedSince) env := by
  apply Preserves.bind (preserves_iterateSet _)
  intro departed
  apply Preserves.bind
  · apply Preserves.foldlM
    intro id _ startedSince
    apply Preserves.bind (preserves_setMapEntry hleaves hstarted _ _ _)
    intro _
    exact Preserves.pure _
  · intro startedSince
    apply Preserves.bind (preserves_note _)
    intro _
    exact Preserves.pure _

include hleaves hstarted in
theorem preserves_observeStarted (startedSince : Dict String Instant) (id : String) :
    Preserves (Watched view memoryView v u) (observeStarted startedSince id) env := by
  apply Preserves.bind_read
  apply Preserves.ite
  · intro _
    exact Preserves.pure _
  · intro _
    apply Preserves.bind (preserves_setMapEntry hleaves hstarted _ _ _)
    intro _
    exact Preserves.pure _

include hexhausted in
theorem preserves_warnExhausted (config : OperatorConfig) (id : String) (runtime : Duration)
    (budget : Int) :
    Preserves (Watched view memoryView v u) (warnExhausted config id runtime budget) env := by
  apply Preserves.bind preserves_processMemory
  intro memory
  apply Preserves.ite
  · intro _
    exact Preserves.pure ()
  · intro _
    apply Preserves.bind (preserves_modifyMemory fun memory => hexhausted memory _)
    intro _
    exact preserves_call _ _

include hleaves hrequeues in
theorem preserves_requeue (config : OperatorConfig) (id : String) (runtime : Duration)
    (budget : Int) :
    Preserves (Watched view memoryView v u) (requeue config id runtime budget) env := by
  apply Preserves.bind_read
  apply Preserves.bind (preserves_mutateUnless _ _)
  intro _
  apply Preserves.bind (preserves_call _ _)
  intro _
  exact preserves_setMapEntry hleaves hrequeues _ _ _

include hleaves hrequeues hstarted hexhausted in
theorem preserves_checkStarted (config : OperatorConfig)
    (requeues : Dict String RequeueRecord) (progress : WatchdogProgress) (id : String) :
    Preserves (Watched view memoryView v u) (checkStarted config requeues progress id) env := by
  apply Preserves.bind_read
  cases progress.startedSince.get? id with
  | none => exact Preserves.throw _
  | some since =>
      apply Preserves.ite
      · intro _
        exact Preserves.pure _
      · intro _
        apply Preserves.ite
        · intro _
          apply Preserves.bind (preserves_warnExhausted hexhausted config id _ _)
          intro _
          exact Preserves.pure _
        · intro _
          apply Preserves.bind (preserves_requeue hleaves hrequeues config id _ _)
          intro _
          apply Preserves.bind (preserves_setMapEntry hleaves hstarted _ _ _)
          intro _
          exact Preserves.pure _

include hleaves hrequeues hstarted hpruned hexhausted habsent in
theorem preserves_runWatchdogTick (hcaches : CachesKept env memoryView)
    (config : OperatorConfig) :
    Preserves (Watched view memoryView v u) (runWatchdogTick config) env := by
  apply Preserves.bind (preserves_lookupCaches hcaches)
  intro _
  apply Preserves.bind (preserves_call _ _)
  intro docs
  apply Preserves.bind (preserves_getter hleaves _ _)
  intro startedSince
  apply Preserves.bind (preserves_pruneDepartures hleaves hstarted _ _)
  intro startedSince
  apply Preserves.bind
  · apply Preserves.foldlM
    intro id _ startedSince
    exact preserves_observeStarted hleaves hstarted startedSince id
  · intro startedSince
    apply Preserves.bind (preserves_getter hleaves _ _)
    intro requeues
    apply Preserves.bind
    · apply Preserves.foldlM
      intro id _ progress
      exact preserves_checkStarted hleaves hrequeues hstarted hexhausted config requeues
        progress id
    · intro progress
      apply Preserves.bind
      · apply Preserves.bind (preserves_modifyAnchorPrune habsent _)
        intro _
        apply Preserves.bind preserves_anchorPruneState
        intro state
        apply preserves_onlyIf
        intro _
        exact preserves_runAnchorHygiene hleaves hpruned habsent _
      · intro _
        exact Preserves.pure _

end Watchdog

/-!
## Retention

It writes `archivedAnalyses`.
-/

section Retention

variable (hleaves : env.Leaves view) (harchived : Unwritten archivedAnalysesField view)

theorem preserves_readJob (name : String) :
    Preserves (Watched view memoryView v u) (readJob name) env := by
  apply Preserves.tryCatch
  · apply Preserves.bind (preserves_call _ _)
    intro job
    exact Preserves.pure _
  · intro e
    apply Preserves.ite
    · intro _
      exact Preserves.pure _
    · intro _
      exact Preserves.throw e

theorem preserves_datapointIdsFor (payload : Option (List DatapointDoc)) (id : String) :
    Preserves (Watched view memoryView v u) (datapointIdsFor payload id) env := by
  have hpayload : Preserves (Watched view memoryView v u) (datapointsPayload payload) env := by
    cases payload with
    | some docs => exact Preserves.pure _
    | none => exact preserves_call _ _
  apply Preserves.bind hpayload
  intro docs
  exact Preserves.pure _

include hleaves harchived in
theorem preserves_failArchival (id detail : String) :
    Preserves (Watched view memoryView v u) (failArchival id detail) env :=
  Preserves.bind (preserves_call _ _) fun _ => preserves_setMapEntry hleaves harchived _ _ _

include hleaves harchived in
theorem preserves_deleteVerified (config : OperatorConfig) (id : String)
    (record : ArchivedAnalysisRecord) (justVerified : Bool) :
    Preserves (Watched view memoryView v u) (deleteVerified config id record justVerified)
      env := by
  apply Preserves.ite
  · intro _
    exact Preserves.pure _
  · intro _
    apply Preserves.ite
    · intro _
      apply Preserves.bind
      · apply preserves_onlyIf
        intro _
        exact preserves_call _ _
      · intro _
        exact Preserves.pure _
    · intro _
      apply Preserves.bind (preserves_call _ _)
      intro _
      apply Preserves.bind (preserves_call _ _)
      intro _
      apply Preserves.bind (preserves_setMapEntry hleaves harchived _ _ _)
      intro _
      exact Preserves.pure _

include hleaves harchived in
theorem preserves_recordVerified (config : OperatorConfig) (id : String)
    (verified : ArchivedAnalysisRecord) (message : String) (result : RetentionTickResult) :
    Preserves (Watched view memoryView v u) (recordVerified config id verified message result)
      env := by
  apply Preserves.bind (preserves_setMapEntry hleaves harchived _ _ _)
  intro _
  apply Preserves.bind (preserves_call _ _)
  intro _
  apply Preserves.bind (preserves_deleteVerified hleaves harchived config id verified true)
  intro deleted
  exact Preserves.pure _

include hleaves harchived in
theorem preserves_reconcileTracked (config : OperatorConfig)
    (completed : Dict String AnalysisDoc) (id : String) (record : ArchivedAnalysisRecord)
    (result : RetentionTickResult) :
    Preserves (Watched view memoryView v u) (reconcileTracked config completed id record result)
      env := by
  apply Preserves.bind_read
  apply Preserves.ite
  · intro _
    apply Preserves.bind (preserves_setMapEntry hleaves harchived _ _ _)
    intro _
    exact Preserves.pure _
  · intro _
    apply Preserves.ite
    · intro _
      apply Preserves.bind (preserves_deleteVerified hleaves harchived config id record false)
      intro deleted
      exact Preserves.pure _
    · intro _
      cases record.jobName with
      | none =>
          apply Preserves.ite
          · intro _
            exact Preserves.pure _
          · intro _
            apply Preserves.bind (preserves_setMapEntry hleaves harchived _ _ _)
            intro _
            exact Preserves.pure _
      | some jobName =>
          apply Preserves.bind (preserves_readJob jobName)
          intro found
          cases found with
          | none =>
              apply Preserves.bind (preserves_failArchival hleaves harchived _ _)
              intro _
              exact Preserves.pure _
          | some job =>
              dsimp only
              cases jobTerminalCondition job with
              | none => exact Preserves.pure _
              | some condition =>
                  cases condition with
                  | failed =>
                      apply Preserves.bind (preserves_failArchival hleaves harchived _ _)
                      intro _
                      exact Preserves.pure _
                  | complete =>
                      exact preserves_recordVerified hleaves harchived _ _ _ _ _

include hleaves harchived in
theorem preserves_spawnJob (text : TextOps) (config : OperatorConfig) (id : String)
    (payload : Option (List DatapointDoc)) (result : RetentionTickResult) :
    Preserves (Watched view memoryView v u) (spawnJob text config id payload result) env := by
  apply Preserves.bind_read
  apply Preserves.bind (preserves_datapointIdsFor payload id)
  intro found
  dsimp only
  cases buildArchivalJob text id config.storagePolicy env.kubeNamespace found.1 with
  | error message => exact Preserves.throw _
  | ok manifest =>
      apply Preserves.bind (preserves_mutateUnless _ _)
      intro _
      apply Preserves.bind (preserves_setMapEntry hleaves harchived _ _ _)
      intro _
      apply Preserves.bind (preserves_call _ _)
      intro _
      exact Preserves.pure _

include hleaves harchived in
theorem preserves_spawnArchival (text : TextOps) (config : OperatorConfig) (id : String)
    (payload : Option (List DatapointDoc)) (result : RetentionTickResult) :
    Preserves (Watched view memoryView v u) (spawnArchival text config id payload result) env := by
  apply Preserves.bind_read
  apply Preserves.bind (preserves_readJob _)
  intro found
  cases found with
  | none => exact preserves_spawnJob hleaves harchived text config id payload result
  | some existing =>
      dsimp only
      cases jobTerminalCondition existing with
      | none =>
          apply Preserves.bind (preserves_setMapEntry hleaves harchived _ _ _)
          intro _
          exact Preserves.pure _
      | some condition =>
          cases condition with
          | complete =>
              apply Preserves.bind (preserves_recordVerified hleaves harchived _ _ _ _ _)
              intro result
              exact Preserves.pure _
          | failed =>
              apply Preserves.bind (preserves_mutateUnless _ _)
              intro _
              exact preserves_spawnJob hleaves harchived text config id payload result

include hleaves harchived in
theorem preserves_runRetentionTick (text : TextOps) (config : OperatorConfig) :
    Preserves (Watched view memoryView v u) (runRetentionTick text config) env := by
  apply Preserves.bind_read
  apply Preserves.ite
  · intro _
    exact Preserves.pure _
  · intro _
    apply Preserves.ite
    · intro _
      exact Preserves.pure _
    · intro _
      apply Preserves.bind (preserves_call _ _)
      intro analyses
      apply Preserves.bind (preserves_getter hleaves _ _)
      intro tracked
      apply Preserves.bind
      · apply Preserves.foldlM
        intro entry _ result
        exact preserves_reconcileTracked hleaves harchived config _ entry.1 entry.2 result
      · intro result
        apply Preserves.bind
        · apply Preserves.foldlM
          intro id _ state
          exact preserves_spawnArchival hleaves harchived text config id state.2 state.1
        · intro spawned
          exact Preserves.pure _

end Retention

/-!
## Stall monitor

It writes the three scalars of the restarts.  Its memory is the tracker and
the safeguard of the second leg.
-/

section StallMonitor

variable (hleaves : env.Leaves view) (hanchor : Unset lastWebBackgroundRestartField view)
variable (hwindow : Unset stallWindowStartedAtField view)
variable (hcount : Unset webBackgroundIneffectiveRestartsField view)
variable (htracker : forall memory tracker,
  memoryView { memory with stallTracker := tracker } = memoryView memory)
variable (hleg2 : forall memory state, memoryView { memory with leg2 := state } = memoryView memory)

theorem preserves_stallTracker :
    Preserves (Watched view memoryView v u) stallTracker env :=
  Preserves.bind preserves_processMemory fun _ => Preserves.pure _

include htracker in
theorem preserves_setStallTracker (tracker : StallWindowTracker) :
    Preserves (Watched view memoryView v u) (setStallTracker tracker) env :=
  preserves_modifyMemory fun memory => htracker memory _

include hleg2 in
theorem preserves_modifyLeg2 (f : Leg2SafeguardState -> Leg2SafeguardState) :
    Preserves (Watched view memoryView v u) (modifyLeg2 f) env :=
  preserves_modifyMemory fun memory => hleg2 memory _

theorem preserves_workerPodsHealthy (deployment : String) :
    Preserves (Watched view memoryView v u) (workerPodsHealthy deployment) env := by
  apply Preserves.bind (preserves_call _ _)
  intro selector
  cases selector with
  | none => exact Preserves.pure _
  | some selector =>
      apply Preserves.ite
      · intro _
        exact Preserves.pure _
      · intro _
        apply Preserves.bind (preserves_call _ _)
        intro pods
        exact Preserves.pure _

include hleg2 in
theorem preserves_stallConditionHolds (config : OperatorConfig) :
    Preserves (Watched view memoryView v u) (stallConditionHolds config) env := by
  apply Preserves.bind_read
  apply Preserves.bind (preserves_call _ _)
  intro registered
  apply Preserves.bind (preserves_modifyLeg2 hleg2 _)
  intro _
  apply Preserves.bind (preserves_call _ _)
  intro depths
  apply Preserves.ite
  · intro _
    exact Preserves.pure _
  · intro _
    apply Preserves.bind (preserves_modifyLeg2 hleg2 _)
    intro _
    apply Preserves.bind (preserves_call _ _)
    intro stale
    apply Preserves.ite
    · intro _
      exact Preserves.pure _
    · intro _
      exact preserves_workerPodsHealthy _

include hleaves hwindow htracker hleg2 in
theorem preserves_senseStall (config : OperatorConfig) :
    Preserves (Watched view memoryView v u) (senseStall config) env := by
  apply Preserves.bind
  · apply Preserves.tryCatch (preserves_stallConditionHolds hleg2 config)
    intro e
    apply Preserves.bind
    · apply preserves_onlyIf
      intro _
      apply Preserves.bind (preserves_setStallTracker htracker _)
      intro _
      exact preserves_setScalar hleaves hwindow _ _
    · intro _
      exact Preserves.throw e
  · intro holds
    apply Preserves.bind (preserves_note _)
    intro _
    exact Preserves.pure _

include hleg2 in
theorem preserves_warnResqueLayoutUnknown :
    Preserves (Watched view memoryView v u) warnResqueLayoutUnknown env := by
  apply Preserves.tryCatch
  · apply Preserves.bind_read
    apply Preserves.bind preserves_processMemory
    intro memory
    apply Preserves.ite
    · intro _
      exact Preserves.pure ()
    · intro _
      cases memory.leg2.emptyRegistrySince with
      | none => exact Preserves.pure ()
      | some since =>
          apply preserves_onlyIf
          intro _
          apply Preserves.bind (preserves_modifyLeg2 hleg2 _)
          intro _
          exact preserves_call _ _
  · intro _
    exact Preserves.pure ()

include hleaves hwindow htracker in
theorem preserves_observeStall (window : Duration) (holds : Bool) :
    Preserves (Watched view memoryView v u) (observeStall window holds) env := by
  apply Preserves.bind_read
  apply Preserves.bind preserves_stallTracker
  intro tracker
  apply Preserves.bind
  · apply preserves_onlyIf
    intro _
    apply Preserves.bind (preserves_getter hleaves _ _)
    intro persisted
    apply preserves_onlyIf
    intro _
    exact preserves_setStallTracker htracker _
  · intro _
    apply Preserves.bind preserves_stallTracker
    intro tracker
    apply Preserves.bind (preserves_setStallTracker htracker _)
    intro _
    apply Preserves.ite
    · intro _
      apply Preserves.bind (preserves_setScalar hleaves hwindow _ _)
      intro _
      exact Preserves.pure _
    · intro _
      apply Preserves.bind
      · apply preserves_onlyIf
        intro _
        exact preserves_setScalar hleaves hwindow _ _
      · intro _
        exact Preserves.pure _

include hleaves hanchor hcount in
theorem preserves_concludeCleanWindow (window : Duration) (lastRestart : Option Instant) :
    Preserves (Watched view memoryView v u) (concludeCleanWindow window lastRestart) env := by
  apply Preserves.bind_read
  apply Preserves.bind preserves_stallTracker
  intro tracker
  apply preserves_onlyIf
  intro _
  apply Preserves.bind
  · apply Preserves.ite
    · intro _
      exact Preserves.pure _
    · intro _
      apply Preserves.bind (preserves_getter hleaves _ _)
      intro ineffective
      exact Preserves.pure _
  · intro armed
    apply preserves_onlyIf
    intro _
    apply Preserves.bind (preserves_setScalar hleaves hcount _ _)
    intro _
    apply Preserves.bind
    · apply preserves_onlyIf
      intro _
      exact preserves_setScalar hleaves hanchor _ _
    · intro _
      exact preserves_note _

include hleaves in
theorem preserves_restartDeferred (window : Duration) (lastRestart : Option Instant) :
    Preserves (Watched view memoryView v u) (restartDeferred window lastRestart) env := by
  apply Preserves.bind_read
  cases lastRestart with
  | none => exact Preserves.pure _
  | some last =>
      apply Preserves.bind (preserves_getter hleaves _ _)
      intro ineffective
      exact Preserves.pure _

include hleaves hanchor hwindow hcount htracker in
theorem preserves_restartWebBackground (config : OperatorConfig) (window : Duration)
    (lastRestart : Option Instant) :
    Preserves (Watched view memoryView v u) (restartWebBackground config window lastRestart)
      env := by
  apply Preserves.bind_read
  apply Preserves.bind (preserves_mutateUnless _ _)
  intro _
  apply Preserves.bind (preserves_call _ _)
  intro _
  apply Preserves.bind (preserves_setScalar hleaves hwindow _ _)
  intro _
  apply Preserves.bind (preserves_setScalar hleaves hanchor _ _)
  intro _
  apply Preserves.bind
  · apply preserves_onlyIf
    intro _
    apply Preserves.bind (preserves_getter hleaves _ _)
    intro ineffective
    apply Preserves.bind (preserves_setScalar hleaves hcount _ _)
    intro _
    apply preserves_onlyIf
    intro _
    exact preserves_call _ _
  · intro _
    exact preserves_setStallTracker htracker _

include hleaves hanchor hwindow hcount htracker hleg2 in
theorem preserves_runStallTick (hcaches : CachesKept env memoryView) (config : OperatorConfig) :
    Preserves (Watched view memoryView v u) (runStallTick config) env := by
  apply Preserves.bind_read
  apply Preserves.bind (preserves_lookupCaches hcaches)
  intro _
  apply Preserves.bind (preserves_getter hleaves _ _)
  intro lastRestart
  apply Preserves.ite
  · intro _
    exact Preserves.pure _
  · intro _
    apply Preserves.bind (preserves_senseStall hleaves hwindow htracker hleg2 config)
    intro holds
    apply Preserves.bind (preserves_warnResqueLayoutUnknown hleg2)
    intro _
    apply Preserves.bind (preserves_observeStall hleaves hwindow htracker _ holds)
    intro sustained
    apply Preserves.bind
    · apply preserves_onlyIf
      intro _
      exact preserves_concludeCleanWindow hleaves hanchor hcount _ _
    · intro _
      apply Preserves.ite
      · intro _
        exact Preserves.pure _
      · intro _
        apply Preserves.bind (preserves_restartDeferred hleaves _ _)
        intro deferred
        apply Preserves.ite
        · intro _
          exact Preserves.pure _
        · intro _
          apply Preserves.bind (preserves_restartWebBackground hleaves hanchor hwindow
            hcount htracker config _ _)
          intro _
          exact Preserves.pure _

end StallMonitor

end Watched

end Footprint

end OpenStudioOperator
