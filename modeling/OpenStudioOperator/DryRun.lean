import OpenStudioOperator.AnalysisSla
import OpenStudioOperator.DatapointWatchdog
import OpenStudioOperator.Foundation.Lockstep
import OpenStudioOperator.Retention
import OpenStudioOperator.WorkerRecycler

/-!
# What `spec.dryRun` leaves alone

Two runs of a handler, under configurations that differ in `spec.dryRun` at
most, stay in step: the flag decides whether a mutation is issued, and what an
Event says.  What keeps two worlds in step is a parameter, so that one walk
through the handlers serves both the safety of a dry run and its parity with
a live one.
-/

namespace OpenStudioOperator

open Foundation Prog

namespace DryRun

def IsMutation : Event -> Prop
  | .mutate _ _ => True
  | _ => False

/-- After two histories the environment answers every call alike; mutations
and Events apart. -/
structure AnswersAlike (env : Env) (trace trace' : Trace) : Prop where
  listAnalyses : env.listAnalyses trace = env.listAnalyses trace'
  listDatapoints : env.listDatapoints trace = env.listDatapoints trace'
  listStartedDatapoints : env.listStartedDatapoints trace = env.listStartedDatapoints trace'
  getAnalysisStatus : env.getAnalysisStatus trace = env.getAnalysisStatus trace'
  readJob : env.readJob trace = env.readJob trace'
  workersForAnalysis : env.workersForAnalysis trace = env.workersForAnalysis trace'
  listPods : env.listPods trace = env.listPods trace'
  statusMapCapped : env.statusMapCapped trace = env.statusMapCapped trace'
  server : env.server trace = env.server trace'
  workerHeartbeats : env.workerHeartbeats trace = env.workerHeartbeats trace'
  queueDepths : env.queueDepths trace = env.queueDepths trace'
  staleWorkers : env.staleWorkers trace = env.staleWorkers trace'
  deploymentLabelSelector :
    env.deploymentLabelSelector trace = env.deploymentLabelSelector trace'
  listWorkerPods : env.listWorkerPods trace = env.listWorkerPods trace'
  setOrder : env.setOrder trace = env.setOrder trace'

theorem AnswersAlike.refl (env : Env) (trace : Trace) : AnswersAlike env trace trace := by
  constructor <;> rfl

/-- `R` keeps two runs in step, under `c` on the one side and `c'` on the
other: related worlds show the same, and stay related when both sides make the
same call, announce in the words of their configuration, or act on the flag. -/
structure Lockstep (env : Env) (c c' : OperatorConfig) (R : World -> World -> Prop) :
    Prop where
  others : c' = { c with dryRun := c'.dryRun }
  status : forall {w w' : World}, R w w' -> w.status = w'.status
  memory : forall {w w' : World}, R w w' -> w.memory = w'.memory
  protectedKeys : forall {w w' : World}, R w w' -> w.protectedKeys = w'.protectedKeys
  answers : forall {w w' : World}, R w w' -> AnswersAlike env w.trace w'.trace
  log : forall {w w' : World} {event : Event}, R w w' -> ¬ IsMutation event ->
    R (w.log env.now event) (w'.log env.now event)
  commit : forall {w w' : World} (op : StoreOp) (r : Except Exc Unit) (s : Status), R w w' ->
    R (w.commit env.now op r s) (w'.commit env.now op r s)
  remember : forall {w w' : World} (memory : ProcessMemory), R w w' ->
    R { w with memory := memory } { w' with memory := memory }
  protect : forall {w w' : World} (keys : StatusField -> List String), R w w' ->
    R { w with protectedKeys := keys } { w' with protectedKeys := keys }
  emit : forall (type : EventType) (reason : String) (text : OperatorConfig -> String),
    InStep R (emit type reason (text c)) (emit type reason (text c')) env
  act : forall m, InStep R (mutateUnless c.dryRun m) (mutateUnless c'.dryRun m) env

section Calls

variable {env : Env} {c c' : OperatorConfig} {R : World -> World -> Prop}

theorem Lockstep.call (L : Lockstep env c c' R) {alpha : Type}
    {ask : Env -> Trace -> Except Exc alpha} {event : Except Exc alpha -> Event}
    (hask : forall {trace trace'}, AnswersAlike env trace trace' ->
      ask env trace = ask env trace')
    (hevent : forall r, ¬ IsMutation (event r)) :
    InStep R (call ask event) (call ask event) env := by
  intro w w' h
  have hanswer := hask (L.answers h)
  unfold rwp OpenStudioOperator.call
  dsimp only
  rw [← hanswer]
  cases ask env w.trace with
  | ok a => exact ⟨rfl, L.log h (hevent _)⟩
  | error e => exact ⟨rfl, L.log h (hevent _)⟩

theorem Lockstep.listAnalyses (L : Lockstep env c c' R) :
    InStep R listAnalyses listAnalyses env :=
  L.call (fun h => h.listAnalyses) fun _ => not_false

theorem Lockstep.listDatapoints (L : Lockstep env c c' R) :
    InStep R listDatapoints listDatapoints env :=
  L.call (fun h => h.listDatapoints) fun _ => not_false

theorem Lockstep.listStartedDatapoints (L : Lockstep env c c' R) :
    InStep R listStartedDatapoints listStartedDatapoints env :=
  L.call (fun h => h.listStartedDatapoints) fun _ => not_false

theorem Lockstep.getAnalysisStatus (L : Lockstep env c c' R) (id : String) :
    InStep R (getAnalysisStatus id) (getAnalysisStatus id) env :=
  L.call (fun h => congrFun h.getAnalysisStatus id) fun _ => not_false

theorem Lockstep.readNamespacedJob (L : Lockstep env c c' R) (name : String) :
    InStep R (readNamespacedJob name) (readNamespacedJob name) env :=
  L.call (fun h => congrFun h.readJob name) fun _ => not_false

theorem Lockstep.workersForAnalysis (L : Lockstep env c c' R) (id : String) :
    InStep R (workersForAnalysis id) (workersForAnalysis id) env :=
  L.call (fun h => congrFun h.workersForAnalysis id) fun _ => not_false

theorem Lockstep.listNamespacedPod (L : Lockstep env c c' R) :
    InStep R listNamespacedPod listNamespacedPod env :=
  L.call (fun h => h.listPods) fun _ => not_false

theorem Lockstep.workerHeartbeats (L : Lockstep env c c' R) :
    InStep R workerHeartbeats workerHeartbeats env :=
  L.call (fun h => h.workerHeartbeats) fun _ => not_false

theorem Lockstep.queueDepths (L : Lockstep env c c' R) :
    InStep R queueDepths queueDepths env :=
  L.call (fun h => h.queueDepths) fun _ => not_false

theorem Lockstep.staleWorkers (L : Lockstep env c c' R) :
    InStep R staleWorkers staleWorkers env :=
  L.call (fun h => h.staleWorkers) fun _ => not_false

theorem Lockstep.deploymentLabelSelector (L : Lockstep env c c' R) (deployment : String) :
    InStep R (deploymentLabelSelector deployment) (deploymentLabelSelector deployment) env :=
  L.call (fun h => congrFun h.deploymentLabelSelector deployment) fun _ => not_false

theorem Lockstep.listWorkerPods (L : Lockstep env c c' R) (selector : String) :
    InStep R (listWorkerPods selector) (listWorkerPods selector) env :=
  L.call (fun h => congrFun h.listWorkerPods selector) fun _ => not_false

theorem Lockstep.note (L : Lockstep env c c' R) {event : Event}
    (hevent : ¬ IsMutation event) : InStep R (note event) (note event) env :=
  fun _ _ h => ⟨rfl, L.log h hevent⟩

theorem Lockstep.processMemory (L : Lockstep env c c' R) :
    InStep R processMemory processMemory env :=
  fun _ _ h => ⟨L.memory h, h⟩

theorem Lockstep.modifyMemory (L : Lockstep env c c' R)
    (f : ProcessMemory -> ProcessMemory) :
    InStep R (modifyMemory f) (modifyMemory f) env := by
  intro w w' h
  have hnew := L.remember (f w.memory) h
  constructor
  · rfl
  · rw [L.memory h] at hnew ⊢
    exact hnew

theorem Lockstep.iterateSet (L : Lockstep env c c' R) (ids : List String) :
    InStep R (iterateSet ids) (iterateSet ids) env := by
  intro w w' h
  constructor
  · rw [(L.answers h).setOrder]
  · exact h

theorem onlyIf_inStep {condition : Bool} {m m' : OpM Unit}
    (h : condition = true -> InStep R m m' env) :
    InStep R (onlyIf condition m) (onlyIf condition m') env :=
  InStep.ite h fun _ => InStep.pure ()

theorem Lockstep.lookupCaches (L : Lockstep env c c' R) :
    InStep R lookupCaches lookupCaches env := by
  apply InStep.bind_read
  apply onlyIf_inStep
  intro _
  apply InStep.bind
  · exact L.note not_false
  · intro _
    exact L.modifyMemory _

/-- An Event whose text does not depend on the configuration. -/
theorem Lockstep.announce (L : Lockstep env c c' R) (type : EventType)
    (reason message : String) :
    InStep R (OpenStudioOperator.emit type reason message)
      (OpenStudioOperator.emit type reason message) env :=
  L.emit type reason fun _ => message

/-!
## The store
-/

theorem Lockstep.readStatus (L : Lockstep env c c' R) (op : StoreOp) :
    InStep R (readStatus op) (readStatus op) env := by
  intro w w' h
  have hserver := (L.answers h).server
  have hcommit := fun r s => L.commit op r s h
  unfold rwp OpenStudioOperator.readStatus
  dsimp only
  rw [← hserver, ← L.status h]
  cases (env.server w.trace op).read 1 with
  | none => exact ⟨rfl, hcommit _ _⟩
  | some e => exact ⟨rfl, hcommit _ _⟩

theorem Lockstep.mutateStatus (L : Lockstep env c c' R) {patch acc : Type} (op : StoreOp)
    (apply' : patch -> Status -> Status)
    (build : acc -> Status -> Except Exc (Option patch × acc)) (init : acc) :
    InStep R (mutateStatus op apply' build init) (mutateStatus op apply' build init) env := by
  intro w w' h
  have hcommit := fun r s => L.commit op r s h
  have houtcome : mutateOutcome op apply' build init env w =
      mutateOutcome op apply' build init env w' := by
    unfold mutateOutcome
    rw [(L.answers h).server, L.status h]
  unfold rwp OpenStudioOperator.mutateStatus
  dsimp only
  rw [← houtcome]
  cases (mutateOutcome op apply' build init env w).result with
  | ok a => exact ⟨rfl, hcommit _ _⟩
  | error e => exact ⟨rfl, hcommit _ _⟩

theorem Lockstep.protectedAnchorKeys (L : Lockstep env c c' R) (field : StatusField) :
    InStep R (protectedAnchorKeys field) (protectedAnchorKeys field) env := by
  intro w w' h
  constructor
  · rw [L.protectedKeys h]
  · exact h

theorem Lockstep.protectAnchorKeys (L : Lockstep env c c' R) (field : StatusField)
    (keys : List String) :
    InStep R (protectAnchorKeys field keys) (protectAnchorKeys field keys) env := by
  intro w w' h
  have hnew := L.protect (fun f => if f = field then keys else w.protectedKeys f) h
  constructor
  · rfl
  · rw [L.protectedKeys h] at hnew ⊢
    exact hnew

theorem Lockstep.setMapEntry (L : Lockstep env c c' R) {record : Type} [DecidableEq record]
    (op : StoreOp) (field : MapField record) (key : String) (encoded : Option record) :
    InStep R (setMapEntry op field key encoded) (setMapEntry op field key encoded) env := by
  apply InStep.bind (L.protectedAnchorKeys _)
  intro protectedIds
  apply InStep.bind (L.mutateStatus _ _ _ _)
  intro evicted
  apply InStep.ite
  · intro _
    exact InStep.pure ()
  · intro _
    unfold reportEviction
    apply L.call
    · intro trace trace' h
      rw [h.statusMapCapped]
    · intro _
      exact not_false

theorem Lockstep.setScalar (L : Lockstep env c c' R) {value : Type} [DecidableEq value]
    (op : StoreOp) (field : ScalarField value) (encoded : Option value) :
    InStep R (setScalar op field encoded) (setScalar op field encoded) env :=
  L.mutateStatus _ _ _ _

/-- A typed getter. -/
theorem Lockstep.getter (L : Lockstep env c c' R) {alpha : Type} (op : StoreOp)
    (view : Status -> alpha) :
    InStep R (do return view (<- OpenStudioOperator.readStatus op))
      (do return view (<- OpenStudioOperator.readStatus op)) env := by
  apply InStep.bind (L.readStatus op)
  intro s
  exact InStep.pure _

theorem Lockstep.prune (L : Lockstep env c c' R)
    (liveAnalysisIds liveDatapointIds : Option (List String)) :
    InStep R (prune liveAnalysisIds liveDatapointIds)
      (prune liveAnalysisIds liveDatapointIds) env := by
  intro w w' h
  have houtcome : pruneOutcome liveAnalysisIds liveDatapointIds env w =
      pruneOutcome liveAnalysisIds liveDatapointIds env w' := by
    unfold pruneOutcome mutateOutcome
    rw [(L.answers h).server, L.status h]
  have hnoted : forall r s applied,
      R ((w.commit env.now (.prune liveAnalysisIds liveDatapointIds) r s).notePruned
          env.now applied)
        ((w'.commit env.now (.prune liveAnalysisIds liveDatapointIds) r s).notePruned
          env.now applied) := by
    intro r s applied
    have hcommit := L.commit (.prune liveAnalysisIds liveDatapointIds) r s h
    cases applied with
    | none => exact hcommit
    | some attempt => exact L.log hcommit not_false
  unfold rwp OpenStudioOperator.prune
  dsimp only
  rw [← houtcome]
  cases (pruneOutcome liveAnalysisIds liveDatapointIds env w).result with
  | ok applied => exact ⟨rfl, hnoted _ _ _⟩
  | error e => exact ⟨rfl, hnoted _ _ _⟩

end Calls

end DryRun

end OpenStudioOperator
