import OpenStudioOperator.DryRunHandlers
import OpenStudioOperator.RetentionSafety

/-!
# A dry run changes nothing but the status

The SLA monitor and the retention pipeline read the flag in more places than
the other handlers, so they are walked through under one dry configuration.
The world itself is then kept in step with itself, together with the fact that
no mutation was issued.
-/

namespace OpenStudioOperator

open Foundation Prog

namespace DryRun

section Dry

variable {env : Env} {c : OperatorConfig} {R : World -> World -> Prop}

/-!
## SLA monitor
-/

theorem Lockstep.statusIsStarted (L : Lockstep env c c R) (id : String) :
    InStep R (statusIsStarted id) (statusIsStarted id) env := by
  unfold OpenStudioOperator.statusIsStarted
  apply InStep.bind (L.getAnalysisStatus id)
  intro payload
  cases payloadIsStarted payload with
  | ok started => exact InStep.pure _
  | error e => exact InStep.throw _

theorem Lockstep.firstSight (L : Lockstep env c c R) (softStops : Dict String SoftStopRecord)
    (startedIds : List String) (doc : AnalysisDoc) :
    InStep R (firstSight softStops startedIds doc) (firstSight softStops startedIds doc)
      env := by
  unfold OpenStudioOperator.firstSight
  apply InStep.bind_read
  cases doc.id with
  | none => exact InStep.pure _
  | some id =>
      apply InStep.ite
      · intro _
        exact InStep.pure _
      · intro _
        apply InStep.bind (L.statusIsStarted id)
        intro started
        apply InStep.ite
        · intro _
          exact InStep.pure _
        · intro _
          apply InStep.ite
          · intro _
            exact InStep.pure _
          · intro _
            apply InStep.bind (L.setMapEntry _ _ _ _)
            intro _
            exact InStep.pure _

theorem Lockstep.resqueMatchedWorkerPods (L : Lockstep env c c R) (id : String) :
    InStep R (resqueMatchedWorkerPods id) (resqueMatchedWorkerPods id) env := by
  unfold OpenStudioOperator.resqueMatchedWorkerPods
  apply InStep.bind (L.workersForAnalysis id)
  intro workerIds
  apply InStep.ite
  · intro _
    exact InStep.pure _
  · intro _
    apply InStep.bind L.listNamespacedPod
    intro podNames
    exact InStep.pure _

theorem deleteVictim_inStep (hdry : c.dryRun = true) (id : String) (count : EvictionCount)
    (victim : String × String) :
    InStep R (deleteVictim c id count victim) (deleteVictim c id count victim) env := by
  unfold OpenStudioOperator.deleteVictim
  rw [if_pos hdry]
  exact InStep.pure _

theorem Lockstep.markSoftStopEscalated (L : Lockstep env c c R) (id : String)
    (now : Instant) (outcome : EscalationOutcome) :
    InStep R (markSoftStopEscalated id now outcome) (markSoftStopEscalated id now outcome)
      env :=
  L.mutateStatus _ _ _ _

theorem Lockstep.evictVictims (L : Lockstep env c c R) (hdry : c.dryRun = true) (id : String)
    (record : SoftStopRecord) (victims : List (String × String)) :
    InStep R (evictVictims c id record victims) (evictVictims c id record victims) env := by
  unfold OpenStudioOperator.evictVictims
  apply InStep.bind_read
  apply InStep.bind (InStep.foldlM (deleteVictim_inStep hdry id) victims _)
  intro count
  cases passFailure count with
  | some e => exact InStep.throw _
  | none =>
      apply InStep.bind (L.announce _ _ _)
      intro _
      apply InStep.bind (L.markSoftStopEscalated _ _ _)
      intro _
      exact InStep.pure _

theorem Lockstep.escalateAnalysis (L : Lockstep env c c R) (hdry : c.dryRun = true)
    (id : String) (record : SoftStopRecord) :
    InStep R (escalateAnalysis c id record) (escalateAnalysis c id record) env := by
  unfold OpenStudioOperator.escalateAnalysis
  apply InStep.bind (L.resqueMatchedWorkerPods id)
  intro victims
  apply InStep.bind
  · exact L.note not_false
  · intro _
    apply InStep.tryCatch (L.evictVictims hdry id record victims)
    intro e
    apply InStep.bind
    · exact L.note not_false
    · intro _
      exact InStep.throw _

theorem Lockstep.softStop (L : Lockstep env c c R) (id : String) (record : SoftStopRecord) :
    InStep R (softStop c id record) (softStop c id record) env := by
  unfold OpenStudioOperator.softStop
  apply InStep.bind_read
  apply InStep.bind (L.act _)
  intro _
  apply InStep.bind (L.announce _ _ _)
  intro _
  exact L.setMapEntry _ _ _ _

theorem Lockstep.issueStop (L : Lockstep env c c R) (id : String) :
    InStep R (issueStop c id) (issueStop c id) env := by
  unfold OpenStudioOperator.issueStop
  apply InStep.bind_read
  apply InStep.bind (L.act _)
  intro _
  apply InStep.bind (L.announce _ _ _)
  intro _
  exact L.setMapEntry _ _ _ _

theorem Lockstep.retireStopRecord (L : Lockstep env c c R) (id : String) (stop : StopRecord)
    (stoppedAt : Instant) :
    InStep R (retireStopRecord id stop stoppedAt) (retireStopRecord id stop stoppedAt)
      env := by
  unfold OpenStudioOperator.retireStopRecord
  apply InStep.bind (L.setMapEntry _ _ _ _)
  intro _
  exact L.setMapEntry _ _ _ _

theorem Lockstep.awaitStop (L : Lockstep env c c R) (id : String) (stop : StopRecord) :
    InStep R (awaitStop id stop) (awaitStop id stop) env := by
  unfold OpenStudioOperator.awaitStop
  apply InStep.bind_read
  cases stop.stoppedAt with
  | some stoppedAt =>
      apply InStep.bind (L.retireStopRecord _ _ _)
      intro _
      exact InStep.pure _
  | none =>
      apply InStep.ite
      · intro _
        apply InStep.bind (L.setMapEntry _ _ _ _)
        intro _
        exact InStep.pure _
      · intro _
        exact InStep.pure _

theorem Lockstep.firstStop (L : Lockstep env c c R) (id : String) :
    InStep R (firstStop c id) (firstStop c id) env := by
  unfold OpenStudioOperator.firstStop
  apply InStep.bind (L.issueStop id)
  intro _
  apply InStep.bind (L.getter _ _)
  intro found
  cases found with
  | none => exact InStep.pure _
  | some stop =>
      dsimp only
      cases stop.stoppedAt with
      | some stoppedAt =>
          apply InStep.bind (L.retireStopRecord _ _ _)
          intro _
          exact InStep.pure _
      | none => exact InStep.pure _

theorem Lockstep.stopBlock (L : Lockstep env c c R) (id : String) :
    InStep R (stopBlock c id) (stopBlock c id) env := by
  unfold OpenStudioOperator.stopBlock
  apply InStep.bind (L.getter _ _)
  intro found
  cases found with
  | none => exact L.firstStop id
  | some stop => exact L.awaitStop id stop

theorem Lockstep.escalateIf (L : Lockstep env c c R) (hdry : c.dryRun = true) (id : String)
    (record : SoftStopRecord) (decision : StopDecision) (result : SlaTickResult) :
    InStep R (escalateIf c id record decision result) (escalateIf c id record decision result)
      env := by
  unfold OpenStudioOperator.escalateIf
  apply InStep.ite
  · intro _
    apply InStep.bind (L.escalateAnalysis hdry id record)
    intro _
    exact InStep.pure _
  · intro _
    exact InStep.pure _

theorem Lockstep.graceStep (L : Lockstep env c c R) (hdry : c.dryRun = true)
    (startedIds : List String) (id : String) (record : SoftStopRecord)
    (result : SlaTickResult) :
    InStep R (graceStep c startedIds id record result) (graceStep c startedIds id record result)
      env := by
  unfold OpenStudioOperator.graceStep
  apply InStep.bind_read
  apply InStep.ite
  · intro _
    apply InStep.bind (L.setMapEntry _ _ _ _)
    intro _
    exact InStep.pure _
  · intro _
    apply InStep.ite
    · intro _
      exact InStep.pure _
    · intro _
      apply InStep.ite
      · intro _
        apply InStep.bind (L.softStop id record)
        intro _
        exact InStep.pure _
      · intro _
        apply InStep.ite
        · intro _
          exact InStep.pure _
        · intro _
          apply InStep.ite
          · intro _
            apply InStep.bind (L.stopBlock id)
            intro decision
            exact L.escalateIf hdry id record decision result
          · intro _
            exact L.escalateIf hdry id record _ result

theorem Lockstep.runSlaTick (L : Lockstep env c c R) (hdry : c.dryRun = true) :
    InStep R (runSlaTick c) (runSlaTick c) env := by
  unfold OpenStudioOperator.runSlaTick graceAndEscalate
  apply InStep.ite
  · intro _
    exact InStep.pure _
  · intro _
    apply InStep.bind (L.getter _ _)
    intro softStops
    apply InStep.bind L.listAnalyses
    intro analyses
    apply InStep.bind (InStep.foldlM (L.firstSight softStops) analyses _)
    intro startedIds
    apply InStep.bind (L.getter _ _)
    intro softStops
    apply InStep.foldlM
    intro result entry
    exact L.graceStep hdry startedIds entry.1 entry.2 result

/-!
## Retention
-/

theorem Lockstep.readJob (L : Lockstep env c c R) (name : String) :
    InStep R (readJob name) (readJob name) env := by
  unfold OpenStudioOperator.readJob
  apply InStep.tryCatch
  · apply InStep.bind (L.readNamespacedJob name)
    intro job
    exact InStep.pure _
  · intro e
    apply InStep.ite
    · intro _
      exact InStep.pure _
    · intro _
      exact InStep.throw _

theorem Lockstep.datapointIdsFor (L : Lockstep env c c R)
    (payload : Option (List DatapointDoc)) (id : String) :
    InStep R (datapointIdsFor payload id) (datapointIdsFor payload id) env := by
  have hpayload : InStep R (datapointsPayload payload) (datapointsPayload payload) env := by
    cases payload with
    | some docs => exact InStep.pure _
    | none => exact L.listDatapoints
  unfold OpenStudioOperator.datapointIdsFor
  apply InStep.bind hpayload
  intro docs
  exact InStep.pure _

theorem Lockstep.failArchival (L : Lockstep env c c R) (id detail : String) :
    InStep R (failArchival id detail) (failArchival id detail) env := by
  unfold OpenStudioOperator.failArchival
  apply InStep.bind (L.announce _ _ _)
  intro _
  exact L.setMapEntry _ _ _ _

theorem Lockstep.deleteVerified (L : Lockstep env c c R) (hdry : c.dryRun = true)
    (id : String) (record : ArchivedAnalysisRecord) (justVerified : Bool) :
    InStep R (deleteVerified c id record justVerified) (deleteVerified c id record justVerified)
      env := by
  unfold OpenStudioOperator.deleteVerified
  rw [hdry]
  apply InStep.ite
  · intro _
    exact InStep.pure _
  · intro _
    apply InStep.bind
    · apply onlyIf_inStep
      intro _
      exact L.announce _ _ _
    · intro _
      exact InStep.pure _

theorem Lockstep.recordVerified (L : Lockstep env c c R) (hdry : c.dryRun = true)
    (id : String) (verified : ArchivedAnalysisRecord) (message : String)
    (result : RetentionTickResult) :
    InStep R (recordVerified c id verified message result)
      (recordVerified c id verified message result) env := by
  unfold OpenStudioOperator.recordVerified
  apply InStep.bind (L.setMapEntry _ _ _ _)
  intro _
  apply InStep.bind (L.announce _ _ _)
  intro _
  apply InStep.bind (L.deleteVerified hdry id verified true)
  intro deleted
  exact InStep.pure _

theorem Lockstep.reconcileTracked (L : Lockstep env c c R) (hdry : c.dryRun = true)
    (completed : Dict String AnalysisDoc) (id : String) (record : ArchivedAnalysisRecord)
    (result : RetentionTickResult) :
    InStep R (reconcileTracked c completed id record result)
      (reconcileTracked c completed id record result) env := by
  unfold OpenStudioOperator.reconcileTracked
  apply InStep.bind_read
  apply InStep.ite
  · intro _
    apply InStep.bind (L.setMapEntry _ _ _ _)
    intro _
    exact InStep.pure _
  · intro _
    apply InStep.ite
    · intro _
      apply InStep.bind (L.deleteVerified hdry id record false)
      intro deleted
      exact InStep.pure _
    · intro _
      cases record.jobName with
      | none =>
          apply InStep.ite
          · intro _
            exact InStep.pure _
          · intro _
            apply InStep.bind (L.setMapEntry _ _ _ _)
            intro _
            exact InStep.pure _
      | some jobName =>
          apply InStep.bind (L.readJob jobName)
          intro found
          cases found with
          | none =>
              apply InStep.bind (L.failArchival _ _)
              intro _
              exact InStep.pure _
          | some job =>
              dsimp only
              cases jobTerminalCondition job with
              | none => exact InStep.pure _
              | some condition =>
                  cases condition with
                  | failed =>
                      apply InStep.bind (L.failArchival _ _)
                      intro _
                      exact InStep.pure _
                  | complete => exact L.recordVerified hdry _ _ _ _

theorem Lockstep.spawnJob (L : Lockstep env c c R) (text : TextOps) (id : String)
    (payload : Option (List DatapointDoc)) (result : RetentionTickResult) :
    InStep R (spawnJob text c id payload result) (spawnJob text c id payload result) env := by
  unfold OpenStudioOperator.spawnJob
  apply InStep.bind_read
  apply InStep.bind (L.datapointIdsFor payload id)
  intro found
  dsimp only
  cases buildArchivalJob text id c.storagePolicy env.kubeNamespace found.1 with
  | error message => exact InStep.throw _
  | ok manifest =>
      apply InStep.bind (L.act _)
      intro _
      apply InStep.bind (L.setMapEntry _ _ _ _)
      intro _
      apply InStep.bind (L.announce _ _ _)
      intro _
      exact InStep.pure _

theorem Lockstep.spawnArchival (L : Lockstep env c c R) (hdry : c.dryRun = true)
    (text : TextOps) (id : String) (payload : Option (List DatapointDoc))
    (result : RetentionTickResult) :
    InStep R (spawnArchival text c id payload result) (spawnArchival text c id payload result)
      env := by
  unfold OpenStudioOperator.spawnArchival
  apply InStep.bind_read
  apply InStep.bind (L.readJob _)
  intro found
  cases found with
  | none => exact L.spawnJob text id payload result
  | some existing =>
      dsimp only
      cases jobTerminalCondition existing with
      | none =>
          apply InStep.bind (L.setMapEntry _ _ _ _)
          intro _
          exact InStep.pure _
      | some condition =>
          cases condition with
          | complete =>
              apply InStep.bind (L.recordVerified hdry _ _ _ _)
              intro result
              exact InStep.pure _
          | failed =>
              apply InStep.bind (L.act _)
              intro _
              exact L.spawnJob text id payload result

theorem Lockstep.runRetentionTick (L : Lockstep env c c R) (hdry : c.dryRun = true)
    (text : TextOps) :
    InStep R (runRetentionTick text c) (runRetentionTick text c) env := by
  unfold OpenStudioOperator.runRetentionTick
  apply InStep.bind_read
  apply InStep.ite
  · intro _
    exact InStep.pure _
  · intro _
    apply InStep.ite
    · intro _
      exact InStep.pure _
    · intro _
      apply InStep.bind L.listAnalyses
      intro analyses
      apply InStep.bind (L.getter _ _)
      intro tracked
      apply InStep.bind
      · apply InStep.foldlM
        intro result entry
        exact L.reconcileTracked hdry _ entry.1 entry.2 result
      · intro result
        apply InStep.bind
        · apply InStep.foldlM
          intro state id
          exact L.spawnArchival hdry text id state.2 state.1
        · intro spawned
          exact InStep.pure _

end Dry

/-!
## No mutation
-/

/-- Since `w0` no mutation was issued. -/
def Harmless (w0 w : World) : Prop := Idle IsMutation w0 w

/-- A world, in step with itself, from which nothing was changed so far. -/
def Harmlessly (w0 w w' : World) : Prop := w = w' ∧ Harmless w0 w

theorem lockstep_harmlessly {c : OperatorConfig} (hdry : c.dryRun = true) (env : Env)
    (w0 : World) : Lockstep env c c (Harmlessly w0) where
  others := rfl
  status := by
    intro w w' h
    rw [h.1]
  memory := by
    intro w w' h
    rw [h.1]
  protectedKeys := by
    intro w w' h
    rw [h.1]
  answers := by
    intro w w' h
    rw [h.1]
    exact .refl env w'.trace
  log := by
    intro w w' event h hevent
    constructor
    · rw [h.1]
    · exact Idle.log h.2 env.now hevent
  commit := by
    intro w w' op r s h
    constructor
    · rw [h.1]
    · exact Idle.commit h.2 env.now s not_false
  remember := by
    intro w w' memory h
    constructor
    · rw [h.1]
    · exact h.2
  protect := by
    intro w w' keys h
    constructor
    · rw [h.1]
    · exact h.2
  emit := by
    intro type reason text w w' h
    rw [← h.1]
    unfold rwp OpenStudioOperator.emit OpenStudioOperator.call
    dsimp only
    cases env.emit w.trace type reason (text c) with
    | ok a => exact ⟨rfl, rfl, Idle.log h.2 env.now not_false⟩
    | error e => exact ⟨rfl, rfl, Idle.log h.2 env.now not_false⟩
  act := by
    intro m w w' h
    rw [← h.1, hdry]
    exact ⟨rfl, rfl, Idle.log h.2 env.now not_false⟩

/-- A program in step with itself leaves a world from which nothing changed. -/
theorem harmless_of_inStep {alpha : Type} {m : OpM alpha} {env : Env} {w0 w : World}
    (hm : InStep (Harmlessly w0) m m env) (h : Harmless w0 w) :
    Harmless w0 (Prog.exec m env w) := by
  have hrun := hm w w ⟨rfl, h⟩
  unfold rwp at hrun
  unfold Prog.exec
  cases hresult : m env w with
  | ok a w' =>
      rw [hresult] at hrun
      exact hrun.2.2
  | error e w' =>
      rw [hresult] at hrun
      exact hrun.2.2

theorem harmless_runTick {alpha : Type} {body : OperatorConfig -> OpM alpha} {t : Tick}
    {w : World} (hbody : InStep (Harmlessly w) (body t.config) (body t.config) t.env)
    (hdry : t.config.dryRun = true) : Harmless w (runTick body t w) := by
  have L := lockstep_harmlessly hdry t.env w
  have hopened : Harmless w { w with protectedKeys := t.registry } := Idle.refl _ w
  apply harmless_of_inStep _ hopened
  unfold inTick
  apply InStep.bind
  · exact L.note not_false
  · intro _
    exact hbody

/-- Whatever the status, the history and every answer, a tick of a handler under
`spec.dryRun` issues no mutation. -/
theorem dry_run_harmless (text : TextOps) (t : Tick) (w : World)
    (hdry : t.config.dryRun = true) :
    Harmless w (runTick runSlaTick t w) ∧ Harmless w (runTick runWatchdogTick t w) ∧
      Harmless w (runTick runRecyclerTick t w) ∧ Harmless w (runTick runStallTick t w) ∧
      Harmless w (runTick (runRetentionTick text) t w) := by
  have L := lockstep_harmlessly hdry t.env w
  constructor
  · exact harmless_runTick (L.runSlaTick hdry) hdry
  · constructor
    · exact harmless_runTick L.runWatchdogTick hdry
    · constructor
      · exact harmless_runTick L.runRecyclerTick hdry
      · constructor
        · exact harmless_runTick L.runStallTick hdry
        · exact harmless_runTick (L.runRetentionTick hdry text) hdry

/-- A live tick soft-stopped the analysis and its archival Job failed. -/
def leftByLiveTicks : World where
  status :=
    { softStops := Dict.empty.set "a" { issuedAt := minutes 0, outcome := .issued }
      archivedAnalyses := Dict.empty.set "a"
        { backend := "s3", bucket := some "bucket", jobName := some "job" } }

def dryTick : Tick where
  env :=
    { Env.quiet (minutes 200) with
      listAnalyses := fun _ => .ok [{ id := some "a" }]
      getAnalysisStatus := fun _ _ => .ok (some { analysis := some ⟨some "started"⟩ })
      readJob := fun _ _ =>
        .ok { createdAt := minutes 0, conditions := [⟨some "Failed", some "True"⟩] } }
  config := { sampleConfig true with dryRun := true }

theorem dry_run_harmless_leftover :
    Harmless leftByLiveTicks (runTick runSlaTick dryTick leftByLiveTicks) ∧
      Harmless leftByLiveTicks (runTick runWatchdogTick dryTick leftByLiveTicks) ∧
      Harmless leftByLiveTicks (runTick runRecyclerTick dryTick leftByLiveTicks) ∧
      Harmless leftByLiveTicks (runTick runStallTick dryTick leftByLiveTicks) ∧
      Harmless leftByLiveTicks
        (runTick (runRetentionTick sampleText) dryTick leftByLiveTicks) :=
  dry_run_harmless sampleText dryTick leftByLiveTicks rfl

end DryRun

end OpenStudioOperator
