import OpenStudioOperator.AnalysisSlaSteps

/-!
# Every tick of the SLA monitor is a sequence of steps

Each part of the tick is shown to take steps of its subject, whether it
returns or raises, and to keep what the parts after it rely on.
-/

namespace OpenStudioOperator

open Foundation

/-!
## Carrying the guards along
-/

/-- The anchor of `id` is as it was, and nothing was tried for it. -/
structure KeepsAnchor (t : Tick) (id : String) (w w' : World) : Prop where
  anchor : t.env.Leaves (softStopsField.entry id) ->
    softStopsField.entry id w'.status = softStopsField.entry id w.status
  idle : Idle (Event.Tries id) w w'

section Guards

variable {t : Tick} {w0 w w' w'' : World} {id : String} {record : SoftStopRecord}

theorem KeepsAnchor.refl (t : Tick) (id : String) (w : World) : KeepsAnchor t id w w where
  anchor := fun _ => rfl
  idle := Idle.refl _ w

theorem KeepsAnchor.trans (h : KeepsAnchor t id w w') (h' : KeepsAnchor t id w' w'') :
    KeepsAnchor t id w w'' where
  anchor := by
    intro hleaves
    rw [h'.anchor hleaves, h.anchor hleaves]
  idle := h.idle.trans h'.idle

theorem Holds.transfer (h : Holds t w0 w id record)
    (hkeeps : t.env.Leaves (softStopsField.entry id) ->
      softStopsField.entry id w'.status = softStopsField.entry id w.status) :
    Holds t w0 w' id record where
  active := h.active
  atStart := h.atStart
  now := by
    intro hleaves
    rw [hkeeps hleaves]
    exact h.now hleaves

theorem Watches.transfer (h : Watches t w0 w id record)
    (hkeeps : t.env.Leaves (softStopsField.entry id) ->
      softStopsField.entry id w'.status = softStopsField.entry id w.status) :
    Watches t w0 w' id record :=
  { h.toHolds.transfer hkeeps with
    reported := h.reported
    unescalated := h.unescalated }

theorem Escalates.transfer (h : Escalates t w0 w id record)
    (hkeeps : t.env.Leaves (softStopsField.entry id) ->
      softStopsField.entry id w'.status = softStopsField.entry id w.status) :
    Escalates t w0 w' id record :=
  { h.toWatches.transfer hkeeps with
    pastGrace := h.pastGrace
    notDue := h.notDue }

theorem AwaitsStop.transfer {stop : StopRecord}
    (h : AwaitsStop t w0 w id record stop)
    (hkeeps : t.env.Leaves (softStopsField.entry id) ->
      softStopsField.entry id w'.status = softStopsField.entry id w.status) :
    AwaitsStop t w0 w' id record stop :=
  { h.toWatches.transfer hkeeps with
    issued := h.issued
    pastGrace := h.pastGrace
    stopAtStart := h.stopAtStart }

theorem keepsAnchor_log (time : Instant) {event : Event} (hevent : ¬ event.Tries id) :
    KeepsAnchor t id w (w.log time event) where
  anchor := fun _ => rfl
  idle := (Idle.refl _ w).log time hevent

theorem KeepsAnchor.capped (h : KeepsAnchor t id w w') (field : StatusField)
    (message : String) (r : Except Exc Unit) :
    KeepsAnchor t id w (w'.log t.env.now (.statusMapCapped field message r)) :=
  h.trans (keepsAnchor_log t.env.now not_false)

theorem keepsAnchor_look {op : StoreOp} {r : Except Exc Unit} {s : Status}
    (h : t.env.Keeps w.status s) : KeepsAnchor t id w (w.commit t.env.now op r s) where
  anchor := fun hleaves => h _ _ hleaves
  idle := (Idle.refl _ w).commit _ _ not_false

theorem keepsAnchor_of_stopsWrite {encoded : Option StopRecord}
    {r : Except Exc Unit} {op : StoreOp} {s : Status}
    (h : MapWrite t.env stoppedAnalysesField id encoded r w.status s) :
    KeepsAnchor t id w (w.commit t.env.now op r s) where
  anchor := fun hleaves => h.frame.entry (fun _ _ => rfl) hleaves
  idle := (Idle.refl _ w).commit _ _ not_false

theorem SlaSteps.single (h : SlaStep t w0 id w w') : SlaSteps t w0 id w w' :=
  Relation.ReflTransGen.single h

theorem SlaSteps.snoc (h : SlaSteps t w0 id w w') (h' : SlaStep t w0 id w' w'') :
    SlaSteps t w0 id w w'' :=
  Relation.ReflTransGen.tail h h'

theorem SlaSteps.append (h : SlaSteps t w0 id w w') (h' : SlaSteps t w0 id w' w'') :
    SlaSteps t w0 id w w'' :=
  Relation.ReflTransGen.trans h h'

/-- The report of a cap eviction is one more step. -/
theorem SlaSteps.capped (h : SlaSteps t w0 id w w') (field : StatusField)
    (message : String) (r : Except Exc Unit) :
    SlaSteps t w0 id w (w'.log t.env.now (.statusMapCapped field message r)) :=
  h.snoc (.query trivial)

end Guards

/-!
## Soft stop, stop and their records
-/

section Parts

variable {t : Tick} {w0 w : World} {id : String} {record : SoftStopRecord}

theorem wp_softStop (h : Watches t w0 w id record)
    (hwatching : record.outcome = .watching)
    (hover : maxRuntimeOf t < t.env.now - record.issuedAt)
    (hunvisited : Unvisited id w) :
    Prog.wp (softStop t.config id record) t.env w
      (fun _ w' => SlaSteps t w0 id w w') (fun _ w' => SlaSteps t w0 id w w') := by
  unfold softStop
  rw [Prog.wp_bind, Prog.wp_read]
  apply wp_acts fun _ => setOutcome_mapWrite
  · intro w' hacts
    exact SlaSteps.single (.softStop h hwatching hover hunvisited hacts)
  · intro s hwrite
    exact SlaSteps.single (.softStop h hwatching hover hunvisited (.recorded _ _ s hwrite))
  · intro w' text hsteps
    exact hsteps.capped _ _ _
  · intro w' text e hsteps
    exact hsteps.capped _ _ _

theorem wp_issueStop (h : Watches t w0 w id record)
    (hissued : record.outcome = .issued)
    (hgrace : graceOf t < t.env.now - record.issuedAt) (hunvisited : Unvisited id w)
    (hnone : stoppedAnalysesField.entry id w.status = none) :
    Prog.wp (issueStop t.config id) t.env w
      (fun _ w' => SlaSteps t w0 id w w' ∧ KeepsAnchor t id w w' ∧
        (t.env.Leaves (stoppedAnalysesField.entry id) ->
          stoppedAnalysesField.entry id w'.status =
            some (stopIssuedRecord t.config t.env.now)))
      (fun _ w' => SlaSteps t w0 id w w') := by
  unfold issueStop
  rw [Prog.wp_bind, Prog.wp_read]
  apply wp_acts fun _ => setOutcome_mapWrite
  · intro w' hacts
    exact SlaSteps.single (.stop h hissued hgrace hunvisited hnone hacts)
  · intro s hwrite
    have hacts : Acts t (.stopAnalysis id) .warning analysisStoppedEvent
        (.setStopRecord id (stopIssuedRecord t.config t.env.now))
        (MapWrite t.env stoppedAnalysesField id
          (some (stopIssuedRecord t.config t.env.now))) w _ :=
      .recorded (stopMessage t.config id) (.ok ()) s hwrite
    refine ⟨SlaSteps.single (.stop h hissued hgrace hunvisited hnone hacts), ?_, ?_⟩
    · constructor
      · exact fun hleaves => hwrite.frame.entry (fun _ _ => rfl) hleaves
      · exact hacts.idle (fun _ => not_false) not_false (fun _ _ => not_false)
          (fun _ => not_false)
    intro hleaves
    rcases hwrite.self hleaves with hnew | ⟨hraised, _⟩
    · rw [hnone] at hnew
      exact hnew
    · exact absurd rfl hraised
  · rintro w' text ⟨hsteps, hkeeps, hstop⟩
    exact ⟨hsteps.capped _ _ _, hkeeps.capped _ _ _, hstop⟩
  · rintro w' text e ⟨hsteps, _⟩
    exact hsteps.capped _ _ _

/-- One write of the stop record of an issued anchor. -/
theorem wp_setMapEntry_stop {op : StoreOp} {encoded : Option StopRecord}
    (hstep : forall r s, MapWrite t.env stoppedAnalysesField id encoded r w.status s ->
      SlaStep t w0 id w (w.commit t.env.now op r s)) :
    Prog.wp (setMapEntry op stoppedAnalysesField id encoded) t.env w
      (fun _ w' => SlaSteps t w0 id w w' ∧ KeepsAnchor t id w w')
      (fun _ w' => SlaSteps t w0 id w w') := by
  apply wp_setMapEntry
  · intro s hwrite
    exact ⟨SlaSteps.single (hstep _ s hwrite), keepsAnchor_of_stopsWrite hwrite⟩
  · intro s e hwrite
    exact SlaSteps.single (hstep _ s hwrite)
  · rintro w' text ⟨hsteps, hkeeps⟩
    exact ⟨hsteps.capped _ _ _, hkeeps.capped _ _ _⟩
  · rintro w' text e ⟨hsteps, _⟩
    exact hsteps.capped _ _ _

theorem wp_retireStopRecord {stop : StopRecord} {stoppedAt : Instant}
    (h : AwaitsStop t w0 w id record stop) (hstopped : stop.stoppedAt = some stoppedAt) :
    Prog.wp (retireStopRecord id stop stoppedAt) t.env w
      (fun _ w' => SlaSteps t w0 id w w' ∧ KeepsAnchor t id w w')
      (fun _ w' => SlaSteps t w0 id w w') := by
  unfold retireStopRecord
  rw [Prog.wp_bind]
  apply Prog.wp_mono (wp_setMapEntry_stop fun r s hwrite => .stopSettled h hwrite)
  · rintro _ w1 ⟨hsteps, hkeeps⟩
    have h1 := h.transfer hkeeps.anchor
    apply Prog.wp_mono (wp_setMapEntry_stop fun r s hwrite =>
      .stopPruned h1 (by rw [hstopped]; rfl) hwrite)
    · rintro _ w2 ⟨hsteps', hkeeps'⟩
      exact ⟨hsteps.append hsteps', hkeeps.trans hkeeps'⟩
    · intro _ w2 hsteps'
      exact hsteps.append hsteps'
  · intro _ w1 hsteps
    exact hsteps

/-- Reading the stop record of `id`. -/
theorem wp_getStopRecord {Q : Option StopRecord -> World -> Prop}
    {E : Exc -> World -> Prop}
    (hok : forall w', SlaSteps t w0 id w w' -> KeepsAnchor t id w w' ->
      Idle (Event.Visits id) w w' ->
      (t.env.Leaves (stoppedAnalysesField.entry id) ->
        stoppedAnalysesField.entry id w'.status =
          stoppedAnalysesField.entry id w.status) ->
      Q (stoppedAnalysesField.entry id w'.status) w')
    (hraise : forall e w', SlaSteps t w0 id w w' -> E e w') :
    Prog.wp (getStopRecord id) t.env w Q E := by
  unfold getStopRecord
  rw [Prog.wp_bind]
  apply wp_readStatus
  · intro s hkeeps
    apply hok (w.commit t.env.now (.getStopRecord id) (.ok ()) s)
    · exact SlaSteps.single (.look trivial hkeeps)
    · exact keepsAnchor_look hkeeps
    · exact (Idle.refl _ w).commit _ _ not_false
    · intro hleaves
      exact hkeeps _ _ hleaves
  · intro s e hkeeps
    exact hraise e _ (SlaSteps.single (.look trivial hkeeps))

theorem wp_awaitStop {stop : StopRecord} (h : AwaitsStop t w0 w id record stop) :
    Prog.wp (awaitStop id stop) t.env w
      (fun _ w' => SlaSteps t w0 id w w' ∧ KeepsAnchor t id w w')
      (fun _ w' => SlaSteps t w0 id w w') := by
  unfold awaitStop
  rw [Prog.wp_bind, Prog.wp_read]
  cases hstopped : stop.stoppedAt with
  | some stoppedAt =>
      simp only [Prog.wp_bind]
      exact Prog.wp_mono (wp_retireStopRecord h hstopped) (fun _ _ h' => h')
        (fun _ _ h' => h')
  | none =>
      apply Prog.wp_ite
      · intro _
        rw [Prog.wp_bind]
        exact Prog.wp_mono (wp_setMapEntry_stop fun r s hwrite => .stopSettled h hwrite)
          (fun _ _ h' => h') (fun _ _ h' => h')
      · intro _
        exact ⟨Relation.ReflTransGen.refl, KeepsAnchor.refl t id w⟩

theorem wp_firstStop (h : Watches t w0 w id record)
    (hissued : record.outcome = .issued)
    (hgrace : graceOf t < t.env.now - record.issuedAt) (hunvisited : Unvisited id w)
    (hnone : stoppedAnalysesField.entry id w.status = none) :
    Prog.wp (firstStop t.config id) t.env w
      (fun _ w' => SlaSteps t w0 id w w' ∧ KeepsAnchor t id w w')
      (fun _ w' => SlaSteps t w0 id w w') := by
  unfold firstStop
  rw [Prog.wp_bind]
  apply Prog.wp_mono (wp_issueStop h hissued hgrace hunvisited hnone)
  · rintro _ w1 ⟨hsteps, hkeeps, hstop⟩
    rw [Prog.wp_bind]
    apply wp_getStopRecord
    · intro w2 hsteps' hkeeps' _ hstop'
      have hdone : SlaSteps t w0 id w w2 ∧ KeepsAnchor t id w w2 :=
        ⟨hsteps.append hsteps', hkeeps.trans hkeeps'⟩
      cases hread : stoppedAnalysesField.entry id w2.status with
      | none => exact hdone
      | some stop =>
          cases hstopped : stop.stoppedAt with
          | none =>
              simp only [hstopped]
              exact hdone
          | some stoppedAt =>
              -- only another writer can have put a stop time on the new record
              have hawaits : AwaitsStop t w0 w2 id record stop :=
                { h.transfer hdone.2.anchor with
                  issued := hissued
                  pastGrace := hgrace
                  stopAtStart := by
                    intro hleaves
                    rw [hstop' hleaves, hstop hleaves, Option.some.injEq] at hread
                    rw [← hread] at hstopped
                    exact absurd hstopped (by simp [stopIssuedRecord]) }
              simp only [hstopped, Prog.wp_bind]
              apply Prog.wp_mono (wp_retireStopRecord hawaits hstopped)
              · rintro _ w3 ⟨hsteps3, hkeeps3⟩
                exact ⟨hdone.1.append hsteps3, hdone.2.trans hkeeps3⟩
              · intro _ w3 hsteps3
                exact hdone.1.append hsteps3
    · intro e w2 hsteps'
      exact hsteps.append hsteps'
  · intro _ w1 hsteps
    exact hsteps

theorem wp_stopBlock (h : Watches t w0 w id record)
    (hissued : record.outcome = .issued)
    (hgrace : graceOf t < t.env.now - record.issuedAt)
    (hunvisited : Unvisited id w)
    (hstop : t.env.Leaves (stoppedAnalysesField.entry id) ->
      stoppedAnalysesField.entry id w.status = stoppedAnalysesField.entry id w0.status ∨
        stoppedAnalysesField.entry id w.status = none) :
    Prog.wp (stopBlock t.config id) t.env w
      (fun _ w' => SlaSteps t w0 id w w' ∧ KeepsAnchor t id w w')
      (fun _ w' => SlaSteps t w0 id w w') := by
  unfold stopBlock
  rw [Prog.wp_bind]
  apply wp_getStopRecord
  · intro w1 hsteps hkeeps hidle hsame
    have h1 := h.transfer hkeeps.anchor
    have hjoin : forall w', SlaSteps t w0 id w1 w' ∧ KeepsAnchor t id w1 w' ->
        SlaSteps t w0 id w w' ∧ KeepsAnchor t id w w' :=
      fun w' h' => ⟨hsteps.append h'.1, hkeeps.trans h'.2⟩
    cases hread : stoppedAnalysesField.entry id w1.status with
    | none =>
        exact Prog.wp_mono (wp_firstStop h1 hissued hgrace (hunvisited.idle hidle) hread)
          (fun _ w' h' => hjoin w' h') (fun _ w' h' => hsteps.append h')
    | some stop =>
        have hawaits : AwaitsStop t w0 w1 id record stop :=
          { h1 with
            issued := hissued
            pastGrace := hgrace
            stopAtStart := by
              intro hleaves
              rw [hsame hleaves] at hread
              rcases hstop hleaves with hstart | hnone
              · rw [← hstart]
                exact hread
              · rw [hnone] at hread
                exact absurd hread (by simp) }
        exact Prog.wp_mono (wp_awaitStop hawaits)
          (fun _ w' h' => hjoin w' h') (fun _ w' h' => hsteps.append h')
  · intro e w1 hsteps
    exact hsteps

end Parts

/-!
## Escalation
-/

section Escalation

variable {t : Tick} {w0 w : World} {id : String} {record : SoftStopRecord}

theorem wp_resqueMatchedWorkerPods (h : Escalates t w0 w id record) :
    Prog.wp (resqueMatchedWorkerPods id) t.env w
      (fun _ w' => SlaSteps t w0 id w w' ∧ KeepsAnchor t id w w')
      (fun _ w' => SlaSteps t w0 id w w') := by
  unfold resqueMatchedWorkerPods
  rw [Prog.wp_bind]
  apply wp_call
  · intro workerIds _
    have hworkers : SlaStep t w0 id w
        (w.log t.env.now (.workersForAnalysis id (.ok workerIds))) :=
      .resolve h rfl
    have hkeeps : KeepsAnchor t id w
        (w.log t.env.now (.workersForAnalysis id (.ok workerIds))) :=
      keepsAnchor_log t.env.now not_false
    apply Prog.wp_ite
    · intro _
      exact ⟨SlaSteps.single hworkers, hkeeps⟩
    · intro _
      have h1 := h.transfer hkeeps.anchor
      rw [Prog.wp_bind]
      apply wp_call
      · intro podNames _
        exact ⟨(SlaSteps.single hworkers).snoc (.resolve h1 trivial),
          hkeeps.trans (keepsAnchor_log t.env.now not_false)⟩
      · intro e _
        exact (SlaSteps.single hworkers).snoc (.resolve h1 trivial)
  · intro e _
    exact SlaSteps.single (.resolve h rfl)

/-- The worlds the delete loop goes through. -/
def AfterDeletes (t : Tick) (id : String) (w w' : World) : Prop :=
  exists deletes, DeletesPodsOf id deletes ∧
    w' = (w.log t.env.now (.escalationPass id)).logAll t.env.now deletes

theorem AfterDeletes.log {w' : World} (h : AfterDeletes t id w w') (podName : String)
    (grace : Option Nat) (r : Except Exc Unit) :
    AfterDeletes t id w (w'.log t.env.now (.mutate (.deletePod id podName grace) r)) := by
  rcases h with ⟨deletes, hdeletes, hw'⟩
  refine ⟨deletes ++ [.mutate (.deletePod id podName grace) r], ?_, ?_⟩
  · intro event hmem
    rcases List.mem_append.mp hmem with hold | hnew
    · exact hdeletes event hold
    · exact ⟨podName, grace, r, List.mem_singleton.mp hnew⟩
  · rw [hw', World.logAll_log]

theorem AfterDeletes.raised {w' : World} (h : AfterDeletes t id w w') :
    Pass t id w (w'.log t.env.now (.escalationRaised id)) := by
  rcases h with ⟨deletes, hdeletes, hw'⟩
  rw [hw']
  exact .raised deletes hdeletes

theorem wp_deleteVictim {w' : World} (h : AfterDeletes t id w w')
    (count : EvictionCount) (victim : String × String) :
    Prog.wp (deleteVictim t.config id count victim) t.env w'
      (fun _ w'' => AfterDeletes t id w w'')
      (fun _ w'' => Pass t id w (w''.log t.env.now (.escalationRaised id))) := by
  unfold deleteVictim
  apply Prog.wp_ite
  · intro _
    exact h
  · intro _
    rw [Prog.wp_tryCatch, Prog.wp_bind]
    apply wp_call
    · intro _ _
      exact h.log _ _ _
    · intro e _
      have hlog := h.log victim.1 (if t.config.analysisPolicy.forceDeleteOnEscalation
        then some 0 else none) (.error e)
      cases e with
      | apiException status => exact hlog
      | _ => exact hlog.raised

theorem wp_evictVictims (w : World) (victims : List (String × String)) :
    Prog.wp (evictVictims t.config id record victims) t.env
      (w.log t.env.now (.escalationPass id))
      (fun _ w' => Pass t id w w')
      (fun _ w' => Pass t id w (w'.log t.env.now (.escalationRaised id))) := by
  unfold evictVictims
  simp only [Prog.wp_bind, Prog.wp_read]
  apply Prog.wp_foldlM (fun _ _ w' => AfterDeletes t id w w')
  · intro victim _ count w' hafter
    exact wp_deleteVictim hafter count victim
  · intro count w' hafter
    cases passFailure count with
    | some e => exact hafter.raised
    | none =>
        rcases hafter with ⟨deletes, hdeletes, hw'⟩
        have hstatus : w'.status = w.status := by
          rw [hw', World.logAll_status]
          rfl
        simp only [Prog.wp_bind]
        apply wp_call
        · intro _ _
          apply wp_markSoftStopEscalated
          · intro s hmark
            simp only [World.log_status, hstatus] at hmark
            rw [hw']
            exact .marked deletes _ _ s hdeletes hmark
          · intro s e hmark
            simp only [World.log_status, hstatus] at hmark
            rw [hw']
            exact .unmarked deletes _ e _ s hdeletes hmark
        · intro e _
          rw [hw']
          exact .unannounced deletes _ e hdeletes
  · exact ⟨[], fun event hmem => absurd hmem List.not_mem_nil, rfl⟩

theorem wp_escalateAnalysis (h : Escalates t w0 w id record)
    (huntried : Untried id w) :
    Prog.wp (escalateAnalysis t.config id record) t.env w
      (fun _ w' => SlaSteps t w0 id w w') (fun _ w' => SlaSteps t w0 id w w') := by
  unfold escalateAnalysis
  rw [Prog.wp_bind]
  apply Prog.wp_mono (wp_resqueMatchedWorkerPods h)
  · rintro victims w1 ⟨hsteps, hkeeps⟩
    have h1 := h.transfer hkeeps.anchor
    rw [Prog.wp_bind, wp_note, Prog.wp_tryCatch]
    apply Prog.wp_mono (wp_evictVictims w1 victims)
    · intro _ w2 hpass
      exact hsteps.snoc (.pass h1 (huntried.idle hkeeps.idle) hpass)
    · intro _ w2 hpass
      exact hsteps.snoc (.pass h1 (huntried.idle hkeeps.idle) hpass)
  · intro _ w1 hsteps
    exact hsteps

theorem wp_escalateIf (h : Escalates t w0 w id record) (huntried : Untried id w)
    (decision : StopDecision) (result : SlaTickResult) :
    Prog.wp (escalateIf t.config id record decision result) t.env w
      (fun _ w' => SlaSteps t w0 id w w') (fun _ w' => SlaSteps t w0 id w w') := by
  unfold escalateIf
  apply Prog.wp_ite
  · intro _
    rw [Prog.wp_bind]
    exact Prog.wp_mono (wp_escalateAnalysis h huntried) (fun _ _ h' => h') (fun _ _ h' => h')
  · intro _
    exact Relation.ReflTransGen.refl

end Escalation

/-!
## The walk over the anchors
-/

/-- What the walk knows of an anchor it still has to visit. -/
structure Pending (t : Tick) (w0 w : World) (startedIds : List String)
    (id : String) (record : SoftStopRecord) : Prop where
  origin : t.env.Leaves (softStopsField.entry id) ->
    softStopsField.entry id w0.status = some record ∨
      (record = freshAnchor t.env.now ∧ id ∈ startedIds)
  now : t.env.Leaves (softStopsField.entry id) ->
    softStopsField.entry id w.status = some record ∨
      softStopsField.entry id w.status = none
  stop : t.env.Leaves (stoppedAnalysesField.entry id) ->
    stoppedAnalysesField.entry id w.status = stoppedAnalysesField.entry id w0.status ∨
      stoppedAnalysesField.entry id w.status = none
  unvisited : Unvisited id w

section Walk

variable {t : Tick} {w0 w w' : World} {id : String} {record : SoftStopRecord}
variable {startedIds : List String}

theorem Pending.undisturbed (h : Pending t w0 w startedIds id record)
    (hframe : Undisturbed t id w w')
    (hidle : Idle (Event.Visits id) w w') :
    Pending t w0 w' startedIds id record where
  origin := h.origin
  now := by
    intro hleaves
    rcases hframe.softStop hleaves with hsame | hnone
    · rw [hsame]
      exact h.now hleaves
    · exact Or.inr hnone
  stop := by
    intro hleaves
    rcases hframe.stop hleaves with hsame | hnone
    · rw [hsame]
      exact h.stop hleaves
    · exact Or.inr hnone
  unvisited := h.unvisited.idle hidle

/-- An anchor older than this tick was there when the tick opened. -/
theorem Pending.holds (h : Pending t w0 w startedIds id record)
    (hactive : t.config.analysisPolicy.autoSoftStop = true)
    (hold : record = freshAnchor t.env.now -> id ∉ startedIds) :
    Holds t w0 w id record where
  active := hactive
  atStart := by
    intro hleaves
    rcases h.origin hleaves with hstart | ⟨hfresh, hmem⟩
    · exact hstart
    · exact absurd hmem (hold hfresh)
  now := h.now

theorem not_fresh_of_runtime {n : Nat}
    (hruntime : minutes n < t.env.now - record.issuedAt) :
    record ≠ freshAnchor t.env.now := by
  intro hfresh
  rw [hfresh] at hruntime
  unfold minutes freshAnchor at hruntime
  simp only at hruntime
  lia

theorem wp_graceStep (h : Pending t w0 w startedIds id record)
    (hactive : t.config.analysisPolicy.autoSoftStop = true)
    (hreported : forall k, k ∈ startedIds -> t.env.MayReportStarted k)
    (hcomplete : forall k, t.env.AlwaysReportsStarted k -> k ∈ startedIds)
    (result : SlaTickResult) :
    Prog.wp (graceStep t.config startedIds id record result) t.env w
      (fun _ w' => SlaSteps t w0 id w w') (fun _ w' => SlaSteps t w0 id w w') := by
  unfold graceStep
  rw [Prog.wp_bind, Prog.wp_read]
  apply Prog.wp_ite
  · intro hgone
    have hholds := h.holds hactive fun _ => hgone
    have hleft : ¬ t.env.AlwaysReportsStarted id :=
      fun halways => hgone (hcomplete id halways)
    rw [Prog.wp_bind]
    apply Prog.wp_mono (Q := fun _ w' => SlaSteps t w0 id w w')
      (E := fun _ w' => SlaSteps t w0 id w w')
    · apply wp_setMapEntry
      · intro s hwrite
        exact SlaSteps.single (.retire hholds hleft h.unvisited hwrite)
      · intro s e hwrite
        exact SlaSteps.single (.retire hholds hleft h.unvisited hwrite)
      · intro w' text hsteps
        exact hsteps.capped _ _ _
      · intro w' text e hsteps
        exact hsteps.capped _ _ _
    · intro _ w' hsteps
      exact hsteps
    · intro _ w' hsteps
      exact hsteps
  · intro hmem
    have hstarted : id ∈ startedIds := not_not.mp hmem
    apply Prog.wp_ite
    · intro _
      exact Relation.ReflTransGen.refl
    · intro hescalated
      have hunescalated : record.escalatedAt = none := by simpa using hescalated
      have hwatches : record ≠ freshAnchor t.env.now -> Watches t w0 w id record :=
        fun hold =>
          { h.holds hactive fun hfresh => absurd hfresh hold with
            reported := hreported id hstarted
            unescalated := hunescalated }
      apply Prog.wp_ite
      · rintro ⟨hwatching, hover⟩
        rw [Prog.wp_bind]
        exact Prog.wp_mono
          (wp_softStop (hwatches (not_fresh_of_runtime hover)) hwatching hover
            h.unvisited)
          (fun _ _ h' => h') (fun _ _ h' => h')
      · intro hnotDue
        apply Prog.wp_ite
        · intro _
          exact Relation.ReflTransGen.refl
        · intro hlate
          have hgrace : graceOf t < t.env.now - record.issuedAt := Int.not_le.mp hlate
          have hescalates : Escalates t w0 w id record :=
            { hwatches (not_fresh_of_runtime hgrace) with
              pastGrace := hgrace
              notDue := hnotDue }
          apply Prog.wp_ite
          · intro hissued
            rw [Prog.wp_bind]
            apply Prog.wp_mono
              (wp_stopBlock hescalates.toWatches hissued hgrace h.unvisited h.stop)
            · rintro decision w1 ⟨hsteps, hkeeps⟩
              exact Prog.wp_mono
                (wp_escalateIf (hescalates.transfer hkeeps.anchor)
                  (h.unvisited.untried.idle hkeeps.idle) decision result)
                (fun _ _ h' => hsteps.append h') (fun _ _ h' => hsteps.append h')
            · intro _ w1 hsteps
              exact hsteps
          · intro _
            exact wp_escalateIf hescalates h.unvisited.untried _ result

end Walk

/-!
## First sights
-/

/-- The steps of a whole tick, of any subject. -/
def SlaRun (t : Tick) (w0 : World) : World -> World -> Prop :=
  Relation.ReflTransGen fun w w' => exists id, SlaStep t w0 id w w'

theorem SlaSteps.run {t : Tick} {w0 w w' : World} {id : String}
    (h : SlaSteps t w0 id w w') : SlaRun t w0 w w' := by
  induction h with
  | refl => exact Relation.ReflTransGen.refl
  | tail _ hstep ih => exact ih.tail ⟨id, hstep⟩

/-- Phase A, with the started ids collected so far. -/
structure FirstSights (t : Tick) (w0 : World) (startedIds : List String)
    (w : World) : Prop where
  run : SlaRun t w0 w0 w
  anchors : forall id, t.env.Leaves (softStopsField.entry id) ->
    softStopsField.entry id w.status = softStopsField.entry id w0.status ∨
      softStopsField.entry id w.status = none ∨
      (softStopsField.entry id w0.status = none ∧ id ∈ startedIds ∧
        softStopsField.entry id w.status = some (freshAnchor t.env.now))
  stops : forall id, t.env.Leaves (stoppedAnalysesField.entry id) ->
    stoppedAnalysesField.entry id w.status = stoppedAnalysesField.entry id w0.status
  reported : forall id, id ∈ startedIds -> t.env.MayReportStarted id
  unvisited : forall id, Unvisited id w

section PhaseA

variable {t : Tick} {w0 w w' : World} {startedIds : List String} {id : String}

theorem FirstSights.log (h : FirstSights t w0 startedIds w) {event : Event}
    (hquery : event.IsSlaQuery) :
    FirstSights t w0 startedIds (w.log t.env.now event) :=
  { h with
    run := h.run.tail ⟨"", .query hquery⟩
    unvisited := fun id => (h.unvisited id).idle ((Idle.refl _ w).log _ hquery.not_visits) }

theorem FirstSights.look (h : FirstSights t w0 startedIds w) {op : StoreOp}
    {r : Except Exc Unit} {s : Status} (hop : op.IsSlaRead)
    (hkeeps : t.env.Keeps w.status s) :
    FirstSights t w0 startedIds (w.commit t.env.now op r s) where
  run := h.run.tail ⟨"", .look hop hkeeps⟩
  anchors := by
    intro id hleaves
    have hsame : softStopsField.entry id s = softStopsField.entry id w.status :=
      hkeeps _ _ hleaves
    rw [World.commit_status, hsame]
    exact h.anchors id hleaves
  stops := by
    intro id hleaves
    have hsame : stoppedAnalysesField.entry id s =
        stoppedAnalysesField.entry id w.status := hkeeps _ _ hleaves
    rw [World.commit_status, hsame]
    exact h.stops id hleaves
  reported := h.reported
  unvisited := fun id =>
    (h.unvisited id).idle ((Idle.refl _ w).commit _ _ (hop.not_visits r))

theorem FirstSights.see (h : FirstSights t w0 startedIds w)
    (hreported : t.env.MayReportStarted id) :
    FirstSights t w0 (startedIds ++ [id]) w where
  run := h.run
  anchors := by
    intro k hleaves
    rcases h.anchors k hleaves with hsame | hnone | ⟨hnone, hmem, hfresh⟩
    · exact Or.inl hsame
    · exact Or.inr (Or.inl hnone)
    · exact Or.inr (Or.inr ⟨hnone, List.mem_append_left _ hmem, hfresh⟩)
  stops := h.stops
  reported := by
    intro k hmem
    rcases List.mem_append.mp hmem with hold | hnew
    · exact h.reported k hold
    · rw [List.mem_singleton.mp hnew]
      exact hreported
  unvisited := h.unvisited

/-- What the anchor write may start from. -/
theorem FirstSights.fresh (h : FirstSights t w0 startedIds w)
    (hnone : t.env.Leaves (softStopsField.entry id) ->
      softStopsField.entry id w0.status = none) :
    t.env.Leaves (softStopsField.entry id) ->
      softStopsField.entry id w0.status = none ∧
      (softStopsField.entry id w.status = none ∨
        softStopsField.entry id w.status = some (freshAnchor t.env.now)) := by
  intro hleaves
  refine ⟨hnone hleaves, ?_⟩
  rcases h.anchors id hleaves with hsame | hgone | ⟨_, _, hfresh⟩
  · left
    rw [hsame]
    exact hnone hleaves
  · exact Or.inl hgone
  · exact Or.inr hfresh

theorem FirstSights.anchor (h : FirstSights t w0 startedIds w)
    (hactive : t.config.analysisPolicy.autoSoftStop = true)
    (hnone : t.env.Leaves (softStopsField.entry id) ->
      softStopsField.entry id w0.status = none)
    (hreported : t.env.MayReportStarted id) {s : Status}
    (hwrite : MapWrite t.env softStopsField id (some (freshAnchor t.env.now)) (.ok ())
      w.status s) :
    FirstSights t w0 (startedIds ++ [id])
      (w.commit t.env.now (.setSoftStop id (freshAnchor t.env.now)) (.ok ()) s) where
  run := h.run.tail ⟨id, .anchor hactive (h.fresh hnone) hwrite⟩
  anchors := by
    intro k hleaves
    rcases eq_or_ne k id with hk | hk
    · subst hk
      refine Or.inr (Or.inr ⟨hnone hleaves, List.mem_append_right _ List.mem_cons_self, ?_⟩)
      rcases hwrite.self hleaves with hnew | ⟨hraised, _⟩
      · rcases (h.fresh hnone hleaves).2 with hgone | hfresh
        · rw [hgone] at hnew
          exact hnew
        · rw [hfresh] at hnew
          exact hnew
      · exact absurd rfl hraised
    · rcases hwrite.other k hk hleaves with hsame | ⟨hgone, _⟩
      · rw [World.commit_status, hsame]
        exact (h.see hreported).anchors k hleaves
      · exact Or.inr (Or.inl hgone)
  stops := by
    intro k hleaves
    have hsame : stoppedAnalysesField.entry k s =
        stoppedAnalysesField.entry k w.status :=
      hwrite.frame.entry (fun _ _ => rfl) hleaves
    rw [World.commit_status, hsame]
    exact h.stops k hleaves
  reported := (h.see hreported).reported
  unvisited := fun k => (h.unvisited k).idle ((Idle.refl _ w).commit _ _ not_false)

/-- One answer of `status.json`. -/
theorem wp_statusIsStarted (h : FirstSights t w0 startedIds w) :
    Prog.wp (statusIsStarted id) t.env w
      (fun started w' => FirstSights t w0 startedIds w' ∧
        (started = true -> exists trace payload,
          t.env.getAnalysisStatus trace id = .ok payload ∧
            payloadIsStarted payload = .ok true) ∧
        (t.env.AlwaysReportsStarted id -> started = true))
      (fun _ w' => SlaRun t w0 w0 w') := by
  unfold statusIsStarted
  rw [Prog.wp_bind]
  apply wp_call
  · intro payload hanswer
    have hlog : FirstSights t w0 startedIds
        (w.log t.env.now (.getAnalysisStatus id (.ok payload))) := h.log trivial
    cases hstarted : payloadIsStarted payload with
    | error e => exact hlog.run
    | ok started =>
        refine ⟨hlog, ?_, ?_⟩
        · intro htrue
          rw [htrue] at hstarted
          exact ⟨w.trace, payload, hanswer, hstarted⟩
        · intro halways
          exact halways.started w.trace payload started hanswer hstarted
  · intro e _
    have hlog : FirstSights t w0 startedIds
        (w.log t.env.now (.getAnalysisStatus id (.error e))) := h.log trivial
    exact hlog.run

theorem wp_firstSight (h : FirstSights t w0 startedIds w)
    (hactive : t.config.analysisPolicy.autoSoftStop = true)
    {softStops : Dict String SoftStopRecord}
    (hsnapshot : forall k, t.env.Leaves (softStopsField.entry k) ->
      softStops.get? k = softStopsField.entry k w0.status)
    {doc : AnalysisDoc} (hlisted : exists trace docs,
      t.env.listAnalyses trace = .ok docs ∧ doc ∈ docs) :
    Prog.wp (firstSight softStops startedIds doc) t.env w
      (fun startedIds' w' => FirstSights t w0 startedIds' w' ∧
        (forall k, k ∈ startedIds -> k ∈ startedIds') ∧
        (forall k, doc.id = some k -> t.env.AlwaysReportsStarted k ->
          k ∈ startedIds'))
      (fun _ w' => SlaRun t w0 w0 w') := by
  unfold firstSight
  rw [Prog.wp_bind, Prog.wp_read]
  cases hid : doc.id with
  | none => exact ⟨h, fun _ hk => hk, fun k hk => absurd hk (by simp)⟩
  | some analysisId =>
      have hkept : forall k, k ∈ startedIds -> k ∈ startedIds ++ [analysisId] :=
        fun k hk => List.mem_append_left _ hk
      have hadded : forall k, some analysisId = some k ->
          t.env.AlwaysReportsStarted k -> k ∈ startedIds ++ [analysisId] := by
        intro k hk _
        rw [← Option.some.inj hk]
        exact List.mem_append_right _ List.mem_cons_self
      apply Prog.wp_ite
      · intro hempty
        refine ⟨h, fun _ hk => hk, ?_⟩
        intro k hk halways
        rw [← Option.some.inj hk] at halways
        rw [halways.named] at hempty
        exact absurd hempty (by simp)
      · intro _
        rw [Prog.wp_bind]
        apply Prog.wp_mono (wp_statusIsStarted h)
        · rintro started w1 ⟨h1, hanswer, halwaysStarted⟩
          apply Prog.wp_ite
          · intro hnot
            refine ⟨h1, fun _ hk => hk, ?_⟩
            intro k hk halways
            rw [← Option.some.inj hk] at halways
            rw [halwaysStarted halways] at hnot
            exact absurd hnot (by simp)
          · intro hyes
            have hreported : t.env.MayReportStarted analysisId := by
              rcases hlisted with ⟨trace, docs, hlist, hmem⟩
              exact ⟨⟨trace, docs, doc, hlist, hmem, hid⟩,
                hanswer (by simpa using hyes)⟩
            apply Prog.wp_ite
            · intro _
              exact ⟨h1.see hreported, hkept, hadded⟩
            · intro habsent
              have hnone : t.env.Leaves (softStopsField.entry analysisId) ->
                  softStopsField.entry analysisId w0.status = none := by
                intro hleaves
                rw [← hsnapshot analysisId hleaves, Dict.get?_eq_none_iff,
                  ← Dict.contains_iff_mem_keys]
                exact habsent
              rw [Prog.wp_bind]
              apply Prog.wp_mono
                (Q := fun _ w' => FirstSights t w0 (startedIds ++ [analysisId]) w')
                (E := fun _ w' => SlaRun t w0 w0 w')
              · apply wp_setMapEntry
                · intro s hwrite
                  exact h1.anchor hactive hnone hreported hwrite
                · intro s e hwrite
                  exact h1.run.tail
                    ⟨analysisId, .anchor hactive (h1.fresh hnone) hwrite⟩
                · intro w' text h'
                  exact h'.log trivial
                · intro w' text e h'
                  exact h'.run.tail ⟨"", .query trivial⟩
              · intro _ w2 h2
                exact ⟨h2, hkept, hadded⟩
              · intro _ w2 hrun
                exact hrun
        · intro _ w1 hrun
          exact hrun

end PhaseA

/-!
## The whole tick
-/

theorem wp_graceAndEscalate {t : Tick} {w0 w : World} {startedIds : List String}
    (h : FirstSights t w0 startedIds w)
    (hactive : t.config.analysisPolicy.autoSoftStop = true)
    (hcomplete : forall k, t.env.AlwaysReportsStarted k -> k ∈ startedIds) :
    Prog.wp (graceAndEscalate t.config startedIds) t.env w
      (fun _ w' => SlaRun t w0 w0 w') (fun _ w' => SlaRun t w0 w0 w') := by
  unfold graceAndEscalate getSoftStops
  simp only [Prog.wp_bind]
  apply wp_readStatus
  · intro s hkeeps
    have h1 : FirstSights t w0 startedIds
        (w.commit t.env.now .getSoftStops (.ok ()) s) := h.look trivial hkeeps
    show Prog.wp (s.softStops.entries.foldlM _ _) t.env _ _ _
    apply Prog.wp_foldlM (fun rest _ w' => SlaRun t w0 w0 w' ∧
      (rest.map Prod.fst).Nodup ∧
      forall id record, (id, record) ∈ rest -> Pending t w0 w' startedIds id record)
    · rintro ⟨id, record⟩ rest result w2 ⟨hrun, hnodup, hpending⟩
      rw [List.map_cons, List.nodup_cons] at hnodup
      apply Prog.wp_mono (wp_graceStep (hpending id record List.mem_cons_self) hactive
        h1.reported hcomplete result)
      · intro _ w3 hsteps
        refine ⟨hrun.trans hsteps.run, hnodup.2, ?_⟩
        intro k record' hmem
        have hne : k ≠ id := by
          intro hk
          exact hnodup.1 (List.mem_map.mpr ⟨(k, record'), hmem, hk⟩)
        exact (hpending k record' (List.mem_cons_of_mem _ hmem)).undisturbed
          (hsteps.undisturbed hne) (hsteps.idle hne)
      · intro _ w3 hsteps
        exact hrun.trans hsteps.run
    · rintro _ w2 ⟨hrun, _⟩
      exact hrun
    · refine ⟨h1.run, s.softStops.nodupKeys, ?_⟩
      intro id record hmem
      have hentry : softStopsField.entry id s = some record :=
        (Dict.mem_entries_iff_get? _ _ _).mp hmem
      constructor
      · intro hleaves
        rcases h1.anchors id hleaves with hsame | hnone | ⟨_, hseen, hfresh⟩
        · left
          rw [← hsame]
          exact hentry
        · exact absurd (hentry.symm.trans hnone) (by simp)
        · exact Or.inr ⟨Option.some.inj (hentry.symm.trans hfresh), hseen⟩
      · intro _
        exact Or.inl hentry
      · intro hleaves
        exact Or.inl (h1.stops id hleaves)
      · exact h1.unvisited id
  · intro s e hkeeps
    have h1 : FirstSights t w0 startedIds
        (w.commit t.env.now .getSoftStops (.error e) s) := h.look trivial hkeeps
    exact h1.run

/-- Every tick is a run of steps from the world in which it opened. -/
theorem runSlaTick_run (t : Tick) (w : World) :
    SlaRun t (w.openTick t) (w.openTick t) (runTick runSlaTick t w) := by
  have hopen : FirstSights t (w.openTick t) [] (w.openTick t) := by
    constructor
    · exact Relation.ReflTransGen.refl
    · intro id _
      exact Or.inl rfl
    · intro id _
      rfl
    · intro id hmem
      exact absurd hmem List.not_mem_nil
    · intro id e he
      exact absurd he List.not_mem_nil
  unfold runTick
  apply Prog.exec_of_wp
  unfold inTick
  rw [Prog.wp_bind, wp_note]
  show Prog.wp (runSlaTick t.config) t.env (w.openTick t) _ _
  unfold runSlaTick
  apply Prog.wp_ite
  · intro _
    exact hopen.run
  · intro hpassive
    have hactive : t.config.analysisPolicy.autoSoftStop = true := by
      simpa using hpassive
    unfold getSoftStops
    simp only [Prog.wp_bind]
    apply wp_readStatus
    · intro s hkeeps
      have h1 : FirstSights t (w.openTick t) []
          ((w.openTick t).commit t.env.now .getSoftStops (.ok ()) s) :=
        hopen.look trivial hkeeps
      apply wp_call
      · intro docs hdocs
        have h2 : FirstSights t (w.openTick t) []
            (((w.openTick t).commit t.env.now .getSoftStops (.ok ()) s).log t.env.now
              (.listAnalyses (.ok docs))) := h1.log trivial
        apply Prog.wp_foldlM (fun rest startedIds w' =>
          FirstSights t (w.openTick t) startedIds w' ∧
          (forall doc, doc ∈ rest -> doc ∈ docs) ∧
          forall k, t.env.AlwaysReportsStarted k ->
            k ∈ startedIds ∨ exists doc, doc ∈ rest ∧ doc.id = some k)
        · rintro doc rest startedIds w3 ⟨h3, hrest, hseen⟩
          have hsnapshot : forall k, t.env.Leaves (softStopsField.entry k) ->
              s.softStops.get? k =
                softStopsField.entry k (w.openTick t).status :=
            fun k hleaves => hkeeps _ _ hleaves
          apply Prog.wp_mono (wp_firstSight h3 hactive hsnapshot
            ⟨_, docs, hdocs, hrest doc List.mem_cons_self⟩)
          · rintro startedIds' w4 ⟨h4, hkept, hadded⟩
            refine ⟨h4, fun d hd => hrest d (List.mem_cons_of_mem _ hd), ?_⟩
            intro k halways
            rcases hseen k halways with hmem | ⟨d, hd, hdid⟩
            · exact Or.inl (hkept k hmem)
            · rcases List.mem_cons.mp hd with hhead | htail
              · rw [hhead] at hdid
                exact Or.inl (hadded k hdid halways)
              · exact Or.inr ⟨d, htail, hdid⟩
          · intro _ w4 hrun
            exact hrun
        · rintro startedIds w3 ⟨h3, _, hseen⟩
          apply wp_graceAndEscalate h3 hactive
          intro k halways
          rcases hseen k halways with hmem | ⟨d, hd, _⟩
          · exact hmem
          · exact absurd hd List.not_mem_nil
        · refine ⟨h2, fun _ hd => hd, ?_⟩
          intro k halways
          exact Or.inr (halways.listed _ docs hdocs)
      · intro e _
        exact h1.run.tail ⟨"", .query trivial⟩
    · intro s e hkeeps
      exact hopen.run.tail ⟨"", .look trivial hkeeps⟩

/-- Whole runs by induction on the steps: a property is kept when a tick opens
and by every step of the tick, given the condition that the tick meets. -/
theorem runSlaTicks_induction (cond : Tick -> World -> Prop) (P : World -> Prop)
    (hopen : forall t w, cond t w -> P w -> P (w.openTick t))
    (hstep : forall t w0 w w' id, cond t w0 -> P w0 ->
      SlaRun t (w0.openTick t) (w0.openTick t) w -> P w ->
      SlaStep t (w0.openTick t) id w w' -> P w') :
    forall (ticks : List Tick) (w : World), EveryTick runSlaTick cond ticks w ->
      P w -> P (runTicks runSlaTick ticks w)
  | [], _, _, hw => hw
  | t :: later, w, hticks, hw => by
      rcases hticks with ⟨hcond, hlater⟩
      apply runSlaTicks_induction cond P hopen hstep later _ hlater
      have hrun := runSlaTick_run t w
      generalize runTick runSlaTick t w = after at hrun ⊢
      induction hrun with
      | refl => exact hopen t w hcond hw
      | tail hbefore hlast ih =>
          rcases hlast with ⟨id, hlast⟩
          exact hstep t w _ _ id hcond hw hbefore ih hlast

end OpenStudioOperator
