import OpenStudioOperator.AnalysisSla
import OpenStudioOperator.DryRunSpelling

/-!
# Ticks of the SLA monitor under an observation

While every call succeeds and nobody else writes, what a tick does follows from
what it observes.  Each part of the tick then ends in one way, and the status
it leaves is given in terms of the status before it.
-/

namespace OpenStudioOperator

open Foundation Prog

namespace DryRun

/-!
## Observations
-/

def isStatusRequest : Event -> Bool
  | .getAnalysisStatus _ _ => true
  | _ => false

/-- How many `status.json` requests the tick at hand has made. -/
def asked (trace : Trace) : Nat :=
  (currentTick trace).countP fun e => isStatusRequest e.event

/-- What one tick observes while every call succeeds.  The answer to a
`status.json` request may depend on its place among the requests of the tick;
the Redis and pod lists may depend on everything that was called before. -/
structure Observation where
  now : Instant
  analyses : List AnalysisDoc
  statusAnswer : Nat -> String -> Option AnalysisStatusPayload
  workers : Trace -> String -> List String
  pods : Trace -> List (Option String)

def Observation.env (o : Observation) : Env :=
  { Env.quiet o.now with
    listAnalyses := fun _ => .ok o.analyses
    getAnalysisStatus := fun trace id => .ok (o.statusAnswer (asked trace) id)
    workersForAnalysis := fun trace id => .ok (o.workers trace id)
    listPods := fun trace => .ok (o.pods trace) }

/-- The listed analyses that `status.json` reports started, the requests being
counted from `n`; an answer may raise. -/
def Observation.reportedFrom (o : Observation) :
    Nat -> List AnalysisDoc -> Except Exc (List String)
  | _, [] => .ok []
  | n, doc :: rest =>
      match doc.id with
      | none => o.reportedFrom n rest
      | some id =>
          if id.isEmpty then o.reportedFrom n rest
          else
            match payloadIsStarted (o.statusAnswer n id) with
            | .error e => .error e
            | .ok false => o.reportedFrom (n + 1) rest
            | .ok true => (o.reportedFrom (n + 1) rest).map fun later => id :: later

/-- How the tick sees the listed analyses. -/
def Observation.startedView (o : Observation) : Except Exc (List String) :=
  o.reportedFrom 0 o.analyses

/-- The analyses that the tick sees started when it comes to its anchors. -/
def Observation.reported (o : Observation) : List String :=
  match o.startedView with
  | .ok ids => ids
  | .error _ => []

theorem asked_log {w : World} {time : Instant} {event : Event}
    (hevent : forall config, event ≠ .tickStart config) :
    asked (w.log time event).trace =
      asked w.trace + if isStatusRequest event then 1 else 0 := by
  unfold asked
  rw [World.log_trace, currentTick_cons hevent, List.countP_cons]

theorem asked_openTick (w : World) (t : Tick) : asked (w.openTick t).trace = 0 := rfl

/-!
## Where a part of a tick ends

Under an observation a part of a tick ends in one way.  `At w0 s w` says that
`w` has the status `s` and what else of the base world `w0` later parts look at.
-/

structure At (w0 : World) (s : Status) (w : World) : Prop where
  status : w.status = s
  protectedKeys : w.protectedKeys = w0.protectedKeys
  asked : asked w.trace = asked w0.trace

theorem At.refl (w : World) : At w w.status w := ⟨rfl, rfl, rfl⟩

theorem At.log {w0 w : World} {s : Status} (h : At w0 s w) {time : Instant} {event : Event}
    (hevent : forall config, event ≠ .tickStart config)
    (hrequest : isStatusRequest event = false) : At w0 s (w.log time event) where
  status := h.status
  protectedKeys := h.protectedKeys
  asked := by
    rw [asked_log hevent, hrequest]
    exact h.asked

theorem At.commit {w0 w : World} {s s' : Status} (h : At w0 s w) {time : Instant}
    {op : StoreOp} {r : Except Exc Unit} : At w0 s' (w.commit time op r s') where
  status := rfl
  protectedKeys := h.protectedKeys
  asked := h.asked

/-- From the status `s` the program returns `a` and leaves the status `s'`. -/
def Settles {alpha : Type} (env : Env) (w0 : World) (m : OpM alpha) (s : Status)
    (a : alpha) (s' : Status) : Prop :=
  forall w, At w0 s w ->
    wp m env w (fun b t => b = a ∧ At w0 s' t) (fun _ _ => False)

section Settles

variable {alpha beta : Type} {env : Env} {w0 : World} {s s' s'' : Status} {a : alpha} {b : beta}

theorem Settles.pure : Settles env w0 (pure a) s a s :=
  fun _ hw => ⟨rfl, hw⟩

theorem Settles.bind {m : OpM alpha} {f : alpha -> OpM beta} (hm : Settles env w0 m s a s')
    (hf : Settles env w0 (f a) s' b s'') : Settles env w0 (m >>= f) s b s'' := by
  intro w hw
  rw [wp_bind]
  apply wp_mono (hm w hw)
  · intro c t h
    rw [h.1]
    exact hf t h.2
  · intro _ _ h
    exact h

theorem Settles.bind_read {f : Env -> OpM beta} (hf : Settles env w0 (f env) s b s') :
    Settles env w0 (read >>= f) s b s' := by
  intro w hw
  rw [wp_bind, wp_read]
  exact hf w hw

theorem settles_note {event : Event} (hevent : forall config, event ≠ .tickStart config)
    (hrequest : isStatusRequest event = false) : Settles env w0 (note event) s () s :=
  fun _ hw => ⟨rfl, hw.log hevent hrequest⟩

end Settles

section Observed

variable {o : Observation} {w0 : World} {s : Status}

theorem settles_emit {type : EventType} {reason message : String} :
    Settles o.env w0 (emit type reason message) s () s :=
  fun _ hw => ⟨rfl, hw.log (fun _ h => by cases h) rfl⟩

theorem settles_mutate {m : Mutation} : Settles o.env w0 (mutate m) s () s :=
  fun _ hw => ⟨rfl, hw.log (fun _ h => by cases h) rfl⟩

theorem settles_mutateUnless {dryRun : Bool} {m : Mutation} :
    Settles o.env w0 (mutateUnless dryRun m) s () s := by
  cases dryRun with
  | true => exact settles_note (fun _ h => by cases h) rfl
  | false => exact settles_mutate

theorem settles_readStatus {op : StoreOp} : Settles o.env w0 (readStatus op) s s s := by
  intro w hw
  have hend : At w0 s (w.commit o.now op (.ok ()) w.status) := by
    rw [hw.status]
    exact hw.commit
  exact ⟨hw.status, hend⟩

theorem settles_getSoftStops : Settles o.env w0 getSoftStops s s.softStops s :=
  Settles.bind settles_readStatus Settles.pure

theorem settles_getStopRecord {id : String} :
    Settles o.env w0 (getStopRecord id) s (stoppedAnalysesField.entry id s) s :=
  Settles.bind settles_readStatus Settles.pure

section SetMapEntry

variable {record : Type} [DecidableEq record] {field : MapField record} {op : StoreOp}
variable {key : String} {encoded : Option record}

theorem setOutcome_observed (w : World) :
    (exists evicted, (setOutcome op field key encoded o.env w).result = .ok evicted) ∧
      (setOutcome op field key encoded o.env w).final =
        written field (w.protectedKeys field.name) key encoded w.status := by
  unfold setOutcome mutateOutcome written
  simp only [Observation.env, Env.quiet, quietServer, maxConflictRetries, ReadModifyWrite.run,
    buildFieldPatch]
  cases (buildMapPatch (w.protectedKeys field.name) key encoded (field.read w.status)).1 with
  | none => exact ⟨⟨_, rfl⟩, rfl⟩
  | some patch => exact ⟨⟨_, rfl⟩, rfl⟩

theorem settles_setMapEntry :
    Settles o.env w0 (setMapEntry op field key encoded) s ()
      (written field (w0.protectedKeys field.name) key encoded s) := by
  intro w hw
  have houtcome := @setOutcome_observed o record _ field op key encoded w
  rw [hw.protectedKeys, hw.status] at houtcome
  rcases houtcome with ⟨⟨evicted, hresult⟩, hfinal⟩
  unfold setMapEntry
  rw [wp_bind]
  show wp (mutateStatus op (applyFieldPatch field)
    (buildFieldPatch field (w.protectedKeys field.name) key encoded) [] >>= _) o.env w _ _
  rw [wp_bind]
  apply wp_mutateStatus
  · intro evicted' _
    have hend : At w0 (written field (w0.protectedKeys field.name) key encoded s)
        (w.commit o.now op (.ok ()) (setOutcome op field key encoded o.env w).final) := by
      rw [hfinal]
      exact hw.commit
    apply wp_ite
    · intro _
      exact ⟨rfl, hend⟩
    · intro _
      exact ⟨rfl, hend.log (fun _ h => by cases h) rfl⟩
  · intro e herror
    exact absurd (hresult.symm.trans herror) (by simp)

end SetMapEntry

/-!
## The parts of a visit
-/

section Parts

variable {config : OperatorConfig} {id : String} {record : SoftStopRecord}

theorem settles_softStop :
    Settles o.env w0 (softStop config id record) s ()
      (written softStopsField (w0.protectedKeys .softStops) id
        (some (softStoppedRecord config record)) s) := by
  apply Settles.bind_read
  apply Settles.bind settles_mutateUnless
  apply Settles.bind settles_emit
  exact settles_setMapEntry

theorem settles_issueStop :
    Settles o.env w0 (issueStop config id) s ()
      (written stoppedAnalysesField (w0.protectedKeys .stoppedAnalyses) id
        (some (stopIssuedRecord config o.now)) s) := by
  apply Settles.bind_read
  apply Settles.bind settles_mutateUnless
  apply Settles.bind settles_emit
  exact settles_setMapEntry

/-- What `retireStopRecord` leaves. -/
def retired (protectedIds : List String) (id : String) (stop : StopRecord)
    (stoppedAt : Instant) (s : Status) : Status :=
  written stoppedAnalysesField protectedIds id none
    (written stoppedAnalysesField protectedIds id
      (some { issuedAt := stop.issuedAt, outcome := .completed, stoppedAt := some stoppedAt }) s)

theorem settles_retireStopRecord {stop : StopRecord} {stoppedAt : Instant} :
    Settles o.env w0 (retireStopRecord id stop stoppedAt) s ()
      (retired (w0.protectedKeys .stoppedAnalyses) id stop stoppedAt s) := by
  apply Settles.bind settles_setMapEntry
  exact settles_setMapEntry

/-- What a stop record leads to when it was there before. -/
def awaited (now : Instant) (protectedIds : List String) (id : String) (stop : StopRecord)
    (s : Status) : StopDecision × Status :=
  match stop.stoppedAt with
  | some stoppedAt =>
      (⟨false, false⟩, retired protectedIds id stop stoppedAt s)
  | none =>
      if seconds stopWaitTimeoutSeconds < now - stop.issuedAt then
        (⟨true, false⟩, written stoppedAnalysesField protectedIds id
          (some { issuedAt := stop.issuedAt, outcome := .timeout, stoppedAt := some now }) s)
      else (⟨false, false⟩, s)

theorem settles_awaitStop {stop : StopRecord} :
    Settles o.env w0 (awaitStop id stop) s
      (awaited o.now (w0.protectedKeys .stoppedAnalyses) id stop s).1
      (awaited o.now (w0.protectedKeys .stoppedAnalyses) id stop s).2 := by
  apply Settles.bind_read
  unfold awaited
  cases stop.stoppedAt with
  | some stoppedAt =>
      apply Settles.bind settles_retireStopRecord
      exact Settles.pure
  | none =>
      show Settles _ _ (if seconds stopWaitTimeoutSeconds < o.now - stop.issuedAt then _ else _)
        _ _ _
      by_cases hlate : seconds stopWaitTimeoutSeconds < o.now - stop.issuedAt
      · rw [if_pos hlate, if_pos hlate]
        apply Settles.bind settles_setMapEntry
        exact Settles.pure
      · rw [if_neg hlate, if_neg hlate]
        exact Settles.pure

/-- The record just written is read back without `stoppedAt`. -/
theorem settles_firstStop (hnone : stoppedAnalysesField.entry id s = none) :
    Settles o.env w0 (firstStop config id) s ⟨true, true⟩
      (written stoppedAnalysesField (w0.protectedKeys .stoppedAnalyses) id
        (some (stopIssuedRecord config o.now)) s) := by
  apply Settles.bind settles_issueStop
  apply Settles.bind settles_getStopRecord
  rw [entry_written_self, hnone]
  exact Settles.pure

/-- What the stop block decides and leaves. -/
def stopOutcome (config : OperatorConfig) (now : Instant) (protectedIds : List String)
    (id : String) (s : Status) : StopDecision × Status :=
  match stoppedAnalysesField.entry id s with
  | none =>
      (⟨true, true⟩, written stoppedAnalysesField protectedIds id
        (some (stopIssuedRecord config now)) s)
  | some stop => awaited now protectedIds id stop s

theorem settles_stopBlock :
    Settles o.env w0 (stopBlock config id) s
      (stopOutcome config o.now (w0.protectedKeys .stoppedAnalyses) id s).1
      (stopOutcome config o.now (w0.protectedKeys .stoppedAnalyses) id s).2 := by
  apply Settles.bind settles_getStopRecord
  unfold stopOutcome
  cases hstored : stoppedAnalysesField.entry id s with
  | none => exact settles_firstStop hstored
  | some stop => exact settles_awaitStop

end Parts

/-!
## Escalations
-/

section Escalation

variable {config : OperatorConfig} {id : String} {record : SoftStopRecord} {w : World}

/-- The status with the anchor stamped. -/
def stamped (id : String) (now : Instant) (outcome : EscalationOutcome)
    (record : SoftStopRecord) (s : Status) : Status :=
  softStopsField.write (s.softStops.set id (record.stamp now outcome)) s

theorem wp_markSoftStopEscalated_stored {marked : EscalationOutcome}
    (hstored : softStopsField.entry id s = some record) (hfresh : record.escalatedAt = none)
    (hw : At w0 s w) :
    wp (markSoftStopEscalated id o.now marked) o.env w
      (fun _ t => At w0 (stamped id o.now marked record s) t) (fun _ _ => False) := by
  have hget : w.status.softStops.get? id = some record := by
    rw [hw.status]
    exact hstored
  have hchanges : ¬ ({ record with
      escalatedAt := some o.now, escalationOutcome := some marked } : SoftStopRecord) = record := by
    intro hsame
    have hat := congrArg SoftStopRecord.escalatedAt hsame
    rw [hfresh] at hat
    cases hat
  have houtcome : (markOutcome id o.now marked o.env w).result = .ok () ∧
      (markOutcome id o.now marked o.env w).final = stamped id o.now marked record s := by
    unfold markOutcome mutateOutcome
    simp only [Observation.env, Env.quiet, quietServer, maxConflictRetries, ReadModifyWrite.run,
      buildEscalationMark, hget, if_neg hchanges]
    constructor
    · trivial
    · show softStopsField.write (w.status.softStops.set id
        (mergeEntry SoftStopRecord.merge (w.status.softStops.get? id) _)) w.status = _
      rw [hget, hw.status]
      rfl
  unfold markSoftStopEscalated
  apply wp_mutateStatus
  · intro _ _
    show At w0 _ (w.commit o.now _ (.ok ()) (markOutcome id o.now marked o.env w).final)
    rw [houtcome.2]
    exact hw.commit
  · intro e herror
    exact absurd (houtcome.1.symm.trans herror) (by simp)

/-- How the marker fails when the anchor is gone. -/
def anchorVanished (id : String) : Exc :=
  .statusStoreError
    s!"status.softStops['{id}']: anchor vanished before escalation marker"

theorem wp_markSoftStopEscalated_vanished {marked : EscalationOutcome}
    (hnone : softStopsField.entry id s = none) (hw : At w0 s w) :
    wp (markSoftStopEscalated id o.now marked) o.env w (fun _ _ => False)
      (fun e t => e = anchorVanished id ∧ At w0 s t) := by
  have hget : w.status.softStops.get? id = none := by
    rw [hw.status]
    exact hnone
  have houtcome : (markOutcome id o.now marked o.env w).result = .error (anchorVanished id) ∧
      (markOutcome id o.now marked o.env w).final = s := by
    unfold markOutcome mutateOutcome
    simp only [Observation.env, Env.quiet, quietServer, maxConflictRetries, ReadModifyWrite.run,
      buildEscalationMark, hget]
    exact ⟨rfl, hw.status⟩
  unfold markSoftStopEscalated
  apply wp_mutateStatus
  · intro _ hreturned
    exact absurd (houtcome.1.symm.trans hreturned) (by simp)
  · intro e herror
    constructor
    · exact (Except.error.inj (houtcome.1.symm.trans herror)).symm
    · show At w0 s (w.commit o.now _ _ (markOutcome id o.now marked o.env w).final)
      rw [houtcome.2]
      exact hw.commit

/-- Every delete succeeds or is withheld, so no failure is counted. -/
theorem wp_deleteVictim_observed {count : EvictionCount} {victim : String × String}
    (hnone : count.lastFailure = none) (hw : At w0 s w) :
    wp (deleteVictim config id count victim) o.env w
      (fun after t => after.lastFailure = none ∧ At w0 s t) (fun _ _ => False) := by
  unfold deleteVictim
  apply wp_ite
  · intro _
    exact ⟨hnone, hw⟩
  · intro _
    exact ⟨hnone, hw.log (fun _ h => by cases h) rfl⟩

theorem wp_resqueMatchedWorkerPods_observed (hw : At w0 s w) :
    wp (resqueMatchedWorkerPods id) o.env w (fun _ t => At w0 s t) (fun _ _ => False) := by
  have hworkers : At w0 s (w.log o.now (.workersForAnalysis id (.ok (o.workers w.trace id)))) :=
    hw.log (fun _ h => by cases h) rfl
  unfold resqueMatchedWorkerPods
  rw [wp_bind]
  show wp _ o.env (w.log o.now (.workersForAnalysis id (.ok (o.workers w.trace id)))) _ _
  apply wp_ite
  · intro _
    exact hworkers
  · intro _
    exact hworkers.log (fun _ h => by cases h) rfl

/-- An escalation ends as its marker does. -/
theorem wp_escalateAnalysis_observed {Q : World -> Prop} {E : Exc -> World -> Prop}
    (hw : At w0 s w)
    (hmark : forall marked t, At w0 s t ->
      wp (markSoftStopEscalated id o.now marked) o.env t (fun _ u => Q u) E)
    (hraised : forall e t, E e t -> E e (t.log o.now (.escalationRaised id))) :
    wp (escalateAnalysis config id record) o.env w (fun _ t => Q t) E := by
  unfold escalateAnalysis
  rw [wp_bind]
  apply wp_mono (wp_resqueMatchedWorkerPods_observed hw)
  · intro victims t ht
    rw [wp_bind, wp_note, wp_tryCatch]
    have hpass : At w0 s (t.log o.now (.escalationPass id)) :=
      ht.log (fun _ h => by cases h) rfl
    unfold evictVictims
    rw [wp_bind, wp_read, wp_bind]
    apply wp_foldlM fun _ (count : EvictionCount) u => count.lastFailure = none ∧ At w0 s u
    · intro victim _ count u hI
      apply wp_mono (wp_deleteVictim_observed hI.1 hI.2)
      · intro _ _ h
        exact h
      · intro _ _ h
        exact h.elim
    · intro count u hI
      have hpassed : passFailure count = none := by
        unfold passFailure
        rw [hI.1]
      rw [hpassed]
      dsimp only
      rw [wp_bind]
      show wp _ o.env (u.log o.now (.emit .warning analysisEscalatedEvent _ (.ok ()))) _ _
      rw [wp_bind]
      apply wp_mono (hmark _ _ (hI.2.log (fun _ h => by cases h) rfl))
      · intro _ _ h
        exact h
      · intro e v h
        exact hraised e v h
    · exact ⟨rfl, hpass⟩
  · intro _ _ h
    exact h.elim

/-- A stored anchor gets the marker. -/
theorem wp_escalateAnalysis_stored (hstored : softStopsField.entry id s = some record)
    (hfresh : record.escalatedAt = none) (hw : At w0 s w) :
    wp (escalateAnalysis config id record) o.env w
      (fun _ t => exists marked, At w0 (stamped id o.now marked record s) t)
      (fun _ _ => False) := by
  apply wp_escalateAnalysis_observed hw
  · intro marked t ht
    apply wp_mono (wp_markSoftStopEscalated_stored hstored hfresh ht)
    · intro _ u hu
      exact ⟨marked, hu⟩
    · intro _ _ hfalse
      exact hfalse
  · intro _ _ hfalse
    exact hfalse

/-- Without the anchor the escalation raises. -/
theorem wp_escalateAnalysis_vanished (hnone : softStopsField.entry id s = none)
    (hw : At w0 s w) :
    wp (escalateAnalysis config id record) o.env w (fun _ _ => False)
      (fun e t => e = anchorVanished id ∧ At w0 s t) := by
  apply wp_escalateAnalysis_observed (Q := fun _ => False) hw
  · intro marked t ht
    exact wp_markSoftStopEscalated_vanished hnone ht
  · intro e t he
    exact ⟨he.1, he.2.log (fun _ hevent => by cases hevent) rfl⟩

end Escalation

end Observed

end DryRun

end OpenStudioOperator
