import OpenStudioOperator.AnalysisSla
import OpenStudioOperator.Actions

/-!
# The SLA monitor as a transition system

Every tick is a sequence of steps from the world in which it opened.  A step
carries what the code checked before it: the anchor as the tick found it, its
age, the stop record.  Properties of whole runs are proved on the steps.

What a step says about one entry of a map is conditional on other writers
leaving that entry alone.
-/

namespace OpenStudioOperator

open Foundation

/-!
## Reports
-/

/-- The tick can see the analysis listed and reported `started`. -/
def Env.MayReportStarted (env : Env) (id : String) : Prop :=
  (exists trace docs doc, env.listAnalyses trace = .ok docs ∧ doc ∈ docs ∧
    doc.id = some id) ∧
  exists trace payload, env.getAnalysisStatus trace id = .ok payload ∧
    payloadIsStarted payload = .ok true

/-- Every listing names the analysis and every answer reports it `started`. -/
structure Env.AlwaysReportsStarted (env : Env) (id : String) : Prop where
  named : id.isEmpty = false
  listed : forall trace docs, env.listAnalyses trace = .ok docs ->
    exists doc, doc ∈ docs ∧ doc.id = some id
  started : forall trace payload answer,
    env.getAnalysisStatus trace id = .ok payload ->
    payloadIsStarted payload = .ok answer -> answer = true

/-!
## Blocks of calls
-/

def World.logAll (w : World) (time : Instant) : List Event -> World
  | [] => w
  | event :: events => (w.log time event).logAll time events

/-- The deletes of one pass. -/
def DeletesPodsOf (id : String) (events : List Event) : Prop :=
  forall event, event ∈ events ->
    exists podName grace r, event = .mutate (.deletePod id podName grace) r

/-- An escalation pass from its delete loop on, cut short by the first raise. -/
inductive Pass (t : Tick) (id : String) (w : World) : World -> Prop where
  | raised (deletes : List Event) : DeletesPodsOf id deletes ->
      Pass t id w
        (((w.log t.env.now (.escalationPass id)).logAll t.env.now deletes).log
          t.env.now (.escalationRaised id))
  | unannounced (deletes : List Event) (message : String) (e : Exc) :
      DeletesPodsOf id deletes ->
      Pass t id w
        ((((w.log t.env.now (.escalationPass id)).logAll t.env.now deletes).log
          t.env.now (.emit .warning analysisEscalatedEvent message (.error e))).log
            t.env.now (.escalationRaised id))
  | unmarked (deletes : List Event) (message : String) (e : Exc)
      (outcome : EscalationOutcome) (s : Status) :
      DeletesPodsOf id deletes ->
      MarkWrite t.env id t.env.now outcome (.error e) w.status s ->
      Pass t id w
        (((((w.log t.env.now (.escalationPass id)).logAll t.env.now deletes).log
          t.env.now (.emit .warning analysisEscalatedEvent message (.ok ()))).commit
            t.env.now (.markSoftStopEscalated id t.env.now outcome) (.error e) s).log
              t.env.now (.escalationRaised id))
  | marked (deletes : List Event) (message : String)
      (outcome : EscalationOutcome) (s : Status) :
      DeletesPodsOf id deletes ->
      MarkWrite t.env id t.env.now outcome (.ok ()) w.status s ->
      Pass t id w
        ((((w.log t.env.now (.escalationPass id)).logAll t.env.now deletes).log
          t.env.now (.emit .warning analysisEscalatedEvent message (.ok ()))).commit
            t.env.now (.markSoftStopEscalated id t.env.now outcome) (.ok ()) s)

/-!
## Guards
-/

def graceOf (t : Tick) : Duration :=
  minutes t.config.analysisPolicy.gracefulStopTimeoutMinutes

def maxRuntimeOf (t : Tick) : Duration :=
  minutes t.config.analysisPolicy.maxDurationMinutes

/-- What a tick does at most once for `id`: its soft stop and its escalation
pass. -/
def Event.Tries (id : String) : Event -> Prop
  | .mutate (.softStopAnalysis analysisId) _ => analysisId = id
  | .suppressed (.softStopAnalysis analysisId) => analysisId = id
  | .escalationPass analysisId => analysisId = id
  | .escalationRaised analysisId => analysisId = id
  | _ => False

/-- What the walk does when it visits the anchor of `id`. -/
def Event.Visits (id : String) : Event -> Prop
  | .mutate (.softStopAnalysis analysisId) _ => analysisId = id
  | .suppressed (.softStopAnalysis analysisId) => analysisId = id
  | .mutate (.stopAnalysis analysisId) _ => analysisId = id
  | .suppressed (.stopAnalysis analysisId) => analysisId = id
  | .store (.clearSoftStop analysisId) _ => analysisId = id
  | .store (.setStopRecord analysisId _) _ => analysisId = id
  | .escalationPass analysisId => analysisId = id
  | .escalationRaised analysisId => analysisId = id
  | _ => False

theorem Event.Tries.visits {id : String} {event : Event} (h : event.Tries id) :
    event.Visits id := by
  cases event with
  | mutate m r =>
      cases m with
      | softStopAnalysis analysisId => exact h
      | _ => exact absurd h not_false
  | suppressed m =>
      cases m with
      | softStopAnalysis analysisId => exact h
      | _ => exact absurd h not_false
  | escalationPass analysisId => exact h
  | escalationRaised analysisId => exact h
  | _ => exact absurd h not_false

/-- The tick has neither soft-stopped nor escalated `id` yet. -/
def Untried (id : String) : World -> Prop :=
  Quiet (Event.Tries id)

/-- The walk has not come to `id` yet. -/
def Unvisited (id : String) : World -> Prop :=
  Quiet (Event.Visits id)

theorem Unvisited.untried {id : String} {w : World} (h : Unvisited id w) :
    Untried id w :=
  Quiet.mono h fun _ => Event.Tries.visits

/-- The record of `id` that the walk holds: the tick found it at its start, and
it is still stored unless the cap dropped it meanwhile. -/
structure Holds (t : Tick) (w0 w : World) (id : String)
    (record : SoftStopRecord) : Prop where
  active : t.config.analysisPolicy.autoSoftStop = true
  atStart : t.env.Leaves (softStopsField.entry id) ->
    softStopsField.entry id w0.status = some record
  now : t.env.Leaves (softStopsField.entry id) ->
    softStopsField.entry id w.status = some record ∨
      softStopsField.entry id w.status = none

/-- The walk acts on `id`: still reported started, not yet escalated. -/
structure Watches (t : Tick) (w0 w : World) (id : String)
    (record : SoftStopRecord) : Prop extends Holds t w0 w id record where
  reported : t.env.MayReportStarted id
  unescalated : record.escalatedAt = none

/-- The walk escalates `id`: past the grace and not due for a soft stop. -/
structure Escalates (t : Tick) (w0 w : World) (id : String)
    (record : SoftStopRecord) : Prop extends Watches t w0 w id record where
  pastGrace : graceOf t < t.env.now - record.issuedAt
  notDue : ¬ (record.outcome = .watching ∧
    maxRuntimeOf t < t.env.now - record.issuedAt)

/-- The stop record the walk read, for an issued anchor past its grace. -/
structure AwaitsStop (t : Tick) (w0 w : World) (id : String)
    (record : SoftStopRecord) (stop : StopRecord) : Prop extends
    Watches t w0 w id record where
  issued : record.outcome = .issued
  pastGrace : graceOf t < t.env.now - record.issuedAt
  stopAtStart : t.env.Leaves (stoppedAnalysesField.entry id) ->
    stoppedAnalysesField.entry id w0.status = some stop

def freshAnchor (now : Instant) : SoftStopRecord where
  issuedAt := now
  outcome := .watching

/-!
## Steps
-/

def Event.IsSlaQuery : Event -> Prop
  | .listAnalyses _ => True
  | .getAnalysisStatus _ _ => True
  | .statusMapCapped _ _ _ => True
  | _ => False

def StoreOp.IsSlaRead : StoreOp -> Prop
  | .getSoftStops => True
  | .getStopRecord _ => True
  | _ => False

/-- The events that resolve the targets of an escalation. -/
def Event.Resolves (id : String) : Event -> Prop
  | .workersForAnalysis analysisId _ => analysisId = id
  | .listPods _ => True
  | _ => False

/-- One step of the tick `t` that opened in `w0`; its subject is `id`. -/
inductive SlaStep (t : Tick) (w0 : World) (id : String) :
    World -> World -> Prop where
  | query {w : World} {event : Event} : event.IsSlaQuery ->
      SlaStep t w0 id w (w.log t.env.now event)
  | look {w : World} {op : StoreOp} {r : Except Exc Unit} {s : Status} :
      op.IsSlaRead -> t.env.Keeps w.status s ->
      SlaStep t w0 id w (w.commit t.env.now op r s)
  | anchor {w : World} {r : Except Exc Unit} {s : Status} :
      t.config.analysisPolicy.autoSoftStop = true ->
      (t.env.Leaves (softStopsField.entry id) ->
        softStopsField.entry id w0.status = none ∧
        (softStopsField.entry id w.status = none ∨
          softStopsField.entry id w.status = some (freshAnchor t.env.now))) ->
      MapWrite t.env softStopsField id (some (freshAnchor t.env.now)) r w.status s ->
      SlaStep t w0 id w
        (w.commit t.env.now (.setSoftStop id (freshAnchor t.env.now)) r s)
  | retire {w : World} {record : SoftStopRecord} {r : Except Exc Unit}
      {s : Status} :
      Holds t w0 w id record -> ¬ t.env.AlwaysReportsStarted id -> Unvisited id w ->
      MapWrite t.env softStopsField id none r w.status s ->
      SlaStep t w0 id w (w.commit t.env.now (.clearSoftStop id) r s)
  | softStop {w w' : World} {record : SoftStopRecord} :
      Watches t w0 w id record -> record.outcome = .watching ->
      maxRuntimeOf t < t.env.now - record.issuedAt -> Unvisited id w ->
      Acts t (.softStopAnalysis id) .warning analysisSoftStoppedEvent
        (.setSoftStop id (softStoppedRecord t.config record))
        (MapWrite t.env softStopsField id (some (softStoppedRecord t.config record)))
        w w' ->
      SlaStep t w0 id w w'
  | stop {w w' : World} {record : SoftStopRecord} :
      Watches t w0 w id record -> record.outcome = .issued ->
      graceOf t < t.env.now - record.issuedAt -> Unvisited id w ->
      stoppedAnalysesField.entry id w.status = none ->
      Acts t (.stopAnalysis id) .warning analysisStoppedEvent
        (.setStopRecord id (stopIssuedRecord t.config t.env.now))
        (MapWrite t.env stoppedAnalysesField id
          (some (stopIssuedRecord t.config t.env.now)))
        w w' ->
      SlaStep t w0 id w w'
  | stopSettled {w : World} {record : SoftStopRecord} {stop new : StopRecord}
      {r : Except Exc Unit} {s : Status} :
      AwaitsStop t w0 w id record stop ->
      MapWrite t.env stoppedAnalysesField id (some new) r w.status s ->
      SlaStep t w0 id w (w.commit t.env.now (.setStopRecord id new) r s)
  | stopPruned {w : World} {record : SoftStopRecord} {stop : StopRecord}
      {r : Except Exc Unit} {s : Status} :
      AwaitsStop t w0 w id record stop -> stop.stoppedAt.isSome ->
      MapWrite t.env stoppedAnalysesField id none r w.status s ->
      SlaStep t w0 id w (w.commit t.env.now (.pruneStopRecord id) r s)
  | resolve {w : World} {record : SoftStopRecord} {event : Event} :
      Escalates t w0 w id record -> event.Resolves id ->
      SlaStep t w0 id w (w.log t.env.now event)
  | pass {w w' : World} {record : SoftStopRecord} :
      Escalates t w0 w id record -> Untried id w -> Pass t id w w' ->
      SlaStep t w0 id w w'

/-!
## Block lemmas
-/

/-- Other maps than the written one keep their entries. -/
theorem Env.KeepsBut.entry {record record' : Type} {env : Env}
    {field : MapField record} {field' : MapField record'} {s s' : Status}
    (h : env.KeepsBut field s s') {k : String}
    (hwrite : forall d u, field'.read (field.write d u) = field'.read u)
    (hleaves : env.Leaves (field'.entry k)) :
    field'.entry k s' = field'.entry k s := by
  apply h _ (field'.entry k) hleaves
  intro d u
  unfold MapField.entry
  rw [hwrite]

@[simp] theorem World.logAll_status (time : Instant) :
    forall (events : List Event) (w : World), (w.logAll time events).status = w.status
  | [], _ => rfl
  | event :: events, w => World.logAll_status time events (w.log time event)

theorem World.logAll_log (time : Instant) (event : Event) :
    forall (events : List Event) (w : World),
      (w.logAll time events).log time event = w.logAll time (events ++ [event])
  | [], _ => rfl
  | e :: events, w => World.logAll_log time event events (w.log time e)

theorem Pass.status_cases {t : Tick} {id : String} {w w' : World}
    (h : Pass t id w w') :
    w'.status = w.status ∨
      exists outcome r, MarkWrite t.env id t.env.now outcome r w.status w'.status := by
  cases h with
  | raised deletes _ =>
      left
      simp only [World.log_status, World.logAll_status]
  | unannounced deletes message e _ =>
      left
      simp only [World.log_status, World.logAll_status]
  | unmarked deletes message e outcome s _ hmark => exact Or.inr ⟨outcome, _, hmark⟩
  | marked deletes message outcome s _ hmark => exact Or.inr ⟨outcome, _, hmark⟩

theorem World.logAll_latest (initial : Status) (time : Instant) :
    forall (events : List Event) {w : World},
      latestStatus initial w.trace = w.status ->
        latestStatus initial (w.logAll time events).trace =
          (w.logAll time events).status
  | [], _, h => h
  | event :: events, w, _ =>
      World.logAll_latest initial time events (w := w.log time event) rfl

/-!
## What a step appends
-/

theorem Appends.logAll {t : Tick} {id : String} {w : World} (deletes : List Event) :
    forall {w' : World}, Appends t w w' -> DeletesPodsOf id deletes ->
      Appends t w (w'.logAll t.env.now deletes) := by
  induction deletes with
  | nil =>
      intro w' h _
      exact h
  | cons event deletes ih =>
      intro w' h hdeletes
      have hevent : forall config, event ≠ .tickStart config := by
        intro config heq
        rcases hdeletes event List.mem_cons_self with ⟨podName, grace, r, hpod⟩
        rw [hpod] at heq
        cases heq
      exact ih (h.log hevent) fun e he => hdeletes e (List.mem_cons_of_mem event he)

theorem Pass.appends {t : Tick} {id : String} {w w' : World} (h : Pass t id w w') :
    Appends t w w' := by
  have hpassed : Appends t w (w.log t.env.now (.escalationPass id)) :=
    (Appends.refl t w).log (by simp)
  cases h with
  | raised deletes hdeletes => exact (hpassed.logAll deletes hdeletes).log (by simp)
  | unannounced deletes message e hdeletes =>
      exact ((hpassed.logAll deletes hdeletes).log (by simp)).log (by simp)
  | unmarked deletes message e outcome s hdeletes _ =>
      exact (((hpassed.logAll deletes hdeletes).log (by simp)).commit).log (by simp)
  | marked deletes message outcome s hdeletes _ =>
      exact ((hpassed.logAll deletes hdeletes).log (by simp)).commit

theorem SlaStep.appends {t : Tick} {w0 w w' : World} {id : String}
    (h : SlaStep t w0 id w w') : Appends t w w' := by
  have hstart := Appends.refl t w
  cases h with
  | query hquery =>
      apply hstart.log
      intro config hevent
      rw [hevent] at hquery
      exact hquery
  | look _ _ => exact hstart.commit
  | anchor _ _ _ => exact hstart.commit
  | retire _ _ _ _ => exact hstart.commit
  | softStop _ _ _ _ hacts => exact hacts.appends
  | stop _ _ _ _ _ hacts => exact hacts.appends
  | stopSettled _ _ => exact hstart.commit
  | stopPruned _ _ _ => exact hstart.commit
  | resolve _ hresolves =>
      apply hstart.log
      intro config hevent
      rw [hevent] at hresolves
      exact hresolves
  | pass _ _ hpass => exact hpass.appends

/-!
## What a step leaves alone
-/

/-- The entries of another analysis stay, or are dropped by the cap. -/
structure Undisturbed (t : Tick) (k : String) (w w' : World) : Prop where
  softStop : t.env.Leaves (softStopsField.entry k) ->
    softStopsField.entry k w'.status = softStopsField.entry k w.status ∨
      softStopsField.entry k w'.status = none
  stop : t.env.Leaves (stoppedAnalysesField.entry k) ->
    stoppedAnalysesField.entry k w'.status = stoppedAnalysesField.entry k w.status ∨
      stoppedAnalysesField.entry k w'.status = none

section Frame

variable {t : Tick} {w0 w w' w'' : World} {id k : String}

theorem Undisturbed.of_status (h : w'.status = w.status) : Undisturbed t k w w' where
  softStop := fun _ => Or.inl (by rw [h])
  stop := fun _ => Or.inl (by rw [h])

theorem Undisturbed.trans (h : Undisturbed t k w w') (h' : Undisturbed t k w' w'') :
    Undisturbed t k w w'' where
  softStop := by
    intro hleaves
    rcases h'.softStop hleaves with hsame | hnone
    · rw [hsame]
      exact h.softStop hleaves
    · exact Or.inr hnone
  stop := by
    intro hleaves
    rcases h'.stop hleaves with hsame | hnone
    · rw [hsame]
      exact h.stop hleaves
    · exact Or.inr hnone

theorem undisturbed_of_softStopsWrite {encoded : Option SoftStopRecord}
    {r : Except Exc Unit} (hne : k ≠ id)
    (h : MapWrite t.env softStopsField id encoded r w.status w'.status) :
    Undisturbed t k w w' where
  softStop := by
    intro hleaves
    rcases h.other k hne hleaves with hsame | ⟨hnone, _⟩
    · exact Or.inl hsame
    · exact Or.inr hnone
  stop := fun hleaves => Or.inl (h.frame.entry (fun _ _ => rfl) hleaves)

theorem undisturbed_of_stopsWrite {encoded : Option StopRecord}
    {r : Except Exc Unit} (hne : k ≠ id)
    (h : MapWrite t.env stoppedAnalysesField id encoded r w.status w'.status) :
    Undisturbed t k w w' where
  softStop := fun hleaves => Or.inl (h.frame.entry (fun _ _ => rfl) hleaves)
  stop := by
    intro hleaves
    rcases h.other k hne hleaves with hsame | ⟨hnone, _⟩
    · exact Or.inl hsame
    · exact Or.inr hnone

theorem undisturbed_of_mark {outcome : EscalationOutcome} {r : Except Exc Unit}
    (hne : k ≠ id)
    (h : MarkWrite t.env id t.env.now outcome r w.status w'.status) :
    Undisturbed t k w w' where
  softStop := fun hleaves => Or.inl (h.other k hne hleaves)
  stop := fun hleaves => Or.inl (h.frame.entry (fun _ _ => rfl) hleaves)

theorem SlaStep.undisturbed (hne : k ≠ id) (h : SlaStep t w0 id w w') :
    Undisturbed t k w w' := by
  cases h with
  | query _ => exact Undisturbed.of_status rfl
  | look _ hkeeps =>
      constructor
      · intro hleaves
        exact Or.inl (hkeeps _ _ hleaves)
      · intro hleaves
        exact Or.inl (hkeeps _ _ hleaves)
  | anchor _ _ hwrite => exact undisturbed_of_softStopsWrite hne hwrite
  | retire _ _ _ hwrite => exact undisturbed_of_softStopsWrite hne hwrite
  | softStop _ _ _ _ hacts =>
      rcases hacts.status_cases with hsame | ⟨r, hwrite⟩
      · exact Undisturbed.of_status hsame
      · exact undisturbed_of_softStopsWrite hne hwrite
  | stop _ _ _ _ _ hacts =>
      rcases hacts.status_cases with hsame | ⟨r, hwrite⟩
      · exact Undisturbed.of_status hsame
      · exact undisturbed_of_stopsWrite hne hwrite
  | stopSettled _ hwrite => exact undisturbed_of_stopsWrite hne hwrite
  | stopPruned _ _ hwrite => exact undisturbed_of_stopsWrite hne hwrite
  | resolve _ _ => exact Undisturbed.of_status rfl
  | pass _ _ hpass =>
      rcases hpass.status_cases with hsame | ⟨outcome, r, hmark⟩
      · exact Undisturbed.of_status hsame
      · exact undisturbed_of_mark hne hmark

theorem Idle.logAll {p : Event -> Prop} {time : Instant}
    (hp : forall podName grace r, ¬ p (.mutate (.deletePod id podName grace) r)) :
    forall {deletes : List Event} {w' : World}, Idle p w w' ->
      DeletesPodsOf id deletes -> Idle p w (w'.logAll time deletes)
  | [], _, h, _ => h
  | event :: deletes, w', h, hdeletes => by
      have hevent : ¬ p event := by
        rcases hdeletes event List.mem_cons_self with ⟨podName, grace, r, hpod⟩
        rw [hpod]
        exact hp podName grace r
      have hrest : DeletesPodsOf id deletes :=
        fun e he => hdeletes e (List.mem_cons_of_mem event he)
      show Idle p w ((w'.log time event).logAll time deletes)
      exact Idle.logAll hp (h.log time hevent) hrest

theorem Pass.idle {p : Event -> Prop} (h : Pass t id w w')
    (hpass : ¬ p (.escalationPass id)) (hraised : ¬ p (.escalationRaised id))
    (hdelete : forall podName grace r, ¬ p (.mutate (.deletePod id podName grace) r))
    (hemit : forall message r, ¬ p (.emit .warning analysisEscalatedEvent message r))
    (hmark : forall outcome r,
      ¬ p (.store (.markSoftStopEscalated id t.env.now outcome) r)) : Idle p w w' := by
  have hloop : forall deletes, DeletesPodsOf id deletes -> Idle p w
      ((w.log t.env.now (.escalationPass id)).logAll t.env.now deletes) :=
    fun deletes hdeletes => ((Idle.refl p w).log _ hpass).logAll hdelete hdeletes
  cases h with
  | raised deletes hdeletes => exact (hloop deletes hdeletes).log _ hraised
  | unannounced deletes message e hdeletes =>
      exact ((hloop deletes hdeletes).log _ (hemit _ _)).log _ hraised
  | unmarked deletes message e outcome s hdeletes _ =>
      exact (((hloop deletes hdeletes).log _ (hemit _ _)).commit _ _ (hmark _ _)).log _ hraised
  | marked deletes message outcome s hdeletes _ =>
      exact ((hloop deletes hdeletes).log _ (hemit _ _)).commit _ _ (hmark _ _)

theorem Event.IsSlaQuery.not_visits {event : Event} (h : event.IsSlaQuery) :
    ¬ event.Visits k := by
  cases event with
  | mutate m r => exact absurd h not_false
  | suppressed m => exact absurd h not_false
  | store op r => exact absurd h not_false
  | escalationPass analysisId => exact absurd h not_false
  | escalationRaised analysisId => exact absurd h not_false
  | _ => exact not_false

theorem Event.Resolves.not_visits {event : Event} (h : event.Resolves id) :
    ¬ event.Visits k := by
  cases event with
  | mutate m r => exact absurd h not_false
  | suppressed m => exact absurd h not_false
  | store op r => exact absurd h not_false
  | escalationPass analysisId => exact absurd h not_false
  | escalationRaised analysisId => exact absurd h not_false
  | _ => exact not_false

theorem StoreOp.IsSlaRead.not_visits {op : StoreOp} (h : op.IsSlaRead)
    (r : Except Exc Unit) : ¬ (Event.store op r).Visits k := by
  cases op with
  | clearSoftStop analysisId => exact absurd h not_false
  | setStopRecord analysisId record => exact absurd h not_false
  | _ => exact not_false

/-- The steps of one analysis visit no other. -/
theorem SlaStep.idle (hne : k ≠ id) (h : SlaStep t w0 id w w') :
    Idle (Event.Visits k) w w' := by
  have hrefl := Idle.refl (Event.Visits k) w
  have hother : ¬ id = k := fun heq => hne heq.symm
  cases h with
  | query hquery => exact hrefl.log _ hquery.not_visits
  | look hop _ => exact hrefl.commit _ _ (hop.not_visits _)
  | anchor _ _ _ => exact hrefl.commit _ _ not_false
  | retire _ _ _ _ => exact hrefl.commit _ _ hother
  | softStop _ _ _ _ hacts =>
      exact hacts.idle (fun _ => hother) hother (fun _ _ => not_false) (fun _ => not_false)
  | stop _ _ _ _ _ hacts =>
      exact hacts.idle (fun _ => hother) hother (fun _ _ => not_false) (fun _ => hother)
  | stopSettled _ _ => exact hrefl.commit _ _ hother
  | stopPruned _ _ _ => exact hrefl.commit _ _ not_false
  | resolve _ hresolves => exact hrefl.log _ hresolves.not_visits
  | pass _ _ hpass =>
      exact hpass.idle hother hother (fun _ _ _ => not_false) (fun _ _ => not_false)
        (fun _ _ => not_false)

/-- Only the soft stop and the pass of an analysis try anything for it. -/
theorem SlaStep.tries (h : SlaStep t w0 id w w') :
    Idle (Event.Tries k) w w' ∨ (k = id ∧
      ((exists record, Watches t w0 w id record ∧ record.outcome = .watching ∧
        Untried id w ∧
        Acts t (.softStopAnalysis id) .warning analysisSoftStoppedEvent
          (.setSoftStop id (softStoppedRecord t.config record))
          (MapWrite t.env softStopsField id (some (softStoppedRecord t.config record)))
          w w') ∨
      (exists record, Escalates t w0 w id record ∧ Untried id w ∧ Pass t id w w'))) := by
  rcases eq_or_ne k id with heq | hne
  · subst heq
    have hrefl := Idle.refl (Event.Tries k) w
    cases h with
    | query hquery =>
        exact Or.inl (hrefl.log _ fun htries => hquery.not_visits htries.visits)
    | look _ _ => exact Or.inl (hrefl.commit _ _ not_false)
    | anchor _ _ _ => exact Or.inl (hrefl.commit _ _ not_false)
    | retire _ _ _ _ => exact Or.inl (hrefl.commit _ _ not_false)
    | softStop hwatches hwatching _ hunvisited hacts =>
        exact Or.inr ⟨rfl, Or.inl ⟨_, hwatches, hwatching, hunvisited.untried, hacts⟩⟩
    | stop _ _ _ _ _ hacts =>
        exact Or.inl (hacts.idle (fun _ => not_false) not_false (fun _ _ => not_false)
          (fun _ => not_false))
    | stopSettled _ _ => exact Or.inl (hrefl.commit _ _ not_false)
    | stopPruned _ _ _ => exact Or.inl (hrefl.commit _ _ not_false)
    | resolve _ hresolves =>
        exact Or.inl (hrefl.log _ fun htries => hresolves.not_visits htries.visits)
    | pass hescalates huntried hpass =>
        exact Or.inr ⟨rfl, Or.inr ⟨_, hescalates, huntried, hpass⟩⟩
  · exact Or.inl ((h.idle hne).mono fun _ => Event.Tries.visits)

/-- The steps of one subject. -/
def SlaSteps (t : Tick) (w0 : World) (id : String) : World -> World -> Prop :=
  Relation.ReflTransGen (SlaStep t w0 id)

theorem SlaSteps.undisturbed (hne : k ≠ id) (h : SlaSteps t w0 id w w') :
    Undisturbed t k w w' := by
  induction h with
  | refl => exact Undisturbed.of_status rfl
  | tail _ hstep ih => exact ih.trans (hstep.undisturbed hne)

theorem SlaSteps.idle (hne : k ≠ id) (h : SlaSteps t w0 id w w') :
    Idle (Event.Visits k) w w' := by
  induction h with
  | refl => exact Idle.refl _ w
  | tail _ hstep ih => exact ih.trans (hstep.idle hne)

end Frame

end OpenStudioOperator
