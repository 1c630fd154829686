import OpenStudioOperator.DryRunParity
import OpenStudioOperator.Foundation.PyText
import OpenStudioOperator.OperatorRuns

/-!
# Events and their counters

Every tick has an emitter of its own.  A live one posts the Events of the tick and counts
them; under the flag it counts them as suppressed.  So the counters of a dry operator tell
beforehand what the live one would post.
-/

namespace OpenStudioOperator
namespace Events

open Foundation
open DryRun (Alike SameObservations MutationsSucceed seen seenEntry seenTrace)

/-!
## The emitter
-/

/-- `EventEmitter`, with the labels of its resource. -/
structure EventEmitter where
  body : Json
  crNamespace : String
  name : String
  dryRun : Bool
  suppressedCount : Nat := 0

/-- `str(metadata.get(key) or "<unknown>")`. -/
def labelOf (unicode : UnicodeData) (metadata : List (String × Json)) (key : String) : String :=
  let value := (metadata.lookup key).getD .null
  if value.truthy then value.pyStr unicode else "<unknown>"

/-- `EventEmitter.__init__`; a body without metadata has placeholders for labels. -/
def EventEmitter.ofBody (unicode : UnicodeData) (body : Json) (dryRun : Bool) : EventEmitter :=
  let metadata :=
    match body with
    | .obj members =>
        match members.lookup "metadata" with
        | some (.obj metadata) => metadata
        | _ => []
    | _ => []
  { body := body
    crNamespace := labelOf unicode metadata "namespace"
    name := labelOf unicode metadata "name"
    dryRun := dryRun }

/-- An Event that `kopf.event` has posted on a body. -/
structure PostedEvent where
  body : Json
  type : EventType
  reason : String
  message : String

/-- The counters, each by the namespace, the name and the reason, and the posted Events. -/
structure EventLog where
  emitted : Dict (String × String × String) Nat := .empty
  dryRunSuppressed : Dict (String × String × String) Nat := .empty
  emitFailures : Dict (String × String × String) Nat := .empty
  posted : List PostedEvent := []

/-- `EventEmitter.emit`, where `kopf.event` comes to `post`. -/
def EventEmitter.emit (post : Except Exc Unit) (type : EventType) (reason message : String)
    (emitter : EventEmitter) (log : EventLog) : Except Exc Unit × EventEmitter × EventLog :=
  let labels := (emitter.crNamespace, emitter.name, reason)
  if emitter.dryRun then
    (.ok (), { emitter with suppressedCount := emitter.suppressedCount + 1 },
      { log with dryRunSuppressed := log.dryRunSuppressed.increment labels })
  else
    match post with
    | .error e =>
        (.error e, emitter, { log with emitFailures := log.emitFailures.increment labels })
    | .ok () =>
        (.ok (), emitter,
          { log with
            emitted := log.emitted.increment labels
            posted := log.posted ++ [⟨emitter.body, type, reason, message⟩] })

/-!
## Ticks and their emitters
-/

/-- The calls of a tick on its emitter, the newest entry first. -/
def emitAll : Trace -> EventEmitter × EventLog -> EventEmitter × EventLog
  | [], s => s
  | e :: older, s =>
      let before := emitAll older s
      match e.event with
      | .emit type reason message r => (before.1.emit r type reason message before.2).2
      | _ => before

/-- A tick of a handler, with the body that its emitter is made of.  Under the flag no call on
the emitter raises. -/
structure EmittingTick where
  handler : Handler
  tick : Tick
  body : Json
  answers : tick.config.dryRun = true -> forall trace type reason message,
    tick.env.emit trace type reason message = .ok ()

/-- The same tick without the flag; of the body the emitter reads the metadata alone. -/
def EmittingTick.goLive (s : EmittingTick) : EmittingTick where
  handler := s.handler
  tick := DryRun.Tick.goLive s.tick
  body := s.body
  answers := nofun

section Runs

variable (unicode : UnicodeData) (text : TextOps)

/-- One tick: the handler runs, and its Events go through the emitter. -/
def EmittingTick.run (s : EmittingTick) (state : World × EventLog) : World × EventLog :=
  let after := s.handler.run text s.tick state.1
  let emitter := EventEmitter.ofBody unicode s.body s.tick.config.dryRun
  (after, (emitAll (currentTick after.trace) (emitter, state.2)).2)

def runEmitting : List EmittingTick -> World × EventLog -> World × EventLog
  | [], state => state
  | s :: later, state => runEmitting later (s.run unicode text state)

end Runs

/-!
## Calls on an emitter
-/

/-- The type, the reason and the outcome of an Event. -/
def callOf : Event -> Option (EventType × String × Except Exc Unit)
  | .emit type reason _ r => some (type, reason, r)
  | _ => none

theorem callOf_seen (event : Event) : callOf (seen event) = callOf event := by
  cases event <;> rfl

section Calls

variable {e : Entry} {older : Trace} {s : EventEmitter × EventLog}

theorem emitAll_cons_of_none (h : callOf e.event = none) :
    emitAll (e :: older) s = emitAll older s := by
  cases hevent : e.event with
  | emit type reason message r =>
      rw [hevent] at h
      cases h
  | _ => simp only [emitAll, hevent]

theorem emitAll_cons_of_some {type : EventType} {reason : String} {r : Except Exc Unit}
    (h : callOf e.event = some (type, reason, r)) : exists message,
      emitAll (e :: older) s =
        ((emitAll older s).1.emit r type reason message (emitAll older s).2).2 := by
  cases hevent : e.event <;> rw [hevent] at h <;> cases h
  rename_i message
  refine ⟨message, ?_⟩
  rw [emitAll, hevent]

end Calls

theorem opensTick_seenEntry (e : Entry) : (seenEntry e).opensTick = e.opensTick := by
  cases hevent : e.event <;> simp only [Entry.opensTick, seenEntry, seen, hevent]

theorem currentTick_cons_eq (e : Entry) (older : Trace) :
    currentTick (e :: older) = if e.opensTick then [] else e :: currentTick older := by
  cases hevent : e.event <;> simp [currentTick, Entry.opensTick, hevent]

theorem seenTrace_currentTick (trace : Trace) :
    seenTrace (currentTick trace) = currentTick (seenTrace trace) := by
  induction trace with
  | nil => rfl
  | cons e older ih =>
      show _ = currentTick (seenEntry e :: seenTrace older)
      rw [currentTick_cons_eq, currentTick_cons_eq, opensTick_seenEntry, <- ih]
      split <;> rfl

/-!
## Next to the live run
-/

/-- What a counter shows under its labels. -/
def count {labels : Type} [DecidableEq labels] (counter : Dict labels Nat) (l : labels) : Nat :=
  (counter.get? l).getD 0

theorem count_increment {labels : Type} [DecidableEq labels] (counter : Dict labels Nat)
    (k l : labels) : count (counter.increment k) l = count counter l + (decide (k = l)).toNat := by
  unfold count Dict.increment
  by_cases h : k = l
  · rw [h, Dict.get?_set_self, decide_eq_true rfl]
    rfl
  · rw [Dict.get?_set_of_ne _ _ (Ne.symm h), decide_eq_false h]
    rfl

/-- What two Events share that differ in the text. -/
def PostedEvent.kind (e : PostedEvent) : Json × EventType × String := (e.body, e.type, e.reason)

/-- The counters of a run with dry ticks tell those of the live run: every Event that the live
run hands over, by its labels, is suppressed, posted or refused here, and what is posted here
is posted there, in the same order. -/
structure Predicts (flipped live : EventLog) : Prop where
  calls : forall l,
    count flipped.dryRunSuppressed l + count flipped.emitted l + count flipped.emitFailures l =
      count live.emitted l + count live.emitFailures l
  emitted : forall l, count flipped.emitted l <= count live.emitted l
  failures : forall l, count flipped.emitFailures l <= count live.emitFailures l
  suppressed : live.dryRunSuppressed = .empty
  posted : (flipped.posted.map PostedEvent.kind).Sublist (live.posted.map PostedEvent.kind)

/-- The emitter of a tick, and the one of the live tick. -/
structure Twins (emitter live : EventEmitter) : Prop where
  notDry : live.dryRun = false
  body : emitter.body = live.body
  crNamespace : emitter.crNamespace = live.crNamespace
  name : emitter.name = live.name

section Prediction

variable {emitter emitter' : EventEmitter} {log log' : EventLog}

theorem Predicts.refl_empty : Predicts {} {} where
  calls := fun _ => rfl
  emitted := fun _ => Nat.le_refl _
  failures := fun _ => Nat.le_refl _
  suppressed := rfl
  posted := List.Sublist.refl _

/-- An emitter changes in its count alone. -/
theorem emitter_emit (r : Except Exc Unit) (type : EventType) (reason message : String) :
    (emitter.emit r type reason message log).2.1 =
      { emitter with suppressedCount := emitter.suppressedCount + emitter.dryRun.toNat } := by
  rcases emitter with ⟨body, crNamespace, name, dryRun, suppressedCount⟩
  cases dryRun <;> cases r <;> rfl

theorem Twins.emit (h : Twins emitter emitter') (r : Except Exc Unit) (type : EventType)
    (reason message message' : String) :
    Twins (emitter.emit r type reason message log).2.1
      (emitter'.emit r type reason message' log').2.1 := by
  rw [emitter_emit, emitter_emit]
  exact ⟨h.notDry, h.body, h.crNamespace, h.name⟩

theorem Predicts.emit (htwins : Twins emitter emitter') (h : Predicts log log')
    (r : Except Exc Unit) (type : EventType) (reason message message' : String) :
    Predicts (emitter.emit r type reason message log).2.2
      (emitter'.emit r type reason message' log').2.2 := by
  unfold EventEmitter.emit
  rw [htwins.notDry, htwins.crNamespace, htwins.name, htwins.body]
  constructor
  · intro l
    have hcalls := h.calls l
    cases emitter.dryRun <;> cases r <;>
      simp only [if_true, Bool.false_eq_true, if_false, count_increment] <;> omega
  · intro l
    have hle := h.emitted l
    cases emitter.dryRun <;> cases r <;>
      simp only [if_true, Bool.false_eq_true, if_false, count_increment] <;> omega
  · intro l
    have hle := h.failures l
    cases emitter.dryRun <;> cases r <;>
      simp only [if_true, Bool.false_eq_true, if_false, count_increment] <;> omega
  · cases r <;> exact h.suppressed
  · cases r with
    | error e => cases emitter.dryRun <;> exact h.posted
    | ok a =>
        cases emitter.dryRun with
        | true =>
            rw [if_pos rfl, if_neg Bool.false_ne_true, List.map_append]
            exact h.posted.trans (List.sublist_append_left _ _)
        | false =>
            rw [if_neg Bool.false_ne_true, if_neg Bool.false_ne_true, List.map_append,
              List.map_append]
            exact h.posted.append (List.Sublist.refl _)

/-- Ticks that look alike make the same calls on their emitters. -/
theorem Predicts.emitAll (htwins : Twins emitter emitter') (h : Predicts log log') :
    forall {block block' : Trace}, seenTrace block = seenTrace block' ->
      Twins (emitAll block (emitter, log)).1 (emitAll block' (emitter', log')).1 ∧
        Predicts (emitAll block (emitter, log)).2 (emitAll block' (emitter', log')).2 := by
  intro block
  induction block with
  | nil =>
      intro block' hseen
      cases block' with
      | nil => exact ⟨htwins, h⟩
      | cons e' older' => cases hseen
  | cons e older ih =>
      intro block' hseen
      cases block' with
      | nil => cases hseen
      | cons e' older' =>
          rcases List.cons.inj hseen with ⟨hentry, holder⟩
          have hcall : callOf e.event = callOf e'.event := by
            rw [<- callOf_seen, <- callOf_seen e'.event]
            exact congrArg (fun entry => callOf entry.event) hentry
          rcases ih holder with ⟨htwins, hlog⟩
          cases hfound : callOf e.event with
          | none =>
              rw [emitAll_cons_of_none hfound, emitAll_cons_of_none (hcall.symm.trans hfound)]
              exact ⟨htwins, hlog⟩
          | some call =>
              rcases call with ⟨type, reason, r⟩
              rcases @emitAll_cons_of_some e older (emitter, log) _ _ _ hfound with
                ⟨message, hemit⟩
              rcases @emitAll_cons_of_some e' older' (emitter', log') _ _ _
                (hcall.symm.trans hfound) with ⟨message', hemit'⟩
              rw [hemit, hemit']
              exact ⟨htwins.emit r type reason message message',
                hlog.emit htwins r type reason message message'⟩

end Prediction

/-!
## Runs
-/

/-- The handlers that decide without regard to the flag. -/
def Predictable (h : Handler) : Prop :=
  h = .datapointWatchdog ∨ h = .webBackgroundMonitor ∨ h = .workerRecycler

theorem run_alike {h : Handler} (hpredictable : Predictable h) (text : TextOps) {t : Tick}
    (hsame : SameObservations t.env) (hsucceed : MutationsSucceed t.env) {w w' : World}
    (halike : Alike w w') : Alike (h.run text t w) (h.run text (DryRun.Tick.goLive t) w') := by
  have hlockstep := DryRun.lockstep_alike hsame hsucceed t.config
  rcases hpredictable with hh | hh | hh <;> rw [hh]
  · exact (DryRun.tick_alike hlockstep.runWatchdogTick halike).2
  · exact (DryRun.tick_alike hlockstep.runStallTick halike).2
  · exact (DryRun.tick_alike hlockstep.runRecyclerTick halike).2

section Counts

variable {unicode : UnicodeData} {text : TextOps}

/-- One tick, dry or live, next to the live one. -/
theorem run_predicts {s : EmittingTick} {w w' : World} {log log' : EventLog}
    (hpredictable : Predictable s.handler) (hsame : SameObservations s.tick.env)
    (hsucceed : MutationsSucceed s.tick.env) (halike : Alike w w') (h : Predicts log log') :
    Alike (s.run unicode text (w, log)).1 (s.goLive.run unicode text (w', log')).1 ∧
      Predicts (s.run unicode text (w, log)).2 (s.goLive.run unicode text (w', log')).2 := by
  have hafter := run_alike hpredictable text hsame hsucceed halike
  have hseen : seenTrace (currentTick (s.handler.run text s.tick w).trace) =
      seenTrace (currentTick (s.handler.run text (DryRun.Tick.goLive s.tick) w').trace) := by
    rw [seenTrace_currentTick, seenTrace_currentTick, hafter.trace]
  have htwins : Twins (EventEmitter.ofBody unicode s.body s.tick.config.dryRun)
      (EventEmitter.ofBody unicode s.body false) :=
    ⟨rfl, rfl, rfl, rfl⟩
  exact ⟨hafter, (Predicts.emitAll htwins h hseen).2⟩

end Counts

/-- A tick that sees one started datapoint, and work that nobody processes. -/
def previewTick (handler : Handler) (dryRun : Bool) (minute : Nat) : EmittingTick where
  handler := handler
  tick :=
    { env :=
        { Env.quiet (minutes minute) with
          listStartedDatapoints := fun _ => .ok [{ id := some "d" }]
          queueDepths := fun _ => .ok [("simulations", 3)]
          deploymentLabelSelector := fun _ _ => .ok (some "app=worker")
          listWorkerPods := fun _ _ =>
            .ok [{ phase := some "Running", conditions := [⟨some "Ready", some "True"⟩] }] }
      config := { dryRun := dryRun } }
  body := .obj [("metadata", .obj [("namespace", .str "ns"), ("name", .str "oscm")])]
  answers := fun _ _ _ _ _ => rfl

/-- The operator goes live after its first fifty minutes. -/
def previewRun : List EmittingTick :=
  [previewTick .datapointWatchdog true 0, previewTick .workerRecycler true 1,
    previewTick .webBackgroundMonitor true 2, previewTick .datapointWatchdog true 50,
    previewTick .webBackgroundMonitor false 51, previewTick .datapointWatchdog false 100]

/-- A requeue and a recycle are suppressed, and a restart and a second requeue are posted. -/
example :
    let log := (runEmitting UnicodeData.ascii sampleText previewRun ({}, {})).2
    count log.dryRunSuppressed ("ns", "oscm", datapointRequeuedEvent) = 1 ∧
      count log.dryRunSuppressed ("ns", "oscm", workerRecycledEvent) = 1 ∧
      log.posted.map PostedEvent.reason =
        [resqueKeyLayoutUnknownEvent, webBackgroundRestartedEvent, datapointRequeuedEvent] := by
  decide +kernel

end Events
end OpenStudioOperator
