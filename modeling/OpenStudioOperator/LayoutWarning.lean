import OpenStudioOperator.WebBackgroundMonitorTicks

/-!
# The warning about an unknown key layout

The clock of the warning starts inside the stall condition, on a tick that
finds work queued and no worker registered.  It is read after every tick that
evaluates the condition, also after one that found the queues idle.
-/

namespace OpenStudioOperator
namespace LayoutWarning

open Foundation

/-!
## What a tick sees
-/

/-- What one tick read of Redis, and how often it sent the warning. -/
structure Sighting where
  registry : Option (List String) := none
  depths : Option (List (String × Nat)) := none
  warnings : Nat := 0
deriving DecidableEq

def Sighting.add (s : Sighting) (event : Event) : Sighting :=
  match event with
  | .workerHeartbeats (.ok ids) => { s with registry := some ids }
  | .queueDepths (.ok depths) => { s with depths := some depths }
  | .emit _ reason _ _ =>
      if reason = resqueKeyLayoutUnknownEvent then { s with warnings := s.warnings + 1 } else s
  | _ => s

/-- The sighting of the calls of a tick, which stand newest first. -/
def sightingOf : Trace -> Sighting
  | [] => {}
  | e :: older => (sightingOf older).add e.event

/-- The tick found work in some queue. -/
def Sighting.Loaded (s : Sighting) : Prop :=
  exists depths, s.depths = some depths ∧ exists depth, depth ∈ depths ∧ 0 < depth.2

/-- The tick read the queues and found no work. -/
def Sighting.Idle (s : Sighting) : Prop :=
  exists depths, s.depths = some depths ∧ forall depth, depth ∈ depths -> depth.2 = 0

def sighting (t : Tick) (w : World) : Sighting :=
  sightingOf (currentTick (runTick runStallTick t w).trace)

/-- The sightings of a run with the times of their ticks, newest first, on top
of earlier ones. -/
def sightings : List Tick -> World -> List (Instant × Sighting) -> List (Instant × Sighting)
  | [], _, earlier => earlier
  | t :: later, w, earlier =>
      sightings later (runTick runStallTick t w) ((t.env.now, sighting t w) :: earlier)

/-!
## The law
-/

/-- A warning is the first one, comes under load with no worker registered then
or ever before, and long enough after a tick that found the same: since all
reads found the registry empty, so did those of the loaded ticks between. -/
structure Warranted (x : Instant × Sighting) (earlier : List (Instant × Sighting)) : Prop where
  single : x.2.warnings = 1
  first : forall y, y ∈ earlier -> y.2.warnings = 0
  loaded : x.2.Loaded
  empty : x.2.registry = some []
  unseen : forall y, y ∈ earlier -> forall ids, y.2.registry = some ids -> ids = []
  sustained : exists y, y ∈ earlier ∧ y.2.Loaded ∧ y.2.registry = some [] ∧
    layoutWarningGrace <= x.1 - y.1

/-- Every warning of the run is warranted by what the ticks up to it saw. -/
def WarnsUnderLoad (history : List (Instant × Sighting)) : Prop :=
  Throughout (fun x earlier => x.2.warnings ≠ 0 -> Warranted x earlier) history

/-!
## The condition
-/

/-- The warning is due: not sent yet, no worker seen, and the clock ran out. -/
def Due (now : Instant) (state : Leg2SafeguardState) : Prop :=
  state.layoutWarningEmitted = false ∧ state.maxWorkersSeen = 0 ∧
    exists since, state.emptyRegistrySince = some since ∧ layoutWarningGrace <= now - since

/-- The warning is due when a tick starts that finds the registry empty and the
queues idle. -/
def DueWhileIdle (t : Tick) (w : World) : Prop :=
  Due t.env.now w.memory.leg2 ∧ (sighting t w).registry = some [] ∧ (sighting t w).Idle

/-!
## What one tick does to the safeguard
-/

/-- The registry was read. -/
def seen (ids : List String) (state : Leg2SafeguardState) : Leg2SafeguardState :=
  { state with maxWorkersSeen := max state.maxWorkersSeen ids.length }

/-- The registry was judged under load. -/
def underLoad (now : Instant) (ids : List String) (state : Leg2SafeguardState) :
    Leg2SafeguardState :=
  { state with emptyRegistrySince :=
      if ids.isEmpty then some (state.emptyRegistrySince.getD now) else none }

/-- The diagnostic, with the number of warnings it sends. -/
inductive Diagnosed (now : Instant) (state : Leg2SafeguardState) :
    Nat -> Leg2SafeguardState -> Prop where
  | silent : ¬ Due now state -> Diagnosed now state 0 state
  | warned : Due now state ->
      Diagnosed now state 1 { state with layoutWarningEmitted := true }

/-- What a tick can see, and what it leaves of the safeguard. -/
inductive SafeguardTick (now : Instant) (state : Leg2SafeguardState) :
    Sighting -> Leg2SafeguardState -> Prop where
  | unsensed : SafeguardTick now state {} state
  | blind (ids : List String) :
      SafeguardTick now state { registry := some ids } (seen ids state)
  | idle (ids : List String) (depths : List (String × Nat)) (n : Nat)
      (state' : Leg2SafeguardState) :
      (forall depth, depth ∈ depths -> depth.2 = 0) ->
      Diagnosed now (seen ids state) n state' ->
      SafeguardTick now state
        { registry := some ids, depths := some depths, warnings := n } state'
  | raised (ids : List String) (depths : List (String × Nat)) :
      (exists depth, depth ∈ depths ∧ 0 < depth.2) ->
      SafeguardTick now state { registry := some ids, depths := some depths }
        (underLoad now ids (seen ids state))
  | judged (ids : List String) (depths : List (String × Nat)) (n : Nat)
      (state' : Leg2SafeguardState) :
      (exists depth, depth ∈ depths ∧ 0 < depth.2) ->
      Diagnosed now (underLoad now ids (seen ids state)) n state' ->
      SafeguardTick now state
        { registry := some ids, depths := some depths, warnings := n } state'

/-!
## The parts of a tick
-/

/-- Where a world stands: what its tick has seen, and the safeguard. -/
structure SafeguardAt (s : Sighting) (state : Leg2SafeguardState) (w : World) : Prop where
  sighting : sightingOf (currentTick w.trace) = s
  memory : w.memory.leg2 = state

section Parts

variable {s : Sighting} {state : Leg2SafeguardState} {env : Env} {w : World}

theorem SafeguardAt.add (h : SafeguardAt s state w) (time : Instant) (event : Event)
    (hevent : forall config, event ≠ .tickStart config) :
    SafeguardAt (s.add event) state (w.log time event) where
  sighting := by
    rw [World.log_trace, currentTick_cons hevent, sightingOf, h.sighting]
  memory := h.memory

theorem SafeguardAt.log (h : SafeguardAt s state w) (time : Instant) (event : Event)
    (hevent : forall config, event ≠ .tickStart config) (hadd : s.add event = s) :
    SafeguardAt s state (w.log time event) := by
  have hlogged := h.add time event hevent
  rwa [hadd] at hlogged

theorem SafeguardAt.commit (h : SafeguardAt s state w) (time : Instant) (op : StoreOp)
    (r : Except Exc Unit) (status : Status) :
    SafeguardAt s state (w.commit time op r status) where
  sighting := by
    rw [World.commit_trace, currentTick_cons fun _ => Event.noConfusion, sightingOf, h.sighting]
    rfl
  memory := h.memory

theorem preserves_call {alpha : Type} {answer : Env -> Trace -> Except Exc alpha}
    {event : Except Exc alpha -> Event}
    (hevent : forall r config, event r ≠ .tickStart config)
    (hadd : forall r, s.add (event r) = s) :
    Prog.Preserves (SafeguardAt s state) (call answer event) env := by
  intro w h
  apply wp_call
  · intro a _
    exact h.log env.now _ (hevent _) (hadd _)
  · intro e _
    exact h.log env.now _ (hevent _) (hadd _)

theorem preserves_note {event : Event} (hevent : forall config, event ≠ .tickStart config)
    (hadd : s.add event = s) :
    Prog.Preserves (SafeguardAt s state) (note event) env :=
  fun _ h => h.log env.now event hevent hadd

/-- Another Event. -/
theorem preserves_emit {type : EventType} {reason message : String}
    (hreason : reason ≠ resqueKeyLayoutUnknownEvent) :
    Prog.Preserves (SafeguardAt s state) (emit type reason message) env :=
  preserves_call (fun _ _ => Event.noConfusion) fun _ => if_neg hreason

theorem preserves_readStatus (op : StoreOp) :
    Prog.Preserves (SafeguardAt s state) (readStatus op) env := by
  intro w h
  apply wp_readStatus
  · intro status _
    exact h.commit _ _ _ _
  · intro status e _
    exact h.commit _ _ _ _

theorem preserves_mutateStatus {patch acc : Type} {op : StoreOp}
    {apply' : patch -> Status -> Status}
    {build : acc -> Status -> Except Exc (Option patch × acc)} {init : acc} :
    Prog.Preserves (SafeguardAt s state) (mutateStatus op apply' build init) env := by
  intro w h
  apply wp_mutateStatus
  · intro a _
    exact h.commit _ _ _ _
  · intro e _
    exact h.commit _ _ _ _

theorem preserves_setStallTracker (tracker : StallWindowTracker) :
    Prog.Preserves (SafeguardAt s state) (setStallTracker tracker) env :=
  fun _ h => ⟨h.sighting, h.memory⟩

theorem preserves_onlyIf {c : Bool} {m : OpM Unit}
    (hm : Prog.Preserves (SafeguardAt s state) m env) :
    Prog.Preserves (SafeguardAt s state) (onlyIf c m) env :=
  Prog.Preserves.ite (fun _ => hm) fun _ => Prog.Preserves.pure ()

theorem preserves_read {P : World -> Prop} :
    Prog.Preserves P (read : OpM Env) env :=
  fun _ h => h

theorem preserves_processMemory {P : World -> Prop} :
    Prog.Preserves P processMemory env :=
  fun _ h => h

theorem preserves_stallTracker :
    Prog.Preserves (SafeguardAt s state) stallTracker env :=
  Prog.Preserves.bind preserves_processMemory fun _ => Prog.Preserves.pure _

theorem preserves_mutateUnless (dryRun : Bool) (m : Mutation) :
    Prog.Preserves (SafeguardAt s state) (mutateUnless dryRun m) env := by
  unfold mutateUnless
  apply Prog.Preserves.ite
  · intro _
    exact preserves_note (fun _ => Event.noConfusion) rfl
  · intro _
    exact preserves_call (fun _ _ => Event.noConfusion) fun _ => rfl

theorem preserves_observeStall (window : Duration) (holds : Bool) :
    Prog.Preserves (SafeguardAt s state) (observeStall window holds) env := by
  unfold observeStall
  apply Prog.Preserves.bind preserves_read
  intro env'
  apply Prog.Preserves.bind preserves_stallTracker
  intro tracker
  apply Prog.Preserves.bind
  · apply preserves_onlyIf
    apply Prog.Preserves.bind
    · exact Prog.Preserves.bind (preserves_readStatus _) fun _ => Prog.Preserves.pure _
    · intro persisted
      exact preserves_onlyIf (preserves_setStallTracker _)
  intro _
  apply Prog.Preserves.bind preserves_stallTracker
  intro tracker'
  apply Prog.Preserves.bind (preserves_setStallTracker _)
  intro _
  apply Prog.Preserves.ite
  · intro _
    exact Prog.Preserves.bind preserves_mutateStatus fun _ => Prog.Preserves.pure _
  · intro _
    exact Prog.Preserves.bind (preserves_onlyIf preserves_mutateStatus)
      fun _ => Prog.Preserves.pure _

theorem preserves_restartCycleArmed (lastRestart : Option Instant) :
    Prog.Preserves (SafeguardAt s state) (restartCycleArmed lastRestart) env := by
  unfold restartCycleArmed
  apply Prog.Preserves.ite
  · intro _
    exact Prog.Preserves.pure _
  · intro _
    exact Prog.Preserves.bind
      (Prog.Preserves.bind (preserves_readStatus _) fun _ => Prog.Preserves.pure _)
      fun _ => Prog.Preserves.pure _

theorem preserves_concludeCleanWindow (window : Duration) (lastRestart : Option Instant) :
    Prog.Preserves (SafeguardAt s state) (concludeCleanWindow window lastRestart) env := by
  unfold concludeCleanWindow
  apply Prog.Preserves.bind preserves_read
  intro env'
  apply Prog.Preserves.bind preserves_stallTracker
  intro tracker
  apply preserves_onlyIf
  apply Prog.Preserves.bind (preserves_restartCycleArmed lastRestart)
  intro armed
  apply preserves_onlyIf
  apply Prog.Preserves.bind preserves_mutateStatus
  intro _
  apply Prog.Preserves.bind (preserves_onlyIf preserves_mutateStatus)
  intro _
  exact preserves_note (fun _ => Event.noConfusion) rfl

theorem preserves_restartDeferred (window : Duration) (lastRestart : Option Instant) :
    Prog.Preserves (SafeguardAt s state) (restartDeferred window lastRestart) env := by
  unfold restartDeferred
  apply Prog.Preserves.bind preserves_read
  intro env'
  cases lastRestart with
  | none => exact Prog.Preserves.pure _
  | some last =>
      exact Prog.Preserves.bind
        (Prog.Preserves.bind (preserves_readStatus _) fun _ => Prog.Preserves.pure _)
        fun _ => Prog.Preserves.pure _

theorem preserves_countIneffective (lastRestart : Option Instant) :
    Prog.Preserves (SafeguardAt s state) (countIneffective lastRestart) env := by
  unfold countIneffective
  apply preserves_onlyIf
  apply Prog.Preserves.bind
  · exact Prog.Preserves.bind (preserves_readStatus _) fun _ => Prog.Preserves.pure _
  · intro ineffective
    apply Prog.Preserves.bind preserves_mutateStatus
    intro _
    exact preserves_onlyIf (preserves_emit (by decide))

theorem preserves_restartWebBackground (config : OperatorConfig) (window : Duration)
    (lastRestart : Option Instant) :
    Prog.Preserves (SafeguardAt s state) (restartWebBackground config window lastRestart)
      env := by
  unfold restartWebBackground
  apply Prog.Preserves.bind preserves_read
  intro env'
  apply Prog.Preserves.bind (preserves_mutateUnless _ _)
  intro _
  apply Prog.Preserves.bind (preserves_emit (by decide))
  intro _
  apply Prog.Preserves.bind preserves_mutateStatus
  intro _
  apply Prog.Preserves.bind preserves_mutateStatus
  intro _
  apply Prog.Preserves.bind (preserves_countIneffective lastRestart)
  intro _
  exact preserves_setStallTracker _

theorem preserves_workerPodsHealthy (deployment : String) :
    Prog.Preserves (SafeguardAt s state) (workerPodsHealthy deployment) env := by
  unfold workerPodsHealthy
  apply Prog.Preserves.bind (preserves_call (fun _ _ => Event.noConfusion) fun _ => rfl)
  intro selector
  cases selector with
  | none => exact Prog.Preserves.pure _
  | some selector =>
      apply Prog.Preserves.ite
      · intro _
        exact Prog.Preserves.pure _
      · intro _
        exact Prog.Preserves.bind (preserves_call (fun _ _ => Event.noConfusion) fun _ => rfl)
          fun _ => Prog.Preserves.pure _

end Parts

/-!
## The tick
-/

section SafeguardTick

variable {s : Sighting} {state : Leg2SafeguardState} {env : Env} {w : World}

theorem due_iff : Due env.now state <->
    ¬ (state.layoutWarningEmitted = true ∨ 0 < state.maxWorkersSeen) ∧
      exists since, state.emptyRegistrySince = some since ∧
        layoutWarningGrace <= env.now - since := by
  unfold Due
  rw [not_or, Bool.not_eq_true, Nat.not_lt, Nat.le_zero, and_assoc]

/-- The diagnostic after a tick that has sent nothing yet. -/
theorem wp_warn (h : SafeguardAt s state w) (hnone : s.warnings = 0) :
    Prog.wp warnResqueLayoutUnknown env w
      (fun _ w' => exists n state', Diagnosed env.now state n state' ∧
        SafeguardAt { s with warnings := n } state' w')
      (fun _ _ => False) := by
  have hsilent (hnot : ¬ Due env.now state) : exists n state',
      Diagnosed env.now state n state' ∧ SafeguardAt { s with warnings := n } state' w := by
    refine ⟨0, state, .silent hnot, ?_⟩
    rw [← hnone]
    exact h
  unfold warnResqueLayoutUnknown maybeWarnResqueLayoutUnknown
  rw [Prog.wp_tryCatch, Prog.wp_bind, Prog.wp_read, Prog.wp_bind, wp_processMemory, h.memory]
  apply Prog.wp_ite
  · intro hover
    apply hsilent
    rw [due_iff]
    exact fun hdue => hdue.1 hover
  · intro hopen
    cases hsince : state.emptyRegistrySince with
    | none =>
        apply hsilent
        intro hdue
        rcases hdue.2.2 with ⟨since, heq, -⟩
        rw [hsince] at heq
        cases heq
    | some since =>
        apply Prog.wp_ite
        · intro hgrace
          have hdue : Due env.now state :=
            due_iff.mpr ⟨hopen, since, hsince, of_decide_eq_true hgrace⟩
          rw [Prog.wp_bind]
          unfold modifyLeg2
          rw [wp_modifyMemory]
          have hmarked : SafeguardAt s { state with layoutWarningEmitted := true }
              { w with memory := { w.memory with
                leg2 := { w.memory.leg2 with layoutWarningEmitted := true } } } :=
            ⟨h.sighting, by rw [h.memory]⟩
          have hsent (r : Except Exc Unit) (message : String) :
              s.add (.emit .warning resqueKeyLayoutUnknownEvent message r) =
                { s with warnings := 1 } := by
            rw [Sighting.add, if_pos rfl, hnone]
          apply wp_call
          · intro _ _
            refine ⟨1, _, .warned hdue, ?_⟩
            rw [← hsent]
            exact hmarked.add env.now _ fun _ => Event.noConfusion
          · intro _ _
            refine ⟨1, _, .warned hdue, ?_⟩
            rw [← hsent]
            exact hmarked.add env.now _ fun _ => Event.noConfusion
        · intro hearly
          apply hsilent
          rw [due_iff]
          intro hdue
          rcases hdue.2 with ⟨since', heq, hgrace⟩
          rw [hsince] at heq
          cases heq
          exact hearly (decide_eq_true hgrace)

/-- A tick that is over, as far as the safeguard goes. -/
def SafeguardEnds (now : Instant) (state : Leg2SafeguardState) (w : World) : Prop :=
  exists s state', SafeguardTick now state s state' ∧ SafeguardAt s state' w

/-- A verdict on the condition, before the diagnostic. -/
def Sensed (now : Instant) (state : Leg2SafeguardState) (w : World) : Prop :=
  exists ids depths,
    (forall depth, depth ∈ depths -> depth.2 = 0) ∧
        SafeguardAt { registry := some ids, depths := some depths } (seen ids state) w ∨
      (exists depth, depth ∈ depths ∧ 0 < depth.2) ∧
        SafeguardAt { registry := some ids, depths := some depths }
          (underLoad now ids (seen ids state)) w

theorem SafeguardAt.modify (h : SafeguardAt s state w)
    (f : Leg2SafeguardState -> Leg2SafeguardState) :
    SafeguardAt s (f state) { w with memory := { w.memory with leg2 := f w.memory.leg2 } } :=
  ⟨h.sighting, congrArg f h.memory⟩

theorem wp_stallConditionHolds_safeguard {config : OperatorConfig}
    (h : SafeguardAt {} state w) :
    Prog.wp (stallConditionHolds config) env w (fun _ w' => Sensed env.now state w')
      (fun _ w' => SafeguardEnds env.now state w') := by
  unfold stallConditionHolds
  rw [Prog.wp_bind, Prog.wp_read, Prog.wp_bind]
  apply wp_call
  · intro ids _
    have h1 := (h.add env.now (.workerHeartbeats (.ok ids))
      fun _ => Event.noConfusion).modify (seen ids)
    rw [Prog.wp_bind]
    unfold modifyLeg2
    rw [wp_modifyMemory, Prog.wp_bind]
    apply wp_call
    · intro depths _
      have h2 := h1.add env.now (.queueDepths (.ok depths)) fun _ => Event.noConfusion
      apply Prog.wp_ite
      · intro hidle
        refine ⟨ids, depths, Or.inl ⟨?_, h2⟩⟩
        intro depth hdepth
        exact of_decide_eq_true (List.all_eq_true.mp hidle depth hdepth)
      · intro hbusy
        have hloaded : exists depth, depth ∈ depths ∧ 0 < depth.2 := by
          by_contra hnone
          apply hbusy
          rw [List.all_eq_true]
          intro depth hdepth
          rw [decide_eq_true_eq]
          by_contra hne
          exact hnone ⟨depth, hdepth, Nat.pos_of_ne_zero hne⟩
        have h3 := h2.modify (underLoad env.now ids)
        rw [Prog.wp_bind, wp_modifyMemory, Prog.wp_bind]
        have hjudged (w' : World) (h' : SafeguardAt
            { registry := some ids, depths := some depths }
            (underLoad env.now ids (seen ids state)) w') : Sensed env.now state w' :=
          ⟨ids, depths, Or.inr ⟨hloaded, h'⟩⟩
        have hraised (w' : World) (h' : SafeguardAt
            { registry := some ids, depths := some depths }
            (underLoad env.now ids (seen ids state)) w') : SafeguardEnds env.now state w' :=
          ⟨_, _, .raised ids depths hloaded, h'⟩
        apply wp_call
        · intro stale _
          have h4 := h3.log env.now (.staleWorkers (.ok stale))
            (fun _ => Event.noConfusion) rfl
          apply Prog.wp_ite
          · intro _
            exact hjudged _ h4
          · intro _
            exact Prog.wp_mono (preserves_workerPodsHealthy _ _ h4)
              (fun _ => hjudged) (fun _ => hraised)
        · intro e _
          exact hraised _ (h3.log env.now (.staleWorkers (.error e))
            (fun _ => Event.noConfusion) rfl)
    · intro e _
      exact ⟨_, _, .blind ids, h1.log env.now (.queueDepths (.error e))
        (fun _ => Event.noConfusion) rfl⟩
  · intro e _
    exact ⟨_, _, .unsensed, h.log env.now (.workerHeartbeats (.error e))
      (fun _ => Event.noConfusion) rfl⟩

theorem wp_senseStall_safeguard {config : OperatorConfig} (h : SafeguardAt {} state w) :
    Prog.wp (senseStall config) env w (fun _ w' => Sensed env.now state w')
      (fun _ w' => SafeguardEnds env.now state w') := by
  unfold senseStall
  rw [Prog.wp_bind, Prog.wp_tryCatch]
  refine Prog.wp_mono (wp_stallConditionHolds_safeguard h) ?_ ?_
  · intro holds w1 h1
    rw [Prog.wp_bind, wp_note, Prog.wp_pure]
    rcases h1 with ⟨ids, depths, ⟨hidle, h1⟩ | ⟨hloaded, h1⟩⟩
    · exact ⟨ids, depths, Or.inl ⟨hidle, h1.log env.now _ (fun _ => Event.noConfusion) rfl⟩⟩
    · exact ⟨ids, depths, Or.inr ⟨hloaded, h1.log env.now _ (fun _ => Event.noConfusion) rfl⟩⟩
  · intro e w1 h1
    rcases h1 with ⟨s, state', htick, h1⟩
    rw [Prog.wp_bind]
    have hreset : Prog.Preserves (SafeguardAt s state')
        (onlyIf e.blinds do
          resetStallTracker
          setStallWindowStartedAt none) env :=
      preserves_onlyIf (Prog.Preserves.bind (preserves_setStallTracker _)
        fun _ => preserves_mutateStatus)
    exact Prog.wp_mono (hreset w1 h1) (fun _ _ h2 => ⟨s, state', htick, h2⟩)
      (fun _ _ h2 => ⟨s, state', htick, h2⟩)

/-- The diagnostic concludes what the tick does to the safeguard. -/
theorem wp_warn_sensed (h : Sensed env.now state w) :
    Prog.wp warnResqueLayoutUnknown env w (fun _ w' => SafeguardEnds env.now state w')
      (fun _ _ => False) := by
  rcases h with ⟨ids, depths, ⟨hidle, h⟩ | ⟨hloaded, h⟩⟩
  · refine Prog.wp_mono (wp_warn h rfl) ?_ (fun _ _ hfalse => hfalse)
    intro _ w' hdone
    rcases hdone with ⟨n, state', hdiagnosed, h'⟩
    exact ⟨_, _, .idle ids depths n state' hidle hdiagnosed, h'⟩
  · refine Prog.wp_mono (wp_warn h rfl) ?_ (fun _ _ hfalse => hfalse)
    intro _ w' hdone
    rcases hdone with ⟨n, state', hdiagnosed, h'⟩
    exact ⟨_, _, .judged ids depths n state' hloaded hdiagnosed, h'⟩

end SafeguardTick

section Run

variable {t : Tick} {w : World}

theorem wp_runStallTick_safeguard (hkept : t.env.freshCaches = false) :
    Prog.wp (runStallTick t.config) t.env (w.openTick t)
      (fun _ w' => SafeguardEnds t.env.now w.memory.leg2 w')
      (fun _ w' => SafeguardEnds t.env.now w.memory.leg2 w') := by
  have hopened : SafeguardAt {} w.memory.leg2 (w.openTick t) := ⟨rfl, rfl⟩
  have hcaches : Prog.Preserves (SafeguardAt {} w.memory.leg2) lookupCaches t.env := by
    intro w1 h1
    unfold lookupCaches
    rw [Prog.wp_bind, Prog.wp_read, onlyIf, hkept]
    exact h1
  have hgate : Prog.Preserves (SafeguardAt {} w.memory.leg2) getLastWebBackgroundRestartAt
      t.env :=
    Prog.Preserves.bind (preserves_readStatus _) fun _ => Prog.Preserves.pure _
  have hunsensed (w' : World) (h' : SafeguardAt {} w.memory.leg2 w') :
      SafeguardEnds t.env.now w.memory.leg2 w' := ⟨_, _, .unsensed, h'⟩
  unfold runStallTick
  rw [Prog.wp_bind, Prog.wp_read, Prog.wp_bind]
  refine Prog.wp_mono (hcaches _ hopened) ?_ (fun _ => hunsensed)
  intro _ w1 h1
  rw [Prog.wp_bind]
  refine Prog.wp_mono (hgate w1 h1) ?_ (fun _ => hunsensed)
  intro lastRestart w2 h2
  apply Prog.wp_ite
  · intro _
    exact hunsensed w2 h2
  · intro _
    rw [Prog.wp_bind]
    refine Prog.wp_mono (wp_senseStall_safeguard h2) ?_ (fun _ _ hends => hends)
    intro holds w3 h3
    rw [Prog.wp_bind]
    refine Prog.wp_mono (wp_warn_sensed h3) ?_ (fun _ _ hfalse => hfalse.elim)
    intro _ w4 h4
    rcases h4 with ⟨s, state', htick, h4⟩
    -- the rest of the tick leaves the safeguard alone
    have hrest : Prog.Preserves (SafeguardAt s state')
        (do
          let sustained <- observeStall (stallWindowOf t.config) holds
          onlyIf (!holds) (concludeCleanWindow (stallWindowOf t.config) lastRestart)
          if !sustained then
            return false
          else
            let deferred <- restartDeferred (stallWindowOf t.config) lastRestart
            if deferred then
              return false
            else
              restartWebBackground t.config (stallWindowOf t.config) lastRestart
              return true) t.env := by
      apply Prog.Preserves.bind (preserves_observeStall _ _)
      intro sustained
      apply Prog.Preserves.bind (preserves_onlyIf (preserves_concludeCleanWindow _ _))
      intro _
      apply Prog.Preserves.ite
      · intro _
        exact Prog.Preserves.pure _
      · intro _
        apply Prog.Preserves.bind (preserves_restartDeferred _ _)
        intro deferred
        apply Prog.Preserves.ite
        · intro _
          exact Prog.Preserves.pure _
        · intro _
          exact Prog.Preserves.bind (preserves_restartWebBackground _ _ _)
            fun _ => Prog.Preserves.pure _
    exact Prog.wp_mono (hrest w4 h4) (fun _ _ h5 => ⟨s, state', htick, h5⟩)
      (fun _ _ h5 => ⟨s, state', htick, h5⟩)

/-- What a tick sees and leaves is one of the listed moves. -/
theorem runStallTick_safeguard (hkept : t.env.freshCaches = false) :
    SafeguardTick t.env.now w.memory.leg2 (sighting t w)
      (runTick runStallTick t w).memory.leg2 := by
  have hends : SafeguardEnds t.env.now w.memory.leg2 (runTick runStallTick t w) := by
    apply Prog.exec_of_wp
    unfold inTick
    rw [Prog.wp_bind, wp_note]
    exact wp_runStallTick_safeguard hkept
  rcases hends with ⟨s, state', htick, hat⟩
  unfold sighting
  rw [hat.sighting, hat.memory]
  exact htick

end Run

/-!
## Runs
-/

section Runs

variable {history : List (Instant × Sighting)} {x : Instant × Sighting}
  {state state' : Leg2SafeguardState}

/-- What the safeguard remembers of the ticks so far, which kept the law. -/
structure Consistent (history : List (Instant × Sighting)) (state : Leg2SafeguardState) :
    Prop where
  law : WarnsUnderLoad history
  unsent : state.layoutWarningEmitted = false ->
    forall y, y ∈ history -> y.2.warnings = 0
  unseen : state.maxWorkersSeen = 0 ->
    forall y, y ∈ history -> forall ids, y.2.registry = some ids -> ids = []
  begun : forall since, state.emptyRegistrySince = some since ->
    exists y, y ∈ history ∧ y.1 = since ∧ y.2.Loaded ∧ y.2.registry = some []

theorem Consistent.begin : Consistent [] {} where
  law := .nil
  unsent := fun _ _ hy => absurd hy List.not_mem_nil
  unseen := fun _ _ hy => absurd hy List.not_mem_nil
  begun := fun _ hsince => by cases hsince

/-- A tick that sends nothing. -/
theorem Consistent.quiet (h : Consistent history state) (hnone : x.2.warnings = 0)
    (hsent : state'.layoutWarningEmitted = state.layoutWarningEmitted)
    (hseen : state'.maxWorkersSeen = 0 -> state.maxWorkersSeen = 0 ∧
      forall ids, x.2.registry = some ids -> ids = [])
    (hbegun : forall since, state'.emptyRegistrySince = some since ->
      state.emptyRegistrySince = some since ∨
        since = x.1 ∧ x.2.Loaded ∧ x.2.registry = some []) :
    Consistent (x :: history) state' where
  law := .cons (fun hwarned => absurd hnone hwarned) h.law
  unsent := by
    intro hunsent y hy
    rcases List.mem_cons.mp hy with hnew | hold
    · rw [hnew]
      exact hnone
    · exact h.unsent (hsent ▸ hunsent) y hold
  unseen := by
    intro hzero y hy
    rcases hseen hzero with ⟨hzero', hempty⟩
    rcases List.mem_cons.mp hy with hnew | hold
    · rw [hnew]
      exact hempty
    · exact h.unseen hzero' y hold
  begun := by
    intro since hsince
    rcases hbegun since hsince with hold | ⟨htime, hloaded, hempty⟩
    · rcases h.begun since hold with ⟨y, hy, hrest⟩
      exact ⟨y, List.mem_cons_of_mem x hy, hrest⟩
    · exact ⟨x, List.mem_cons_self, htime.symm, hloaded, hempty⟩

/-- A tick that sends a warranted warning. -/
theorem Consistent.warned (h : Consistent history state) (hwarranted : Warranted x history)
    (hsent : state'.layoutWarningEmitted = true)
    (hbegun : state'.emptyRegistrySince = state.emptyRegistrySince) :
    Consistent (x :: history) state' where
  law := .cons (fun _ => hwarranted) h.law
  unsent := fun hunsent => by rw [hsent] at hunsent; cases hunsent
  unseen := by
    intro _ y hy
    rcases List.mem_cons.mp hy with hnew | hold
    · intro ids hids
      rw [hnew, hwarranted.empty] at hids
      exact (Option.some.inj hids).symm
    · exact hwarranted.unseen y hold
  begun := by
    intro since hsince
    rcases h.begun since (hbegun ▸ hsince) with ⟨y, hy, hrest⟩
    exact ⟨y, List.mem_cons_of_mem x hy, hrest⟩

theorem seen_eq_zero {ids : List String} (h : (seen ids state).maxWorkersSeen = 0) :
    state.maxWorkersSeen = 0 ∧ ids = [] := by
  have hmax : max state.maxWorkersSeen ids.length = 0 := h
  rw [Nat.max_eq_zero_iff] at hmax
  exact ⟨hmax.1, List.length_eq_zero_iff.mp hmax.2⟩

theorem seen_nil (state : Leg2SafeguardState) : seen [] state = state := by
  unfold seen
  rw [List.length_nil, Nat.max_zero]

/-- One move keeps the law, unless the warning is due on an idle tick. -/
theorem Consistent.step (h : Consistent history state) {now : Instant} {s : Sighting}
    (htick : SafeguardTick now state s state')
    (hnot : ¬ (Due now state ∧ s.registry = some [] ∧ s.Idle)) :
    Consistent ((now, s) :: history) state' := by
  have hread {ids : List String} (hzero : (seen ids state).maxWorkersSeen = 0) :
      state.maxWorkersSeen = 0 ∧ forall ids', some ids = some ids' -> ids' = [] := by
    rcases seen_eq_zero hzero with ⟨hzero', hnil⟩
    refine ⟨hzero', ?_⟩
    intro ids' hids
    rw [← Option.some.inj hids, hnil]
  have hclock {ids : List String} {depths : List (String × Nat)} {n : Nat}
      (hloaded : exists depth, depth ∈ depths ∧ 0 < depth.2) (since : Instant)
      (hsince : (underLoad now ids (seen ids state)).emptyRegistrySince = some since) :
      state.emptyRegistrySince = some since ∨
        since = now ∧ (Sighting.mk (some ids) (some depths) n).Loaded ∧
          some ids = some [] := by
    unfold underLoad seen at hsince
    simp only at hsince
    by_cases hempty : ids.isEmpty = true
    · rw [if_pos hempty] at hsince
      cases hold : state.emptyRegistrySince with
      | some old =>
          rw [hold] at hsince
          exact Or.inl hsince
      | none =>
          rw [hold] at hsince
          refine Or.inr ⟨(Option.some.inj hsince).symm, ⟨depths, rfl, hloaded⟩, ?_⟩
          rw [List.isEmpty_iff.mp hempty]
    · rw [if_neg hempty] at hsince
      cases hsince
  cases htick with
  | unsensed =>
      exact h.quiet rfl rfl (fun hzero => ⟨hzero, fun _ hids => by cases hids⟩)
        fun _ hsince => Or.inl hsince
  | blind ids => exact h.quiet rfl rfl hread fun _ hsince => Or.inl hsince
  | raised ids depths hloaded => exact h.quiet rfl rfl hread (hclock hloaded)
  | idle ids depths n _ hidle hdiagnosed =>
      cases hdiagnosed with
      | silent _ => exact h.quiet rfl rfl hread fun _ hsince => Or.inl hsince
      | warned hdue =>
          have hnil := (seen_eq_zero hdue.2.1).2
          subst hnil
          rw [seen_nil] at hdue
          exact absurd ⟨hdue, rfl, depths, rfl, hidle⟩ hnot
  | judged ids depths n _ hloaded hdiagnosed =>
      cases hdiagnosed with
      | silent _ => exact h.quiet rfl rfl hread (hclock hloaded)
      | warned hdue =>
          rcases hdue with ⟨hunsent, hzero, since, hsince, hgrace⟩
          rcases seen_eq_zero hzero with ⟨hzero', hnil⟩
          subst hnil
          have hbegan : state.emptyRegistrySince = some since := by
            rcases hclock (n := 0) hloaded since hsince with hold | ⟨hnow, -, -⟩
            · exact hold
            · rw [hnow, Int.sub_self] at hgrace
              exact absurd hgrace (by decide)
          rcases h.begun since hbegan with ⟨y, hy, htime, hyLoaded, hyEmpty⟩
          refine h.warned ⟨rfl, h.unsent hunsent, ⟨depths, rfl, hloaded⟩, rfl,
            h.unseen hzero', y, hy, hyLoaded, hyEmpty, htime ▸ hgrace⟩ rfl ?_
          unfold underLoad seen
          simp only [List.isEmpty_nil, if_true, hbegan, Option.getD_some]

/-- A warning that is due on an idle tick is sent. -/
theorem SafeguardTick.warns {now : Instant} {s : Sighting}
    (htick : SafeguardTick now state s state') (hdue : Due now state)
    (hempty : s.registry = some []) (hidle : s.Idle) : s.warnings ≠ 0 := by
  rcases hidle with ⟨depths', hdepths, hzero⟩
  have hnever {ids : List String} {depths : List (String × Nat)} {n : Nat}
      (hloaded : exists depth, depth ∈ depths ∧ 0 < depth.2)
      (hsame : (Sighting.mk (some ids) (some depths) n).depths = some depths') : False := by
    rcases hloaded with ⟨depth, hdepth, hpos⟩
    have hdepth' := hzero depth (Option.some.inj hsame ▸ hdepth)
    exact Nat.pos_iff_ne_zero.mp hpos hdepth'
  cases htick with
  | unsensed => cases hempty
  | blind ids => cases hdepths
  | raised ids depths hloaded => exact (hnever hloaded hdepths).elim
  | judged ids depths n _ hloaded _ => exact (hnever hloaded hdepths).elim
  | idle ids depths n _ _ hdiagnosed =>
      cases hdiagnosed with
      | silent hnot =>
          rw [Option.some.inj hempty, seen_nil] at hnot
          exact absurd hdue hnot
      | warned _ => exact Nat.one_ne_zero

theorem exists_sightings_append : forall (ticks : List Tick) (w : World)
    (earlier : List (Instant × Sighting)),
    exists newer, sightings ticks w earlier = newer ++ earlier := by
  intro ticks
  induction ticks with
  | nil =>
      intro w earlier
      exact ⟨[], rfl⟩
  | cons t later ih =>
      intro w earlier
      rcases ih (runTick runStallTick t w) ((t.env.now, sighting t w) :: earlier) with
        ⟨newer, heq⟩
      refine ⟨newer ++ [(t.env.now, sighting t w)], ?_⟩
      rw [sightings, heq, List.append_assoc, List.singleton_append]

theorem warnsUnderLoad_of_everyTick : forall (ticks : List Tick) (w : World)
    (history : List (Instant × Sighting)), Consistent history w.memory.leg2 ->
    (forall t, t ∈ ticks -> t.env.freshCaches = false) ->
    EveryTick runStallTick (fun t w => ¬ DueWhileIdle t w) ticks w ->
    WarnsUnderLoad (sightings ticks w history) := by
  intro ticks
  induction ticks with
  | nil =>
      intro w history h _ _
      exact h.law
  | cons t later ih =>
      intro w history h hprocess hcond
      have hstep : Consistent ((t.env.now, sighting t w) :: history)
          (runTick runStallTick t w).memory.leg2 :=
        h.step (runStallTick_safeguard (hprocess t List.mem_cons_self)) hcond.1
      exact ih _ _ hstep
        (fun t' ht' => hprocess t' (List.mem_cons_of_mem t ht')) hcond.2

theorem everyTick_of_warnsUnderLoad : forall (ticks : List Tick) (w : World)
    (history : List (Instant × Sighting)),
    (forall t, t ∈ ticks -> t.env.freshCaches = false) ->
    WarnsUnderLoad (sightings ticks w history) ->
    EveryTick runStallTick (fun t w => ¬ DueWhileIdle t w) ticks w := by
  intro ticks
  induction ticks with
  | nil =>
      intro _ _ _ _
      exact trivial
  | cons t later ih =>
      intro w history hprocess hlaw
      rcases exists_sightings_append later (runTick runStallTick t w)
        ((t.env.now, sighting t w) :: history) with ⟨newer, heq⟩
      rw [sightings] at hlaw
      constructor
      · intro hdue
        have htick := runStallTick_safeguard (w := w) (hprocess t List.mem_cons_self)
        have hwarned := htick.warns hdue.1 hdue.2.1 hdue.2.2
        rw [heq] at hlaw
        rcases ((Throughout.of_split newer hlaw) hwarned).loaded with
          ⟨depths, hdepths, depth, hdepth, hpos⟩
        rcases hdue.2.2 with ⟨depths', hdepths', hzero⟩
        have hsame := Option.some.inj (hdepths.symm.trans hdepths')
        exact Nat.pos_iff_ne_zero.mp hpos (hzero depth (hsame ▸ hdepth))
      · exact ih _ _
          (fun t' ht' => hprocess t' (List.mem_cons_of_mem t ht')) hlaw

/-- Over the ticks of one process the warning comes at most once, and only
under load, exactly when it is never due on an idle tick. -/
theorem layout_warning_under_load_iff (ticks : List Tick) (w : World)
    (hfresh : w.memory.leg2 = {})
    (hprocess : forall t, t ∈ ticks -> t.env.freshCaches = false) :
    WarnsUnderLoad (sightings ticks w []) <->
      EveryTick runStallTick (fun t w => ¬ DueWhileIdle t w) ticks w := by
  constructor
  · exact everyTick_of_warnsUnderLoad ticks w [] hprocess
  · intro hcond
    refine warnsUnderLoad_of_everyTick ticks w [] ?_ hprocess hcond
    rw [hfresh]
    exact Consistent.begin

end Runs

/-!
### Two ticks
-/

/-- A tick that finds no worker and this much work. -/
def emptyRegistryTick (now : Instant) (depth : Nat) : Tick where
  env := { Env.quiet now with
    queueDepths := fun _ =>
      .ok [("resque:queue:simulations", depth), ("resque:queue:requeued", 0)] }
  config := {}

/-- What such a tick sees, with the number of its warnings. -/
def emptySighting (depth warnings : Nat) : Sighting where
  registry := some []
  depths := some [("resque:queue:simulations", depth), ("resque:queue:requeued", 0)]
  warnings := warnings

theorem not_loaded_emptySighting (warnings : Nat) : ¬ (emptySighting 0 warnings).Loaded := by
  intro hloaded
  rcases hloaded with ⟨depths, hdepths, depth, hdepth, hpos⟩
  rw [← Option.some.inj hdepths] at hdepth
  revert hpos
  rcases List.mem_pair.mp hdepth with heq | heq <;> rw [heq] <;> exact Nat.lt_irrefl 0

/-- No tick is idle: the second one warns. -/
theorem layout_warning_under_load_two :
    (sighting (emptyRegistryTick (seconds 61) 1)
        (runTick runStallTick (emptyRegistryTick 0 1) {})).warnings = 1 ∧
      WarnsUnderLoad
        (sightings [emptyRegistryTick 0 1, emptyRegistryTick (seconds 61) 1] {} []) := by
  refine ⟨by decide, (layout_warning_under_load_iff _ {} rfl ?_).mpr ⟨?_, ?_, trivial⟩⟩
  · intro t ht
    rcases List.mem_pair.mp ht with heq | heq <;> rw [heq] <;> rfl
  · intro hdue
    exact absurd hdue.1 (by rintro ⟨-, -, since, hsince, -⟩; cases hsince)
  · intro hdue
    rcases hdue.2.2 with ⟨depths, hdepths, hzero⟩
    have hseen : sighting (emptyRegistryTick (seconds 61) 1)
        (runTick runStallTick (emptyRegistryTick 0 1) {}) = emptySighting 1 1 := by decide
    rw [hseen] at hdepths
    have hone := hzero ("resque:queue:simulations", 1)
      (Option.some.inj hdepths ▸ List.mem_cons_self)
    cases hone

/-- The second tick is idle, and warns. -/
theorem layout_warning_under_load_counterexample :
    sightings [emptyRegistryTick 0 1, emptyRegistryTick (seconds 61) 0] {} [] =
        [(seconds 61, emptySighting 0 1), (0, emptySighting 1 0)] ∧
      ¬ WarnsUnderLoad
        (sightings [emptyRegistryTick 0 1, emptyRegistryTick (seconds 61) 0] {} []) := by
  have hrun : sightings [emptyRegistryTick 0 1, emptyRegistryTick (seconds 61) 0] {} [] =
      [(seconds 61, emptySighting 0 1), (0, emptySighting 1 0)] := by decide
  refine ⟨hrun, ?_⟩
  rw [hrun]
  intro hlaw
  exact not_loaded_emptySighting 1 (hlaw.head Nat.one_ne_zero).loaded

end LayoutWarning
end OpenStudioOperator
