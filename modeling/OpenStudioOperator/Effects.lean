import OpenStudioOperator.Foundation.History
import OpenStudioOperator.Foundation.Program
import OpenStudioOperator.Foundation.ReadModifyWrite
import OpenStudioOperator.Archival

/-!
# External calls and the history of a run

A tick is a program over the injected calls of the handlers: the REST client,
the Kubernetes APIs, Redis, the event emitter and the status store.  The
environment answers every call and may let it raise; its answer can depend on
the whole history so far, so an environment is an arbitrary adversary.

Every call appends one entry to the trace, newest first.  An entry keeps the
tick time, the call with its answer, and the status after it.
-/

namespace OpenStudioOperator

open Foundation

/-!
## Exceptions and server documents
-/

inductive Exc where
  | apiException (status : Option Nat)
  | openStudioApiError
  | statusStoreError (message : String)
  | statusStoreConflictError
  | redisClientError
  | valueError (message : String)
  | other (name : String)
deriving DecidableEq, Repr

/-- A document of `GET /analyses.json`; timestamps are already normalised and
`id` is absent when `_id` is missing or empty. -/
structure AnalysisDoc where
  id : Option String
  status : Option String := none
  updatedAt : Option Instant := none
  createdAt : Option Instant := none
deriving DecidableEq, Repr

structure DatapointDoc where
  id : Option String
  analysisId : Option String := none
deriving DecidableEq, Repr

structure StatusDoc where
  status : Option String
deriving DecidableEq, Repr

/-- The body of `status.json`: one wrapped analysis, or a list of them whose
items need not be objects. -/
structure AnalysisStatusPayload where
  analysis : Option StatusDoc := none
  analyses : Option (List (Option StatusDoc)) := none
deriving DecidableEq, Repr

structure JobCondition where
  type : Option String
  status : Option String
deriving DecidableEq, Repr

structure PodCondition where
  type : Option String
  status : Option String
deriving DecidableEq, Repr

/-- The status of a pod, as the health check of the worker fleet reads it. -/
structure WorkerPod where
  phase : Option String
  conditions : List PodCondition
deriving DecidableEq, Repr

structure Job where
  createdAt : Instant
  conditions : List JobCondition
deriving DecidableEq, Repr

/-!
## Calls
-/

/-- The calls that change the cluster or the server.  `deletePod` also carries
the analysis it is issued for, which is not an argument of the API call. -/
inductive Mutation where
  | softStopAnalysis (id : String)
  | stopAnalysis (id : String)
  | requeueDatapoint (id : String)
  | deleteAnalysis (id : String)
  | deletePod (analysisId podName : String) (gracePeriodSeconds : Option Nat)
  | createJob (manifest : ArchivalJob)
  | deleteJob (name : String)
  | rollingRestart (deployment : String) (at' : Instant)
deriving DecidableEq, Repr

/-- The methods of the status store the handlers call. -/
inductive StoreOp where
  | getSoftStops
  | setSoftStop (id : String) (record : SoftStopRecord)
  | markSoftStopEscalated (id : String) (at' : Instant) (outcome : EscalationOutcome)
  | clearSoftStop (id : String)
  | getRequeues
  | setRequeue (id : String) (record : RequeueRecord)
  | getStartedSinceMap
  | setStartedSince (id : String) (at' : Instant)
  | clearStartedSince (id : String)
  | getArchivedAnalyses
  | setArchivedAnalysis (id : String) (record : ArchivedAnalysisRecord)
  | clearArchivedAnalysis (id : String)
  | getStopRecord (id : String)
  | setStopRecord (id : String) (record : StopRecord)
  | pruneStopRecord (id : String)
  | prune (liveAnalysisIds liveDatapointIds : Option (List String))
  | getLastWebBackgroundRestartAt
  | setLastWebBackgroundRestartAt (at' : Option Instant)
  | getStallWindowStartedAt
  | setStallWindowStartedAt (at' : Option Instant)
  | getWebBackgroundIneffectiveRestarts
  | setWebBackgroundIneffectiveRestarts (count : Int)
  | getLastRecycleAt
  | setLastRecycleAt (at' : Option Instant)
deriving DecidableEq, Repr

instance decidableEqExcept {error alpha : Type} [DecidableEq error]
    [DecidableEq alpha] : DecidableEq (Except error alpha)
  | .ok a, .ok b =>
      decidable_of_iff (a = b) ⟨fun h => by rw [h], fun h => Except.ok.inj h⟩
  | .error a, .error b =>
      decidable_of_iff (a = b) ⟨fun h => by rw [h], fun h => Except.error.inj h⟩
  | .ok _, .error _ => isFalse nofun
  | .error _, .ok _ => isFalse nofun

inductive EventType where
  | normal
  | warning
deriving DecidableEq, Repr

/-- One entry's event: a call with its answer, or a mark of the tick's
progress that no other party sees. -/
inductive Event where
  | listAnalyses (r : Except Exc (List AnalysisDoc))
  | listDatapoints (r : Except Exc (List DatapointDoc))
  | listStartedDatapoints (r : Except Exc (List DatapointDoc))
  | getAnalysisStatus (id : String) (r : Except Exc (Option AnalysisStatusPayload))
  | readJob (name : String) (r : Except Exc Job)
  | workersForAnalysis (id : String) (r : Except Exc (List String))
  | listPods (r : Except Exc (List (Option String)))
  | workerHeartbeats (r : Except Exc (List String))
  | queueDepths (r : Except Exc (List (String × Nat)))
  | staleWorkers (r : Except Exc (List String))
  | deploymentLabelSelector (deployment : String) (r : Except Exc (Option String))
  | listWorkerPods (selector : String) (r : Except Exc (List WorkerPod))
  | mutate (m : Mutation) (r : Except Exc Unit)
  | emit (type : EventType) (reason message : String) (r : Except Exc Unit)
  | store (op : StoreOp) (r : Except Exc Unit)
  | statusMapCapped (field : StatusField) (message : String) (r : Except Exc Unit)
  /-- The mark that opens a tick, with the configuration the tick runs under. -/
  | tickStart (config : OperatorConfig)
  /-- A mutation withheld by `spec.dryRun`. -/
  | suppressed (m : Mutation)
  /-- The escalation of an analysis reached its delete loop. -/
  | escalationPass (id : String)
  /-- The escalation of an analysis raised after reaching its delete loop. -/
  | escalationRaised (id : String)
  /-- The departure-prune loop of a watchdog tick completed under this view. -/
  | departuresPruned (startedIds : List String)
  /-- A hygiene pass obtained all its live views. -/
  | heavyCheck (liveDatapoints liveAnalyses : List String)
  /-- The prune patch that reached the server: the status it was computed from
  and the keys it deletes. -/
  | pruned (found : Status) (removed : List (StatusField × List String))
  /-- The process's caches start fresh: a new process, or another resource. -/
  | processStart
  /-- A stall tick read all it needs, and found whether the condition holds. -/
  | stallSensed (holds : Bool)
  /-- A full window without the stall condition concluded the restart cycle. -/
  | cleanReset
deriving DecidableEq

/-!
## Worlds and environments
-/

structure Entry where
  time : Instant
  event : Event
  status : Status
deriving DecidableEq

abbrev Trace := List Entry

/-- The debounce state of the watchdog's anchor hygiene. -/
structure AnchorPruneState where
  ticks : Nat := 0
  absentDatapoints : Dict String Nat := Dict.empty
  absentAnalyses : Dict String Nat := Dict.empty
deriving DecidableEq

/-- `StallWindowTracker`: the first tick of the current unbroken stall, and of
the current unbroken clean period. -/
structure StallWindowTracker where
  firstObserved : Option Instant := none
  firstClean : Option Instant := none
deriving DecidableEq, Repr

/-- `Leg2SafeguardState`. -/
structure Leg2SafeguardState where
  maxWorkersSeen : Nat := 0
  emptyRegistrySince : Option Instant := none
  layoutWarningEmitted : Bool := false
deriving DecidableEq, Repr

/-- What the process remembers between ticks and a restart loses. -/
structure ProcessMemory where
  exhaustedSeen : List String := []
  anchorPrune : AnchorPruneState := {}
  stallTracker : StallWindowTracker := {}
  leg2 : Leg2SafeguardState := {}
deriving DecidableEq

/-- The persisted status, the history, the process's registry of live anchors
that the size cap spares, and its other memory. -/
structure World where
  status : Status := {}
  trace : Trace := []
  protectedKeys : StatusField -> List String := fun _ => []
  memory : ProcessMemory := {}

/-- `freshCaches` says that a lookup of the process's caches finds no entry of
this resource; `setOrder` is the order in which a set is iterated. -/
structure Env where
  now : Instant
  kubeNamespace : String
  listAnalyses : Trace -> Except Exc (List AnalysisDoc)
  listDatapoints : Trace -> Except Exc (List DatapointDoc)
  listStartedDatapoints : Trace -> Except Exc (List DatapointDoc)
  getAnalysisStatus : Trace -> String -> Except Exc (Option AnalysisStatusPayload)
  readJob : Trace -> String -> Except Exc Job
  workersForAnalysis : Trace -> String -> Except Exc (List String)
  listPods : Trace -> Except Exc (List (Option String))
  mutate : Trace -> Mutation -> Except Exc Unit
  emit : Trace -> EventType -> String -> String -> Except Exc Unit
  statusMapCapped : Trace -> StatusField -> String -> Except Exc Unit
  server : Trace -> StoreOp -> Server Status Exc
  workerHeartbeats : Trace -> Except Exc (List String) := fun _ => .ok []
  queueDepths : Trace -> Except Exc (List (String × Nat)) := fun _ => .ok []
  staleWorkers : Trace -> Except Exc (List String) := fun _ => .ok []
  deploymentLabelSelector : Trace -> String -> Except Exc (Option String) :=
    fun _ _ => .ok none
  listWorkerPods : Trace -> String -> Except Exc (List WorkerPod) := fun _ _ => .ok []
  freshCaches : Bool := false
  setOrder : Trace -> (ids : List String) -> { order : List String // order.Perm ids } :=
    fun _ ids => ⟨ids, List.Perm.refl ids⟩

/-- A server without other writers that grants everything. -/
def quietServer : Server Status Exc where
  beforeRead := fun _ s => s
  read := fun _ => none
  beforePatch := fun _ s => s
  patch := fun _ => .ok

/-- An environment with nothing to report, in which no call fails. -/
def Env.quiet (now : Instant) : Env where
  now := now
  kubeNamespace := "default"
  listAnalyses := fun _ => .ok []
  listDatapoints := fun _ => .ok []
  listStartedDatapoints := fun _ => .ok []
  getAnalysisStatus := fun _ _ => .ok none
  readJob := fun _ _ => .error (.apiException (some 404))
  workersForAnalysis := fun _ _ => .ok []
  listPods := fun _ => .ok []
  mutate := fun _ _ => .ok ()
  emit := fun _ _ _ _ => .ok ()
  statusMapCapped := fun _ _ _ => .ok ()
  server := fun _ _ => quietServer

abbrev OpM := Prog Env Exc World

/-- Append one entry; the status stays. -/
def World.log (w : World) (time : Instant) (event : Event) : World :=
  { w with trace := ⟨time, event, w.status⟩ :: w.trace }

/-- Append the entry of a status-store call that left status `s`. -/
def World.commit (w : World) (time : Instant) (op : StoreOp)
    (r : Except Exc Unit) (s : Status) : World :=
  { w with status := s, trace := ⟨time, .store op r, s⟩ :: w.trace }

@[simp] theorem World.log_status (w : World) (time : Instant) (event : Event) :
    (w.log time event).status = w.status := rfl

@[simp] theorem World.log_trace (w : World) (time : Instant) (event : Event) :
    (w.log time event).trace = ⟨time, event, w.status⟩ :: w.trace := rfl

@[simp] theorem World.commit_status (w : World) (time : Instant) (op : StoreOp)
    (r : Except Exc Unit) (s : Status) :
    (w.commit time op r s).status = s := rfl

@[simp] theorem World.commit_trace (w : World) (time : Instant) (op : StoreOp)
    (r : Except Exc Unit) (s : Status) :
    (w.commit time op r s).trace = ⟨time, .store op r, s⟩ :: w.trace := rfl

/-!
## Issuing a call
-/

/-- Put an answered call on the trace, then return or raise its answer. -/
def call {alpha : Type} (answer : Env -> Trace -> Except Exc alpha)
    (event : Except Exc alpha -> Event) : OpM alpha := fun env w =>
  let r := answer env w.trace
  match r with
  | .ok a => .ok a (w.log env.now (event r))
  | .error e => .error e (w.log env.now (event r))

/-- Put a mark on the trace. -/
def note (event : Event) : OpM Unit := fun env w =>
  .ok () (w.log env.now event)

def listAnalyses : OpM (List AnalysisDoc) :=
  call (fun env trace => env.listAnalyses trace) .listAnalyses

def listDatapoints : OpM (List DatapointDoc) :=
  call (fun env trace => env.listDatapoints trace) .listDatapoints

def listStartedDatapoints : OpM (List DatapointDoc) :=
  call (fun env trace => env.listStartedDatapoints trace) .listStartedDatapoints

def getAnalysisStatus (id : String) : OpM (Option AnalysisStatusPayload) :=
  call (fun env trace => env.getAnalysisStatus trace id) (.getAnalysisStatus id)

def readNamespacedJob (name : String) : OpM Job :=
  call (fun env trace => env.readJob trace name) (.readJob name)

def workersForAnalysis (id : String) : OpM (List String) :=
  call (fun env trace => env.workersForAnalysis trace id) (.workersForAnalysis id)

def listNamespacedPod : OpM (List (Option String)) :=
  call (fun env trace => env.listPods trace) .listPods

def workerHeartbeats : OpM (List String) :=
  call (fun env trace => env.workerHeartbeats trace) .workerHeartbeats

def queueDepths : OpM (List (String × Nat)) :=
  call (fun env trace => env.queueDepths trace) .queueDepths

def staleWorkers : OpM (List String) :=
  call (fun env trace => env.staleWorkers trace) .staleWorkers

def deploymentLabelSelector (deployment : String) : OpM (Option String) :=
  call (fun env trace => env.deploymentLabelSelector trace deployment)
    (.deploymentLabelSelector deployment)

def listWorkerPods (selector : String) : OpM (List WorkerPod) :=
  call (fun env trace => env.listWorkerPods trace selector) (.listWorkerPods selector)

def mutate (m : Mutation) : OpM Unit :=
  call (fun env trace => env.mutate trace m) (.mutate m)

def emit (type : EventType) (reason message : String) : OpM Unit :=
  call (fun env trace => env.emit trace type reason message)
    (.emit type reason message)

def processMemory : OpM ProcessMemory := fun _ w => .ok w.memory w

def modifyMemory (f : ProcessMemory -> ProcessMemory) : OpM Unit := fun _ w =>
  .ok () { w with memory := f w.memory }

/-- The elements of a set, in the order of its iteration. -/
def iterateSet (ids : List String) : OpM (List String) := fun env w =>
  .ok (env.setOrder w.trace ids).val w

/-- An `if` statement without an `else`. -/
def onlyIf (c : Bool) (m : OpM Unit) : OpM Unit :=
  if c then m else pure ()

/-- The lookup of the per-resource caches: a miss creates empty ones. -/
def lookupCaches : OpM Unit := do
  let env <- read
  onlyIf env.freshCaches do
    note .processStart
    modifyMemory fun _ => {}

/-- `if not dry_run: <mutation>`, with a mark where it is withheld. -/
def mutateUnless (dryRun : Bool) (m : Mutation) : OpM Unit :=
  if dryRun then note (.suppressed m) else mutate m

/-!
## Ticks on the trace
-/

/-- The configuration of the tick that the newest entry belongs to. -/
def currentConfig : Trace -> Option OperatorConfig
  | [] => none
  | e :: older =>
      match e.event with
      | .tickStart config => some config
      | _ => currentConfig older

/-- The entries of the tick that the newest entry belongs to. -/
def currentTick : Trace -> Trace
  | [] => []
  | e :: older =>
      match e.event with
      | .tickStart _ => []
      | _ => e :: currentTick older

theorem currentConfig_cons {e : Entry}
    (he : forall config, e.event ≠ .tickStart config) (older : Trace) :
    currentConfig (e :: older) = currentConfig older := by
  rw [currentConfig]
  split
  · rename_i config hevent
    exact absurd hevent (he config)
  · rfl

theorem currentTick_cons {e : Entry}
    (he : forall config, e.event ≠ .tickStart config) (older : Trace) :
    currentTick (e :: older) = e :: currentTick older := by
  rw [currentTick]
  split
  · rename_i config hevent
    exact absurd hevent (he config)
  · rfl

theorem mem_currentTick_cons {x e : Entry} {older : Trace}
    (h : x ∈ currentTick (e :: older)) : x = e ∨ x ∈ currentTick older := by
  rw [currentTick] at h
  split at h
  · exact absurd h List.not_mem_nil
  · exact List.mem_cons.mp h

theorem mem_of_mem_currentTick {x : Entry} :
    forall {trace : Trace}, x ∈ currentTick trace -> x ∈ trace := by
  intro trace
  induction trace with
  | nil => exact id
  | cons e older ih =>
      intro h
      rcases mem_currentTick_cons h with heq | hmem
      · rw [heq]
        exact List.mem_cons_self
      · exact List.mem_cons_of_mem e (ih hmem)

def Entry.opensTick (e : Entry) : Bool :=
  match e.event with
  | .tickStart _ => true
  | _ => false

/-- A stretch of history cut into its ticks. -/
def ticksOf (stretch : Trace) : List Trace :=
  blocks Entry.opensTick stretch

theorem Entry.opensTick_eq_false {e : Entry}
    (he : forall config, e.event ≠ .tickStart config) : e.opensTick = false := by
  unfold Entry.opensTick
  split
  · rename_i config hevent
    exact absurd hevent (he config)
  · rfl

/-- A tick that has entries has not just been opened. -/
theorem currentTick_cons_of_mem {x e : Entry} {older : Trace}
    (h : x ∈ currentTick (e :: older)) :
    currentTick (e :: older) = e :: currentTick older := by
  apply currentTick_cons
  intro config hevent
  rw [currentTick, hevent] at h
  exact absurd h List.not_mem_nil

/-- The newest tick of a stretch is part of the current one. -/
theorem mem_newestBlock_append {x : Entry} {older : Trace} :
    forall {stretch : Trace}, x ∈ newestBlock Entry.opensTick stretch ->
      x.opensTick = true ∨ x ∈ currentTick (stretch ++ older)
  | [], h => absurd h List.not_mem_nil
  | e :: stretch, h => by
      generalize hopens : e.opensTick = opens at h
      cases opens with
      | true =>
          rw [newestBlock_cons_of_opens hopens] at h
          rw [List.mem_singleton.mp h]
          exact Or.inl hopens
      | false =>
          have hevent : forall config, e.event ≠ .tickStart config := by
            intro config hevent
            unfold Entry.opensTick at hopens
            rw [hevent] at hopens
            cases hopens
          rw [newestBlock_cons hopens] at h
          rw [List.cons_append, currentTick_cons hevent]
          rcases List.mem_cons.mp h with hx | hrest
          · rw [hx]
            exact Or.inr List.mem_cons_self
          · rcases mem_newestBlock_append hrest with hstart | hmem
            · exact Or.inl hstart
            · exact Or.inr (List.mem_cons_of_mem e hmem)

theorem mem_newestBlock_takeWhile {keep : Entry -> Bool} {x : Entry} {trace : Trace}
    (h : x ∈ newestBlock Entry.opensTick (trace.takeWhile keep)) :
    x.opensTick = true ∨ x ∈ currentTick trace := by
  rw [← List.takeWhile_append_dropWhile (p := keep) (l := trace)]
  exact mem_newestBlock_append h

/-- The history before the tick that the newest entry belongs to. -/
def beforeTick : Trace -> Trace
  | [] => []
  | e :: older =>
      match e.event with
      | .tickStart _ => older
      | _ => beforeTick older

theorem mem_of_mem_beforeTick {x : Entry} :
    forall {trace : Trace}, x ∈ beforeTick trace -> x ∈ trace := by
  intro trace
  induction trace with
  | nil => exact id
  | cons e older ih =>
      intro h
      rw [beforeTick] at h
      split at h
      · exact List.mem_cons_of_mem e h
      · exact List.mem_cons_of_mem e (ih h)

theorem beforeTick_cons {e : Entry}
    (he : forall config, e.event ≠ .tickStart config) (older : Trace) :
    beforeTick (e :: older) = beforeTick older := by
  rw [beforeTick]
  split
  · rename_i config hevent
    exact absurd hevent (he config)
  · rfl

theorem currentConfig_append {block : Trace}
    (hblock : forall e, e ∈ block -> forall config, e.event ≠ .tickStart config)
    (older : Trace) : currentConfig (block ++ older) = currentConfig older := by
  induction block with
  | nil => rfl
  | cons e block ih =>
      rw [List.cons_append, currentConfig_cons (hblock e List.mem_cons_self)]
      exact ih fun e' he' => hblock e' (List.mem_cons_of_mem e he')

theorem beforeTick_append {block : Trace}
    (hblock : forall e, e ∈ block -> forall config, e.event ≠ .tickStart config)
    (older : Trace) : beforeTick (block ++ older) = beforeTick older := by
  induction block with
  | nil => rfl
  | cons e block ih =>
      rw [List.cons_append, beforeTick_cons (hblock e List.mem_cons_self)]
      exact ih fun e' he' => hblock e' (List.mem_cons_of_mem e he')

/-- Either a block of calls belongs to one tick, or that tick opened within it. -/
theorem beforeTick_block (older : Trace) :
    forall block : Trace,
      (forall e, e ∈ block -> forall config, e.event ≠ .tickStart config) ∨
        exists earlier, beforeTick (block ++ older) = earlier ++ older ∧
          forall e, e ∈ earlier -> e ∈ block
  | [] => Or.inl fun _ he => absurd he List.not_mem_nil
  | e :: block => by
      rw [List.cons_append]
      generalize hevent : e.event = event
      cases event with
      | tickStart config =>
          refine Or.inr ⟨block, ?_, fun e' he' => List.mem_cons_of_mem e he'⟩
          rw [beforeTick]
          simp only [hevent]
      | _ =>
          have hne : forall config, e.event ≠ .tickStart config := by
            intro config
            rw [hevent]
            exact Event.noConfusion
          rcases beforeTick_block older block with hsame | ⟨earlier, hbefore, hmem⟩
          · left
            intro e' he'
            rcases List.mem_cons.mp he' with heq | hrest
            · rw [heq]
              exact hne
            · exact hsame e' hrest
          · refine Or.inr ⟨earlier, ?_, fun e' he' => List.mem_cons_of_mem e (hmem e' he')⟩
            rw [beforeTick_cons hne]
            exact hbefore

/-- The time of the tick that the newest entry belongs to. -/
def tickTime : Trace -> Option Instant
  | [] => none
  | e :: older =>
      match e.event with
      | .tickStart _ => some e.time
      | _ => tickTime older

theorem tickTime_cons {e : Entry}
    (he : forall config, e.event ≠ .tickStart config) (older : Trace) :
    tickTime (e :: older) = tickTime older := by
  rw [tickTime]
  split
  · rename_i config hevent
    exact absurd hevent (he config)
  · rfl

theorem tickTime_append {block : Trace}
    (hblock : forall e, e ∈ block -> forall config, e.event ≠ .tickStart config)
    (older : Trace) : tickTime (block ++ older) = tickTime older := by
  induction block with
  | nil => rfl
  | cons e block ih =>
      rw [List.cons_append, tickTime_cons (hblock e List.mem_cons_self)]
      exact ih fun e' he' => hblock e' (List.mem_cons_of_mem e he')

/-- What a tick has done so far stands on top of the entry that opened it. -/
theorem exists_tickStart {time : Instant} :
    forall {trace : Trace}, tickTime trace = some time ->
      exists start config oldest, trace = currentTick trace ++ start :: oldest ∧
        start.event = .tickStart config ∧ start.time = time := by
  intro trace
  induction trace with
  | nil =>
      intro h
      cases h
  | cons e older ih =>
      intro h
      rw [tickTime] at h
      split at h
      · rename_i config hevent
        refine ⟨e, config, older, ?_, hevent, Option.some.inj h⟩
        rw [currentTick]
        simp only [hevent, List.nil_append]
      · rename_i hne
        have hne' : forall config, e.event ≠ .tickStart config := fun config => hne config
        rcases ih h with ⟨start, config, oldest, htrace, hstart, htime⟩
        refine ⟨start, config, oldest, ?_, hstart, htime⟩
        rw [currentTick_cons hne', List.cons_append, ← htrace]

theorem ne_tickStart_of_mem_currentTick {x : Entry} (config : OperatorConfig) :
    forall {trace : Trace}, x ∈ currentTick trace -> x.event ≠ .tickStart config := by
  intro trace
  induction trace with
  | nil =>
      intro h
      exact absurd h List.not_mem_nil
  | cons e older ih =>
      intro h
      have htick := currentTick_cons_of_mem h
      rw [htick] at h
      rcases List.mem_cons.mp h with hnew | hold
      · intro hevent
        rw [currentTick, ← hnew] at htick
        simp only [hevent] at htick
        cases htick
      · exact ih hold

/-- A history splits at an entry of its current tick, with only entries of
that tick above. -/
theorem exists_split_currentTick {x : Entry} :
    forall {trace : Trace}, x ∈ currentTick trace ->
      exists newer older, trace = newer ++ x :: older ∧
        forall y, y ∈ newer -> y ∈ currentTick trace := by
  intro trace
  induction trace with
  | nil =>
      intro h
      exact absurd h List.not_mem_nil
  | cons e older ih =>
      intro h
      have htick := currentTick_cons_of_mem h
      rw [htick] at h
      rw [htick]
      rcases List.mem_cons.mp h with hnew | hold
      · exact ⟨[], older, by rw [hnew, List.nil_append],
          fun y hy => absurd hy List.not_mem_nil⟩
      · rcases ih hold with ⟨newer, oldest, htrace, hnewer⟩
        refine ⟨e :: newer, oldest, by rw [htrace, List.cons_append], ?_⟩
        intro y hy
        rcases List.mem_cons.mp hy with heq | hmem
        · rw [heq]
          exact List.mem_cons_self
        · exact List.mem_cons_of_mem e (hnewer y hmem)

/-- The status a history leaves, from the given initial one. -/
def latestStatus (initial : Status) : Trace -> Status
  | [] => initial
  | e :: _ => e.status

/-- One scheduled tick: who answers its calls, what it runs under, and the
registry of live anchors the process holds when it starts.  Other handlers of
the process fill the registry and a restart empties it, so it is free. -/
structure Tick where
  env : Env
  config : OperatorConfig
  registry : StatusField -> List String := fun _ => []

/-- Open a tick on the trace, then run it. -/
def inTick {alpha : Type} (config : OperatorConfig) (body : OpM alpha) :
    OpM alpha := do
  note (.tickStart config)
  body

/-- The world after one tick, whether it returned or raised. -/
def runTick {alpha : Type} (body : OperatorConfig -> OpM alpha) (t : Tick)
    (w : World) : World :=
  Prog.exec (inTick t.config (body t.config)) t.env
    { w with protectedKeys := t.registry }

/-- Run ticks one after the other; a raise aborts one tick only. -/
def runTicks {alpha : Type} (body : OperatorConfig -> OpM alpha) :
    List Tick -> World -> World
  | [], w => w
  | t :: later, w => runTicks body later (runTick body t w)

/-- The world in which a tick opens. -/
def World.openTick (w : World) (t : Tick) : World :=
  World.log { w with protectedKeys := t.registry } t.env.now (.tickStart t.config)

/-- Every tick of the run meets a condition on it and on the world before it. -/
def EveryTick {alpha : Type} (body : OperatorConfig -> OpM alpha)
    (cond : Tick -> World -> Prop) : List Tick -> World -> Prop
  | [], _ => True
  | t :: later, w => cond t w ∧ EveryTick body cond later (runTick body t w)

theorem EveryTick.mono {alpha : Type} {body : OperatorConfig -> OpM alpha}
    {cond cond' : Tick -> World -> Prop} :
    forall {ticks : List Tick} {w : World}, EveryTick body cond ticks w ->
      (forall t w, t ∈ ticks -> cond t w -> cond' t w) ->
      EveryTick body cond' ticks w := by
  intro ticks
  induction ticks with
  | nil =>
      intro _ _ _
      exact trivial
  | cons t later ih =>
      intro w h himp
      refine ⟨himp t w List.mem_cons_self h.1, ?_⟩
      exact ih h.2 fun t' w' ht' => himp t' w' (List.mem_cons_of_mem t ht')

instance instDecidableEveryTick {alpha : Type} (body : OperatorConfig -> OpM alpha)
    (cond : Tick -> World -> Prop) [forall t w, Decidable (cond t w)] :
    forall (ticks : List Tick) (w : World), Decidable (EveryTick body cond ticks w)
  | [], _ => inferInstanceAs (Decidable True)
  | t :: later, w =>
      have := instDecidableEveryTick body cond later (runTick body t w)
      inferInstanceAs (Decidable (_ ∧ _))

theorem EveryTick.of_forall {alpha : Type} {body : OperatorConfig -> OpM alpha}
    {cond : Tick -> World -> Prop} :
    forall {ticks : List Tick} {w : World}, (forall t w, t ∈ ticks -> cond t w) ->
      EveryTick body cond ticks w := by
  intro ticks
  induction ticks with
  | nil =>
      intro _ _
      exact trivial
  | cons t later ih =>
      intro w h
      exact ⟨h t w List.mem_cons_self,
        ih fun t' w' ht' => h t' w' (List.mem_cons_of_mem t ht')⟩

theorem runTicks_append {alpha : Type} (body : OperatorConfig -> OpM alpha) :
    forall (earlier later : List Tick) (w : World),
      runTicks body (earlier ++ later) w =
        runTicks body later (runTicks body earlier w) := by
  intro earlier later
  induction earlier with
  | nil =>
      intro w
      rfl
  | cons t earlier ih =>
      intro w
      exact ih (runTick body t w)

theorem everyTick_append {alpha : Type} {body : OperatorConfig -> OpM alpha}
    {cond : Tick -> World -> Prop} :
    forall {earlier later : List Tick} {w : World},
      EveryTick body cond (earlier ++ later) w <->
        EveryTick body cond earlier w ∧
          EveryTick body cond later (runTicks body earlier w) := by
  intro earlier later
  induction earlier with
  | nil =>
      intro w
      exact (and_iff_right trivial).symm
  | cons t earlier ih =>
      intro w
      exact (and_congr_right fun _ => ih).trans and_assoc.symm

/-- A property that every tick preserves holds after every run. -/
theorem runTicks_induction {alpha : Type} {body : OperatorConfig -> OpM alpha}
    (P : World -> Prop) :
    forall (ticks : List Tick) (w : World), P w ->
      (forall t w, t ∈ ticks -> P w -> P (runTick body t w)) ->
      P (runTicks body ticks w) := by
  intro ticks
  induction ticks with
  | nil =>
      intro w hw _
      exact hw
  | cons t later ih =>
      intro w hw hstep
      apply ih
      · exact hstep t w List.mem_cons_self hw
      · intro t' w' ht' hw'
        exact hstep t' w' (List.mem_cons_of_mem t ht') hw'

/-- A part of the tick `t` appended its own entries to the history. -/
def Appends (t : Tick) (w w' : World) : Prop :=
  exists block, w'.trace = block ++ w.trace ∧
    forall e, e ∈ block ->
      e.time = t.env.now ∧ forall config, e.event ≠ .tickStart config

theorem Appends.refl (t : Tick) (w : World) : Appends t w w :=
  ⟨[], rfl, fun _ he => absurd he List.not_mem_nil⟩

theorem Appends.log {t : Tick} {w w' : World} (h : Appends t w w') {event : Event}
    (hevent : forall config, event ≠ .tickStart config) :
    Appends t w (w'.log t.env.now event) := by
  rcases h with ⟨block, htrace, hblock⟩
  refine ⟨⟨t.env.now, event, w'.status⟩ :: block, ?_, ?_⟩
  · rw [World.log_trace, htrace, List.cons_append]
  · intro e he
    rcases List.mem_cons.mp he with hnew | hold
    · rw [hnew]
      exact ⟨rfl, hevent⟩
    · exact hblock e hold

theorem Appends.commit {t : Tick} {w w' : World} (h : Appends t w w')
    {op : StoreOp} {r : Except Exc Unit} {s : Status} :
    Appends t w (w'.commit t.env.now op r s) := by
  rcases h with ⟨block, htrace, hblock⟩
  refine ⟨⟨t.env.now, .store op r, s⟩ :: block, ?_, ?_⟩
  · rw [World.commit_trace, htrace, List.cons_append]
  · intro e he
    rcases List.mem_cons.mp he with hnew | hold
    · rw [hnew]
      exact ⟨rfl, by simp⟩
    · exact hblock e hold

/-- Where a world of the tick `t`, opened in `w0`, stands in the history. -/
structure Within (initial : Status) (t : Tick) (w0 w : World) : Prop where
  latest : latestStatus initial w.trace = w.status
  before : beforeTick w.trace = w0.trace
  config : currentConfig w.trace = some t.config
  time : tickTime w.trace = some t.env.now

section Within

variable {initial : Status} {t : Tick} {w0 w w' : World}

theorem Within.openTick (w0 : World) : Within initial t w0 (w0.openTick t) where
  latest := rfl
  before := rfl
  config := rfl
  time := rfl

theorem Within.log (h : Within initial t w0 w) {event : Event}
    (hevent : forall config, event ≠ .tickStart config) :
    Within initial t w0 (w.log t.env.now event) where
  latest := rfl
  before := (beforeTick_cons hevent _).trans h.before
  config := (currentConfig_cons hevent _).trans h.config
  time := (tickTime_cons hevent _).trans h.time

theorem Within.commit (h : Within initial t w0 w) {op : StoreOp}
    {r : Except Exc Unit} {s : Status} :
    Within initial t w0 (w.commit t.env.now op r s) where
  latest := rfl
  before := h.before
  config := h.config
  time := h.time

/-- Within a tick the newest entry carries the status. -/
theorem Within.newest (h : Within initial t w0 w) :
    exists e older, w.trace = e :: older ∧ e.status = w.status := by
  have htime := h.time
  have hlatest := h.latest
  cases htrace : w.trace with
  | nil =>
      rw [htrace] at htime
      cases htime
  | cons e older =>
      rw [htrace] at hlatest
      exact ⟨e, older, rfl, hlatest⟩

theorem Within.appends (h : Within initial t w0 w) (happends : Appends t w w')
    (hlatest : latestStatus initial w'.trace = w'.status) :
    Within initial t w0 w' := by
  rcases happends with ⟨block, htrace, hblock⟩
  constructor
  · exact hlatest
  · rw [htrace, beforeTick_append fun e he => (hblock e he).2]
    exact h.before
  · rw [htrace, currentConfig_append fun e he => (hblock e he).2]
    exact h.config
  · rw [htrace, tickTime_append fun e he => (hblock e he).2]
    exact h.time

end Within

/-- The tick at hand has made no call of the kind. -/
def Quiet (p : Event -> Prop) (w : World) : Prop :=
  forall e, e ∈ currentTick w.trace -> ¬ p e.event

/-- From `w` to `w'` no call of the kind was made. -/
def Idle (p : Event -> Prop) (w w' : World) : Prop :=
  exists block, w'.trace = block ++ w.trace ∧ forall e, e ∈ block -> ¬ p e.event

section Idle

variable {p : Event -> Prop} {w w' w'' : World}

theorem Idle.refl (p : Event -> Prop) (w : World) : Idle p w w :=
  ⟨[], rfl, fun _ he => absurd he List.not_mem_nil⟩

theorem Idle.trans (h : Idle p w w') (h' : Idle p w' w'') : Idle p w w'' := by
  rcases h with ⟨block, htrace, hblock⟩
  rcases h' with ⟨block', htrace', hblock'⟩
  refine ⟨block' ++ block, by rw [htrace', htrace, List.append_assoc], ?_⟩
  intro e he
  rcases List.mem_append.mp he with hnew | hold
  · exact hblock' e hnew
  · exact hblock e hold

theorem Idle.log (h : Idle p w w') (time : Instant) {event : Event}
    (hevent : ¬ p event) : Idle p w (w'.log time event) := by
  apply h.trans
  refine ⟨[⟨time, event, w'.status⟩], rfl, ?_⟩
  intro e he
  rw [List.mem_singleton.mp he]
  exact hevent

theorem Idle.commit (h : Idle p w w') (time : Instant) {op : StoreOp}
    {r : Except Exc Unit} (s : Status) (hop : ¬ p (.store op r)) :
    Idle p w (w'.commit time op r s) := by
  apply h.trans
  refine ⟨[⟨time, .store op r, s⟩], rfl, ?_⟩
  intro e he
  rw [List.mem_singleton.mp he]
  exact hop

theorem Idle.mono {q : Event -> Prop} (h : Idle p w w')
    (hq : forall event, q event -> p event) : Idle q w w' := by
  rcases h with ⟨block, htrace, hblock⟩
  exact ⟨block, htrace, fun e he hcall => hblock e he (hq _ hcall)⟩

theorem Quiet.mono {q : Event -> Prop} (h : Quiet p w)
    (hq : forall event, q event -> p event) : Quiet q w :=
  fun e he hcall => h e he (hq _ hcall)

/-- What a tick has not done by now it had not done before. -/
theorem Quiet.of_appends {t : Tick} (happends : Appends t w w') (h : Quiet p w') :
    Quiet p w := by
  rcases happends with ⟨block, htrace, hblock⟩
  intro e he
  apply h e
  rw [htrace]
  clear htrace
  induction block with
  | nil => exact he
  | cons e' block ih =>
      rw [List.cons_append, currentTick_cons (hblock e' List.mem_cons_self).2]
      exact List.mem_cons_of_mem e' (ih fun x hx => hblock x (List.mem_cons_of_mem e' hx))

theorem Quiet.idle (h : Quiet p w) (hidle : Idle p w w') : Quiet p w' := by
  rcases hidle with ⟨block, htrace, hblock⟩
  unfold Quiet
  rw [htrace]
  clear htrace
  induction block with
  | nil => exact h
  | cons e block ih =>
      intro x hx
      rcases mem_currentTick_cons hx with hnew | hold
      · rw [hnew]
        exact hblock e List.mem_cons_self
      · exact ih (fun y hy => hblock y (List.mem_cons_of_mem e hy)) x hold

end Idle

/-- Ticks open under a configuration that meets `K`, and the other entries
carry the time of their tick. -/
structure TickLaw (K : OperatorConfig -> Prop) (e : Entry) (older : Trace) :
    Prop where
  config : forall config, e.event = .tickStart config -> K config
  time : (forall config, e.event ≠ .tickStart config) ->
    tickTime older = some e.time

theorem TickLaw.openTick {K : OperatorConfig -> Prop} {t : Tick} {w : World}
    (hK : K t.config) (h : Throughout (TickLaw K) w.trace) :
    Throughout (TickLaw K) (w.openTick t).trace := by
  refine .cons ?_ h
  constructor
  · intro config hevent
    cases hevent
    exact hK
  · intro hevent
    exact absurd rfl (hevent t.config)

theorem Appends.tickLaw {K : OperatorConfig -> Prop} {t : Tick} {w w' : World}
    (happends : Appends t w w') (htime : tickTime w.trace = some t.env.now)
    (h : Throughout (TickLaw K) w.trace) : Throughout (TickLaw K) w'.trace := by
  rcases happends with ⟨block, htrace, hblock⟩
  rw [htrace]
  clear htrace
  induction block with
  | nil => exact h
  | cons e block ih =>
      have hrest : forall e', e' ∈ block -> e'.time = t.env.now ∧
          forall config, e'.event ≠ .tickStart config :=
        fun e' he' => hblock e' (List.mem_cons_of_mem e he')
      have he := hblock e List.mem_cons_self
      rw [List.cons_append]
      refine .cons ?_ (ih hrest)
      constructor
      · intro config hevent
        exact absurd hevent (he.2 config)
      · intro _
        rw [tickTime_append fun e' he' => (hrest e' he').2, htime, he.1]

/-- The configuration of every tick meets `K`. -/
theorem TickLaw.currentConfig {K : OperatorConfig -> Prop} :
    forall {trace : Trace} {config : OperatorConfig}, Throughout (TickLaw K) trace ->
      OpenStudioOperator.currentConfig trace = some config -> K config := by
  intro trace
  induction trace with
  | nil =>
      intro config _ hconfig
      cases hconfig
  | cons e older ih =>
      intro config h hconfig
      unfold OpenStudioOperator.currentConfig at hconfig
      split at hconfig
      · rename_i opened hevent
        rw [← Option.some.inj hconfig]
        exact h.head.config opened hevent
      · exact ih h.tail hconfig

/-!
## Rules for calls
-/

/-- How a call with the answer `r` ends. -/
def answered {alpha : Type} (r : Except Exc alpha) (w : World) :
    EStateM.Result Exc World alpha :=
  match r with
  | .ok a => .ok a w
  | .error e => .error e w

theorem run_mutate {m : Mutation} {env : Env} {w : World} {r : Except Exc Unit}
    (hanswer : env.mutate w.trace m = r) :
    mutate m env w = answered r (w.log env.now (.mutate m r)) := by
  rw [← hanswer]
  rfl

theorem run_emit {type : EventType} {reason message : String} {env : Env} {w : World}
    {r : Except Exc Unit} (hanswer : env.emit w.trace type reason message = r) :
    emit type reason message env w =
      answered r (w.log env.now (.emit type reason message r)) := by
  rw [← hanswer]
  rfl

theorem wp_call {alpha : Type} {answer : Env -> Trace -> Except Exc alpha}
    {event : Except Exc alpha -> Event} {env : Env} {w : World}
    {Q : alpha -> World -> Prop} {E : Exc -> World -> Prop}
    (hok : forall a, answer env w.trace = .ok a ->
      Q a (w.log env.now (event (.ok a))))
    (hraise : forall e, answer env w.trace = .error e ->
      E e (w.log env.now (event (.error e)))) :
    Prog.wp (call answer event) env w Q E := by
  cases hanswer : answer env w.trace with
  | ok a =>
      have hQ := hok a hanswer
      simpa only [Prog.wp, call, hanswer] using hQ
  | error e =>
      have hE := hraise e hanswer
      simpa only [Prog.wp, call, hanswer] using hE

@[simp] theorem wp_note (event : Event) (env : Env) (w : World)
    (Q : Unit -> World -> Prop) (E : Exc -> World -> Prop) :
    Prog.wp (note event) env w Q E <-> Q () (w.log env.now event) := Iff.rfl

@[simp] theorem wp_processMemory (env : Env) (w : World)
    (Q : ProcessMemory -> World -> Prop) (E : Exc -> World -> Prop) :
    Prog.wp processMemory env w Q E <-> Q w.memory w := Iff.rfl

@[simp] theorem wp_modifyMemory (f : ProcessMemory -> ProcessMemory) (env : Env)
    (w : World) (Q : Unit -> World -> Prop) (E : Exc -> World -> Prop) :
    Prog.wp (modifyMemory f) env w Q E <-> Q () { w with memory := f w.memory } :=
  Iff.rfl

/-- A set may be iterated in any order. -/
theorem wp_iterateSet {ids : List String} {env : Env} {w : World}
    {Q : List String -> World -> Prop} {E : Exc -> World -> Prop}
    (h : forall order, order.Perm ids -> Q order w) :
    Prog.wp (iterateSet ids) env w Q E :=
  h _ (env.setOrder w.trace ids).property

end OpenStudioOperator
