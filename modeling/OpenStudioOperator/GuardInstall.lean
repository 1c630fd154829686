import OpenStudioOperator.Foundation.Gauges
import OpenStudioOperator.TimerGauges

/-!
# Gates and finalizers of the registered handlers

kopf keeps a list of the timers that the modules register.  The singleton guard replaces the
functions of some of them by gates, and the persistence settings take the need of a finalizer
from them.  Both walk the list in place, any number of times and in any order, while modules
go on to register.
-/

namespace OpenStudioOperator
namespace GuardInstall

open Foundation
open TimerTicks (Ending Invocation TimerProcess countGateFailure gatedTick observedTick
  runOscmTick runOscmTick_state servedState verdict)
open SingletonGuard (crName isActive)

/-!
## Handlers
-/

/-- The function of a handler: a plain one, or a gate around one. -/
inductive HandlerFn where
  | bare (name : String)
  | gated (fn : HandlerFn)
deriving DecidableEq, Repr

/-- `GUARD_MARKER`. -/
def HandlerFn.marked : HandlerFn -> Bool
  | .bare _ => false
  | .gated _ => true

/-- What a handler selects, as `str` shows it; a missing group reads `None`. -/
structure Selector where
  group : String
  anyName : Option String
  plural : Option String
deriving DecidableEq, Repr

/-- An entry of `registry._spawning._handlers`.  Some entries are no dataclasses, so that
`dataclasses.replace` raises a `TypeError`. -/
structure SpawningHandler where
  id : String
  selector : Option Selector
  fn : Option HandlerFn
  requiresFinalizer : Bool
  replaceable : Bool
deriving DecidableEq, Repr

def crdGroup : String := "energy.nrel.gov"

def crdPlural : String := "openstudioclustermanagers"

/-- `_selector_matches_oscms`. -/
def selectorMatchesOscms (handler : SpawningHandler) : Bool :=
  match handler.selector with
  | none => false
  | some sel =>
      sel.group == crdGroup && [sel.anyName, sel.plural].any (fun name => name == some crdPlural)

/-!
## The process at boot
-/

/-- A log line of a walk; those about one handler carry its id. -/
inductive LogLine where
  | guardInternals
  | unregistered (id : String)
  | notGateable (id : String)
  | gating (count : Nat) (ids : List String)
  | missing (count : Nat)
  | persistenceInternals
  | notReplaceable (id : String)
  | disarmed (count : Nat)
deriving DecidableEq, Repr

/-- The two registries, the gauges and the log.  There are no handlers when the internals of
kopf are not as expected. -/
structure BootProcess where
  handlers : Option (List SpawningHandler)
  registry : Dict String HandlerFn := .empty
  wrappedHandlers : Nat := 0
  expectedHandlers : Nat := 0
  log : List LogLine := []

def register (id : String) (fn : HandlerFn) (p : BootProcess) : BootProcess :=
  { p with registry := p.registry.set id fn }

def isRegistered (registry : Dict String HandlerFn) (id : String) : Bool := registry.contains id

def resetRegistry (p : BootProcess) : BootProcess := { p with registry := .empty }

/-- kopf appends a handler. -/
def spawn (handler : SpawningHandler) (p : BootProcess) : BootProcess :=
  { p with handlers := p.handlers.map (· ++ [handler]) }

/-!
## The walk of the guard
-/

/-- What the guard does with a handler. -/
inductive GateOutcome where
  | left
  | unregistered
  | notGateable
  | wrapped (fn : HandlerFn)

def gateOutcome (registry : Dict String HandlerFn) (handler : SpawningHandler) : GateOutcome :=
  if !selectorMatchesOscms handler then .left
  else
    match handler.fn with
    | none => .left
    | some fn =>
        if fn.marked then .left
        else if !isRegistered registry handler.id then .unregistered
        else if !handler.replaceable then .notGateable
        else .wrapped (.gated fn)

/-- The list after a walk, the counts and the lines. -/
structure GuardWalk where
  handlers : List SpawningHandler := []
  wrapped : Nat := 0
  skippedUnregistered : Nat := 0
  lines : List LogLine := []

def guardWalk (registry : Dict String HandlerFn) : List SpawningHandler -> GuardWalk
  | [] => {}
  | handler :: rest =>
      let walk := guardWalk registry rest
      match gateOutcome registry handler with
      | .left => { walk with handlers := handler :: walk.handlers }
      | .unregistered =>
          { walk with
            handlers := handler :: walk.handlers
            skippedUnregistered := walk.skippedUnregistered + 1
            lines := .unregistered handler.id :: walk.lines }
      | .notGateable =>
          { walk with
            handlers := handler :: walk.handlers
            lines := .notGateable handler.id :: walk.lines }
      | .wrapped fn =>
          { walk with
            handlers := { handler with fn := some fn } :: walk.handlers
            wrapped := walk.wrapped + 1 }

/-- A handler of the resource that has a function. -/
def expects (handler : SpawningHandler) : Bool :=
  selectorMatchesOscms handler && handler.fn.isSome

/-- A handler of the resource that carries the marker. -/
def carriesGate (handler : SpawningHandler) : Bool :=
  selectorMatchesOscms handler && handler.fn.any HandlerFn.marked

/-- `install_singleton_guard`, and the count that it returns. -/
def installSingletonGuard (p : BootProcess) : Nat × BootProcess :=
  match p.handlers with
  | none =>
      (0, { p with
        wrappedHandlers := 0
        expectedHandlers := p.registry.size
        log := p.log ++ [.guardInternals] })
  | some handlers =>
      let walk := guardWalk p.registry handlers
      let ids := (walk.handlers.filter selectorMatchesOscms).map SpawningHandler.id
      let gating := if walk.wrapped = 0 then [] else [LogLine.gating walk.wrapped ids]
      let missing :=
        if walk.skippedUnregistered = 0 then [] else [LogLine.missing walk.skippedUnregistered]
      (walk.wrapped, { p with
        handlers := some walk.handlers
        wrappedHandlers := walk.handlers.countP carriesGate
        expectedHandlers := handlers.countP expects
        log := p.log ++ walk.lines ++ gating ++ missing })

/-!
## The walk of the persistence settings
-/

/-- The list after a walk, the count and the lines. -/
structure DisarmWalk where
  handlers : List SpawningHandler := []
  disarmed : Nat := 0
  lines : List LogLine := []

def disarmWalk : List SpawningHandler -> DisarmWalk
  | [] => {}
  | handler :: rest =>
      let walk := disarmWalk rest
      if !selectorMatchesOscms handler || !handler.requiresFinalizer then
        { walk with handlers := handler :: walk.handlers }
      else if !handler.replaceable then
        { walk with
          handlers := handler :: walk.handlers
          lines := .notReplaceable handler.id :: walk.lines }
      else
        { walk with
          handlers := { handler with requiresFinalizer := false } :: walk.handlers
          disarmed := walk.disarmed + 1 }

/-- `disarm_oscm_finalizer_requirements`, and the count that it returns. -/
def disarmOscmFinalizerRequirements (p : BootProcess) : Nat × BootProcess :=
  match p.handlers with
  | none => (0, { p with log := p.log ++ [.persistenceInternals] })
  | some handlers =>
      let walk := disarmWalk handlers
      let summary := if walk.disarmed = 0 then [] else [LogLine.disarmed walk.disarmed]
      (walk.disarmed, { p with
        handlers := some walk.handlers
        log := p.log ++ walk.lines ++ summary })

/-!
## Runs
-/

inductive Step where
  | register (id : String) (fn : HandlerFn)
  | resetRegistry
  | spawn (handler : SpawningHandler)
  | install
  | disarm

def step : Step -> BootProcess -> BootProcess
  | .register id fn, p => register id fn p
  | .resetRegistry, p => resetRegistry p
  | .spawn handler, p => spawn handler p
  | .install, p => (installSingletonGuard p).2
  | .disarm, p => (disarmOscmFinalizerRequirements p).2

/-- The process before the first step. -/
def initial (readable : Bool) : BootProcess where
  handlers := if readable then some [] else none

/-- The process after a history, the newest step first. -/
def stateAfter (readable : Bool) : List Step -> BootProcess
  | [] => initial readable
  | s :: older => step s (stateAfter readable older)

def Step.isInstall : Step -> Bool
  | .install => true
  | _ => false

def Step.isDisarm : Step -> Bool
  | .disarm => true
  | _ => false

def Step.isSpawn : Step -> Bool
  | .spawn _ => true
  | _ => false

/-!
## What a walk does to a handler
-/

def gateHandler (registry : Dict String HandlerFn) (handler : SpawningHandler) :
    SpawningHandler :=
  match gateOutcome registry handler with
  | .wrapped fn => { handler with fn := some fn }
  | _ => handler

def disarmHandler (handler : SpawningHandler) : SpawningHandler :=
  if selectorMatchesOscms handler && handler.requiresFinalizer && handler.replaceable then
    { handler with requiresFinalizer := false }
  else handler

/-- A gate around a function that carries none. -/
def gateOnce (fn : HandlerFn) : HandlerFn := if fn.marked then fn else .gated fn

/-- The line about a handler that the guard leaves without a gate. -/
def slipLine (registry : Dict String HandlerFn) (handler : SpawningHandler) : Option LogLine :=
  match gateOutcome registry handler with
  | .unregistered => some (.unregistered handler.id)
  | .notGateable => some (.notGateable handler.id)
  | _ => none

@[simp] theorem marked_gateOnce (fn : HandlerFn) : (gateOnce fn).marked = true := by
  unfold gateOnce
  split
  · assumption
  · rfl

@[simp] theorem gateOnce_gateOnce (fn : HandlerFn) : gateOnce (gateOnce fn) = gateOnce fn := by
  rw [gateOnce, marked_gateOnce, if_pos rfl]

section Walks

variable (registry : Dict String HandlerFn)

theorem guardWalk_handlers (handlers : List SpawningHandler) :
    (guardWalk registry handlers).handlers = handlers.map (gateHandler registry) := by
  induction handlers with
  | nil => rfl
  | cons handler rest ih =>
      simp only [guardWalk, gateHandler, List.map_cons]
      cases gateOutcome registry handler <;> simp [ih]

theorem guardWalk_lines (handlers : List SpawningHandler) :
    (guardWalk registry handlers).lines = handlers.filterMap (slipLine registry) := by
  induction handlers with
  | nil => rfl
  | cons handler rest ih =>
      simp only [guardWalk, slipLine, List.filterMap_cons]
      cases gateOutcome registry handler <;> simp [ih]

theorem disarmWalk_handlers (handlers : List SpawningHandler) :
    (disarmWalk handlers).handlers = handlers.map disarmHandler := by
  induction handlers with
  | nil => rfl
  | cons handler rest ih =>
      cases hsel : selectorMatchesOscms handler <;> cases hreq : handler.requiresFinalizer <;>
        cases hrep : handler.replaceable <;>
        simp [disarmWalk, disarmHandler, hsel, hreq, hrep, ih]

end Walks

section Handlers

variable {registry : Dict String HandlerFn} {handler : SpawningHandler}

@[simp] theorem gateHandler_id : (gateHandler registry handler).id = handler.id := by
  unfold gateHandler
  split <;> rfl

@[simp] theorem gateHandler_selector :
    (gateHandler registry handler).selector = handler.selector := by
  unfold gateHandler
  split <;> rfl

@[simp] theorem gateHandler_replaceable :
    (gateHandler registry handler).replaceable = handler.replaceable := by
  unfold gateHandler
  split <;> rfl

@[simp] theorem gateHandler_requiresFinalizer :
    (gateHandler registry handler).requiresFinalizer = handler.requiresFinalizer := by
  unfold gateHandler
  split <;> rfl

theorem matches_of_selector {h h' : SpawningHandler} (heq : h.selector = h'.selector) :
    selectorMatchesOscms h = selectorMatchesOscms h' := by
  simp [selectorMatchesOscms, heq]

/-- The function after a walk: a gate is added where there is none, the id is registered, and
the entry can be replaced. -/
theorem gateHandler_fn :
    (gateHandler registry handler).fn =
      if selectorMatchesOscms handler && handler.replaceable &&
          isRegistered registry handler.id then
        handler.fn.map gateOnce
      else handler.fn := by
  unfold gateHandler gateOutcome
  cases hfn : handler.fn with
  | none => cases selectorMatchesOscms handler <;> simp [hfn]
  | some fn =>
      cases selectorMatchesOscms handler <;> cases isRegistered registry handler.id <;>
        cases handler.replaceable <;> cases hmark : fn.marked <;> simp [hfn, hmark, gateOnce]

@[simp] theorem disarmHandler_id : (disarmHandler handler).id = handler.id := by
  unfold disarmHandler
  split <;> rfl

@[simp] theorem disarmHandler_selector :
    (disarmHandler handler).selector = handler.selector := by
  unfold disarmHandler
  split <;> rfl

@[simp] theorem disarmHandler_fn : (disarmHandler handler).fn = handler.fn := by
  unfold disarmHandler
  split <;> rfl

@[simp] theorem disarmHandler_replaceable :
    (disarmHandler handler).replaceable = handler.replaceable := by
  unfold disarmHandler
  split <;> rfl

theorem disarmHandler_requiresFinalizer :
    (disarmHandler handler).requiresFinalizer =
      (handler.requiresFinalizer &&
        !(selectorMatchesOscms handler && handler.replaceable)) := by
  unfold disarmHandler
  cases selectorMatchesOscms handler <;> cases hreq : handler.requiresFinalizer <;>
    cases handler.replaceable <;> simp [hreq]

end Handlers

/-!
## What a run does to a handler
-/

/-- The id has been registered since the last reset. -/
def known (id : String) : List Step -> Bool
  | [] => false
  | .register id' _ :: older => id' == id || known id older
  | .resetRegistry :: _ => false
  | _ :: older => known id older

/-- Some install of the newer steps finds the id registered. -/
def gateReached (id : String) (older : List Step) : List Step -> Bool
  | [] => false
  | s :: newer => s.isInstall && known id (newer ++ older) || gateReached id older newer

/-- What has become of a handler that kopf registered between the two parts of a history. -/
def present (handler : SpawningHandler) (older newer : List Step) : SpawningHandler :=
  { handler with
    fn :=
      if selectorMatchesOscms handler && handler.replaceable &&
          gateReached handler.id (.spawn handler :: older) newer then
        handler.fn.map gateOnce
      else handler.fn
    requiresFinalizer := handler.requiresFinalizer &&
      !(selectorMatchesOscms handler && handler.replaceable && newer.any Step.isDisarm) }

/-- The handlers after a history whose list can be read. -/
def handlersAfter : List Step -> List SpawningHandler
  | [] => []
  | .spawn handler :: older => handlersAfter older ++ [handler]
  | .install :: older => (handlersAfter older).map (gateHandler (stateAfter true older).registry)
  | .disarm :: older => (handlersAfter older).map disarmHandler
  | .register _ _ :: older => handlersAfter older
  | .resetRegistry :: older => handlersAfter older

theorem installSingletonGuard_registry (p : BootProcess) :
    (installSingletonGuard p).2.registry = p.registry := by
  unfold installSingletonGuard
  split <;> rfl

theorem disarm_registry (p : BootProcess) :
    (disarmOscmFinalizerRequirements p).2.registry = p.registry := by
  unfold disarmOscmFinalizerRequirements
  split <;> rfl

theorem contains_set (d : Dict String HandlerFn) (id id' : String) (fn : HandlerFn) :
    (d.set id' fn).contains id = (id' == id || d.contains id) := by
  by_cases hid : id = id'
  · subst hid
    simp [Dict.contains]
  · have hne : (id' == id) = false := by simpa using fun h => hid h.symm
    simp [Dict.contains, Dict.get?_set_of_ne d fn hid, hne]

/-- Membership of the registry, read off the history. -/
theorem isRegistered_stateAfter (readable : Bool) (id : String) (history : List Step) :
    isRegistered (stateAfter readable history).registry id = known id history := by
  induction history with
  | nil => rfl
  | cons s older ih =>
      cases s with
      | register id' fn =>
          rw [isRegistered] at ih
          simp only [stateAfter, step, register, known, isRegistered, contains_set, ih]
      | resetRegistry => rfl
      | spawn handler => exact ih
      | install => simpa [stateAfter, step, installSingletonGuard_registry, known] using ih
      | disarm => simpa [stateAfter, step, disarm_registry, known] using ih

theorem handlers_stateAfter (history : List Step) :
    (stateAfter true history).handlers = some (handlersAfter history) := by
  induction history with
  | nil => rfl
  | cons s older ih =>
      cases s with
      | register id fn => exact ih
      | resetRegistry => exact ih
      | spawn handler => simp [stateAfter, step, spawn, ih, handlersAfter]
      | install =>
          simp [stateAfter, step, installSingletonGuard, ih, handlersAfter, guardWalk_handlers]
      | disarm =>
          simp [stateAfter, step, disarmOscmFinalizerRequirements, ih, handlersAfter,
            disarmWalk_handlers]

section Present

variable {handler : SpawningHandler} {older newer : List Step}

@[simp] theorem present_id : (present handler older newer).id = handler.id := rfl

@[simp] theorem present_selector : (present handler older newer).selector = handler.selector :=
  rfl

@[simp] theorem present_replaceable :
    (present handler older newer).replaceable = handler.replaceable :=
  rfl

theorem matches_present :
    selectorMatchesOscms (present handler older newer) = selectorMatchesOscms handler :=
  matches_of_selector rfl

theorem SpawningHandler.ext_of {h h' : SpawningHandler} (hid : h.id = h'.id)
    (hselector : h.selector = h'.selector) (hfn : h.fn = h'.fn)
    (hrequires : h.requiresFinalizer = h'.requiresFinalizer)
    (hreplaceable : h.replaceable = h'.replaceable) : h = h' := by
  cases h
  cases h'
  simp_all

/-- An install adds the gate, unless an earlier one has. -/
theorem gateHandler_present (readable : Bool) :
    gateHandler (stateAfter readable (newer ++ .spawn handler :: older)).registry
        (present handler older newer) =
      present handler older (.install :: newer) := by
  refine SpawningHandler.ext_of (by simp) (by simp) ?_ ?_ (by simp)
  · rw [gateHandler_fn, matches_present, present_replaceable, present_id,
      isRegistered_stateAfter]
    simp only [present, gateReached, Step.isInstall, Bool.true_and]
    cases selectorMatchesOscms handler <;> cases handler.replaceable <;>
      cases known handler.id (newer ++ .spawn handler :: older) <;>
      cases gateReached handler.id (.spawn handler :: older) newer <;>
      simp [Function.comp_def]
  · simp [present, Step.isDisarm]

theorem disarmHandler_present :
    disarmHandler (present handler older newer) = present handler older (.disarm :: newer) := by
  refine SpawningHandler.ext_of (by simp) (by simp) ?_ ?_ (by simp)
  · simp [present, gateReached, Step.isInstall]
  · rw [disarmHandler_requiresFinalizer, matches_present]
    simp only [present, List.any_cons, Step.isDisarm, Bool.true_or]
    cases selectorMatchesOscms handler <;> cases handler.requiresFinalizer <;>
      cases handler.replaceable <;> simp

/-- Any other step leaves a handler as it is. -/
theorem present_cons_of_other {s : Step} (hinstall : s.isInstall = false)
    (hdisarm : s.isDisarm = false) :
    present handler older (s :: newer) = present handler older newer := by
  simp [present, gateReached, hinstall, hdisarm]

theorem present_nil : present handler older [] = handler := by
  simp [present, gateReached]

end Present

theorem length_handlersAfter (history : List Step) :
    (handlersAfter history).length = history.countP Step.isSpawn := by
  induction history with
  | nil => rfl
  | cons s older ih => cases s <;> simp [handlersAfter, Step.isSpawn, List.countP_cons, ih]

theorem getElem?_handlersAfter (handler : SpawningHandler) (older newer : List Step) :
    (handlersAfter (newer ++ .spawn handler :: older))[older.countP Step.isSpawn]? =
      some (present handler older newer) := by
  induction newer with
  | nil => simp [handlersAfter, <- length_handlersAfter, present_nil]
  | cons s newer ih =>
      cases s with
      | register id fn => exact ih.trans (congrArg some (present_cons_of_other rfl rfl).symm)
      | resetRegistry => exact ih.trans (congrArg some (present_cons_of_other rfl rfl).symm)
      | spawn other =>
          have hlt := (List.getElem?_eq_some_iff.mp ih).1
          rw [present_cons_of_other rfl rfl, <- ih]
          exact List.getElem?_append_left hlt
      | install => simp [handlersAfter, ih, gateHandler_present]
      | disarm => simp [handlersAfter, ih, disarmHandler_present]

/-- Every handler of the list is what has become of one that kopf registered. -/
theorem exists_of_mem_handlersAfter {history : List Step} {now : SpawningHandler}
    (hmem : now ∈ handlersAfter history) :
    exists newer handler older, history = newer ++ .spawn handler :: older ∧
      now = present handler older newer := by
  induction history generalizing now with
  | nil => cases hmem
  | cons s history ih =>
      cases s with
      | register id fn =>
          rcases ih hmem with ⟨newer, handler, older, rfl, rfl⟩
          exact ⟨_ :: newer, handler, older, rfl, (present_cons_of_other rfl rfl).symm⟩
      | resetRegistry =>
          rcases ih hmem with ⟨newer, handler, older, rfl, rfl⟩
          exact ⟨_ :: newer, handler, older, rfl, (present_cons_of_other rfl rfl).symm⟩
      | spawn other =>
          rcases List.mem_append.mp hmem with hmem | hmem
          · rcases ih hmem with ⟨newer, handler, older, rfl, rfl⟩
            exact ⟨_ :: newer, handler, older, rfl, (present_cons_of_other rfl rfl).symm⟩
          · rw [List.mem_singleton.mp hmem]
            exact ⟨[], other, history, rfl, present_nil.symm⟩
      | install =>
          rcases List.mem_map.mp hmem with ⟨before, hbefore, rfl⟩
          rcases ih hbefore with ⟨newer, handler, older, rfl, rfl⟩
          exact ⟨_ :: newer, handler, older, rfl, gateHandler_present true⟩
      | disarm =>
          rcases List.mem_map.mp hmem with ⟨before, hbefore, rfl⟩
          rcases ih hbefore with ⟨newer, handler, older, rfl, rfl⟩
          exact ⟨_ :: newer, handler, older, rfl, disarmHandler_present⟩

theorem present_mem_handlersAfter (handler : SpawningHandler) (older newer : List Step) :
    present handler older newer ∈ handlersAfter (newer ++ .spawn handler :: older) :=
  List.mem_of_getElem? (getElem?_handlersAfter handler older newer)

/-- Any order of registrations, installs and disarms: an entry keeps its place, its id and its
selector; its function is gated once and only if some install since has found the id, and the
need of its finalizer is gone if a disarm has come since; entries of other resources and those
that cannot be replaced stay as they are. -/
theorem handlers_changed_once (handler : SpawningHandler) (older newer : List Step) :
    exists handlers,
      (stateAfter true (newer ++ .spawn handler :: older)).handlers = some handlers ∧
      handlers.length = (newer ++ .spawn handler :: older).countP Step.isSpawn ∧
      handlers[older.countP Step.isSpawn]? = some (present handler older newer) :=
  ⟨_, handlers_stateAfter _, length_handlersAfter _, getElem?_handlersAfter handler older newer⟩

/-!
## The gauges of the guard
-/

/-- A handler of the resource runs without a gate: it carries none from kopf, and either it
cannot be replaced or no install since has found its id. -/
structure Slipped (handler : SpawningHandler) (older newer : List Step) : Prop where
  expected : expects handler = true
  plain : handler.fn.any HandlerFn.marked = false
  missed : handler.replaceable = false ∨
    gateReached handler.id (.spawn handler :: older) newer = false

theorem expects_present {handler : SpawningHandler} {older newer : List Step} :
    expects (present handler older newer) = expects handler := by
  rw [expects, expects, matches_present]
  simp only [present]
  split <;> simp

theorem slipped_iff {handler : SpawningHandler} {older newer : List Step} :
    Slipped handler older newer <->
      expects (present handler older newer) = true ∧
        carriesGate (present handler older newer) = false := by
  rw [expects_present, carriesGate, matches_present]
  constructor
  · rintro ⟨hexpected, hplain, hmissed⟩
    refine ⟨hexpected, ?_⟩
    have hfn : (present handler older newer).fn = handler.fn := by
      rcases hmissed with hmissed | hmissed <;> simp [present, hmissed]
    rw [hfn, hplain, Bool.and_false]
  · rintro ⟨hexpected, hcarries⟩
    have hmatches : selectorMatchesOscms handler = true := (Bool.and_eq_true_iff.mp hexpected).1
    rw [hmatches, Bool.true_and] at hcarries
    cases hfn : handler.fn with
    | none => simp [expects, hfn] at hexpected
    | some fn =>
        cases hreach : handler.replaceable &&
            gateReached handler.id (.spawn handler :: older) newer with
        | true => simp [present, hmatches, hreach, hfn] at hcarries
        | false =>
            refine ⟨hexpected, ?_, Bool.and_eq_false_iff.mp hreach⟩
            simpa [present, hmatches, hreach, hfn] using hcarries

theorem expects_of_carriesGate {handler : SpawningHandler} (h : carriesGate handler = true) :
    expects handler = true := by
  rcases Bool.and_eq_true_iff.mp h with ⟨hmatches, hmarked⟩
  cases hfn : handler.fn with
  | none => simp [hfn] at hmarked
  | some fn => simp [expects, hmatches, hfn]

theorem expects_gateHandler (registry : Dict String HandlerFn) (handler : SpawningHandler) :
    expects (gateHandler registry handler) = expects handler := by
  rw [expects, expects, matches_of_selector gateHandler_selector, gateHandler_fn]
  split <;> simp

/-- Of a handler that is expected, either the gate is there after the walk, or one line of the
log names it. -/
theorem slipLine_or_gated (registry : Dict String HandlerFn) (handler : SpawningHandler) :
    (slipLine registry handler).isSome.toNat +
        (carriesGate (gateHandler registry handler)).toNat = (expects handler).toNat := by
  rw [carriesGate, matches_of_selector gateHandler_selector, gateHandler_fn, slipLine,
    gateOutcome, expects]
  cases hmatches : selectorMatchesOscms handler with
  | false => simp
  | true =>
      cases hfn : handler.fn with
      | none => simp
      | some fn =>
          cases hmark : fn.marked <;> cases isRegistered registry handler.id <;>
            cases handler.replaceable <;> simp [hmark]

/-- The lines of a walk account for the gap between the two gauges. -/
theorem lines_add_gated (registry : Dict String HandlerFn) (handlers : List SpawningHandler) :
    (guardWalk registry handlers).lines.length +
        (guardWalk registry handlers).handlers.countP carriesGate = handlers.countP expects := by
  rw [guardWalk_lines, guardWalk_handlers]
  induction handlers with
  | nil => rfl
  | cons handler rest ih =>
      have hone := slipLine_or_gated registry handler
      rw [List.map_cons, List.countP_cons, List.countP_cons, List.filterMap_cons]
      cases hline : slipLine registry handler <;>
        cases hgate : carriesGate (gateHandler registry handler) <;>
        cases hexpects : expects handler <;> simp [hline, hgate, hexpects] at hone ih ⊢ <;> omega

/-- The gauges keep what the last install has set. -/
theorem gauges_stateAfter {readable : Bool} {newer older : List Step}
    (hnewer : newer.all (fun s => !s.isInstall) = true) :
    (stateAfter readable (newer ++ older)).wrappedHandlers =
        (stateAfter readable older).wrappedHandlers ∧
      (stateAfter readable (newer ++ older)).expectedHandlers =
        (stateAfter readable older).expectedHandlers := by
  induction newer with
  | nil => exact ⟨rfl, rfl⟩
  | cons s newer ih =>
      simp only [List.all_cons, Bool.and_eq_true] at hnewer
      cases s with
      | install => simp [Step.isInstall] at hnewer
      | disarm =>
          simp only [List.cons_append, stateAfter, step, disarmOscmFinalizerRequirements]
          split <;> exact ih hnewer.2
      | register id fn => exact ih hnewer.2
      | resetRegistry => exact ih hnewer.2
      | spawn handler => exact ih hnewer.2

theorem gauges_install (older : List Step) :
    (stateAfter true (.install :: older)).wrappedHandlers =
        (handlersAfter (.install :: older)).countP carriesGate ∧
      (stateAfter true (.install :: older)).expectedHandlers =
        (handlersAfter (.install :: older)).countP expects := by
  simp [stateAfter, step, installSingletonGuard, handlers_stateAfter, handlersAfter,
    guardWalk_handlers, List.countP_map, Function.comp_def, expects_gateHandler]

theorem handlers_unreadable (history : List Step) : (stateAfter false history).handlers = none := by
  induction history with
  | nil => rfl
  | cons s older ih =>
      cases s with
      | register id fn => exact ih
      | resetRegistry => exact ih
      | spawn handler => simp [stateAfter, step, spawn, ih]
      | install => simp [stateAfter, step, installSingletonGuard, ih]
      | disarm => simp [stateAfter, step, disarmOscmFinalizerRequirements, ih]

theorem size_pos_iff (d : Dict String HandlerFn) :
    0 < d.size <-> exists id, d.contains id = true := by
  rw [Dict.size, List.length_pos_iff_exists_mem]
  constructor
  · rintro ⟨⟨id, fn⟩, hmem⟩
    exact ⟨id, by simp [Dict.contains, (Dict.mem_entries_iff_get? d id fn).mp hmem]⟩
  · rintro ⟨id, hcontains⟩
    cases hget : d.get? id with
    | none => simp [Dict.contains, hget] at hcontains
    | some fn => exact ⟨(id, fn), (Dict.mem_entries_iff_get? d id fn).mpr hget⟩

/-- The condition of the alert, read off the history up to the last install: with the internals
of kopf as expected some handler slipped, and otherwise some id was registered. -/
def AlertCause (readable : Bool) (older : List Step) : Prop :=
  match readable with
  | true => exists newer handler older', older = newer ++ .spawn handler :: older' ∧
      Slipped handler older' (.install :: newer)
  | false => exists id, known id older = true

/-- Any order of steps: after an install the gauge of gated handlers never exceeds the one of
expected handlers, and it stays below it, which is the condition of the alert, exactly when at
that install a timer of the resource had slipped past the gate; with internals of kopf that
cannot be read it stays below exactly when some module has registered a timer. -/
theorem guard_alert_iff {readable : Bool} {newer older : List Step}
    (hnewer : newer.all (fun s => !s.isInstall) = true) :
    let p := stateAfter readable (newer ++ .install :: older)
    p.wrappedHandlers <= p.expectedHandlers ∧
      (p.wrappedHandlers < p.expectedHandlers <-> AlertCause readable older) := by
  intro p
  rcases @gauges_stateAfter readable newer (.install :: older) hnewer with ⟨hwrapped, hexpected⟩
  simp only [p, hwrapped, hexpected]
  cases readable with
  | true =>
      rcases gauges_install older with ⟨hwrapped, hexpected⟩
      rw [hwrapped, hexpected, countP_lt_countP_iff fun _ => expects_of_carriesGate]
      refine ⟨List.countP_mono_left fun _ _ => expects_of_carriesGate, ?_, ?_⟩
      · rintro ⟨now, hmem, hexpects, hcarries⟩
        rcases exists_of_mem_handlersAfter hmem with ⟨_ | ⟨s, newer⟩, handler, older', heq, rfl⟩
        · cases heq
        · rw [List.cons_append, List.cons.injEq] at heq
          rcases heq with ⟨rfl, rfl⟩
          exact ⟨newer, handler, older', rfl, slipped_iff.mpr ⟨hexpects, hcarries⟩⟩
      · rintro ⟨newer, handler, older', rfl, hslipped⟩
        rcases slipped_iff.mp hslipped with ⟨hexpects, hcarries⟩
        exact ⟨_, present_mem_handlersAfter handler older' (.install :: newer), hexpects, hcarries⟩
  | false =>
      simp only [stateAfter, step, installSingletonGuard, handlers_unreadable, AlertCause]
      refine ⟨Nat.zero_le _, ?_⟩
      simp only [size_pos_iff, <- isRegistered_stateAfter false, isRegistered]

/-- A timer of the resource, as kopf registers it. -/
def oscmTimer (name : String) : SpawningHandler where
  id := name
  selector := some
    { group := "energy.nrel.gov", anyName := none, plural := some "openstudioclustermanagers" }
  fn := some (.bare name)
  requiresFinalizer := true
  replaceable := true

/-- Two modules are imported, and one of them has forgotten to register its timer. -/
def forgottenImports : List Step :=
  [.spawn (oscmTimer "worker_recycler"), .register "analysis_sla_monitor" (.bare "monitor"),
    .spawn (oscmTimer "analysis_sla_monitor")]

theorem guard_alert_forgotten :
    let p := stateAfter true (.disarm :: .install :: forgottenImports)
    p.wrappedHandlers = 1 ∧ p.expectedHandlers = 2 ∧ AlertCause true forgottenImports := by
  have halert := @guard_alert_iff true [.disarm] forgottenImports rfl
  refine ⟨by decide +kernel, by decide +kernel, halert.2.mp (by decide +kernel)⟩

/-!
## Calls of the handlers
-/

section Calls

variable (unicode : UnicodeData) (inv : Invocation)

/-- `_gated`, around any function. -/
def gate (fn : TimerProcess -> Ending × TimerProcess) (p : TimerProcess) :
    Ending × TimerProcess :=
  match inv.body with
  | none => (.noContext, p)
  | some body =>
      if inv.crNamespace.isEmpty then (.noContext, p)
      else
        match inv.listing with
        | .error (.caught errorType) => (.gateFailed errorType, countGateFailure inv errorType p)
        | .error .other => (.gateRaised, p)
        | .ok items =>
            match isActive unicode body items with
            | .error (.singletonGuardError _) =>
                (.gateFailed "SingletonGuardError", countGateFailure inv "SingletonGuardError" p)
            | .error (.raised _) => (.gateRaised, p)
            | .ok false =>
                let labels := (inv.timer.fnName, inv.crNamespace, crName body)
                (.loser, { p with loserSkips := p.loserSkips.increment labels })
            | .ok true => fn p

/-- kopf calls the function of a handler. -/
def HandlerFn.call : HandlerFn -> TimerProcess -> Ending × TimerProcess
  | .bare _ => observedTick unicode inv
  | .gated fn => gate unicode inv (HandlerFn.call fn)

theorem call_gated_bare (name : String) (p : TimerProcess) :
    (HandlerFn.gated (.bare name)).call unicode inv p = gatedTick unicode inv p :=
  rfl

variable {unicode inv}

/-- A gate that does not let a call pass keeps it from the ticks. -/
theorem tickDurations_gate {fn : TimerProcess -> Ending × TimerProcess}
    (h : verdict unicode inv ≠ .pass) (p : TimerProcess) :
    (gate unicode inv fn p).2.tickDurations = p.tickDurations := by
  revert h
  unfold gate verdict
  cases inv.body with
  | none => exact fun _ => rfl
  | some body =>
      simp only
      split
      · exact fun _ => rfl
      · cases inv.listing with
        | error failure => cases failure <;> exact fun _ => rfl
        | ok items =>
            simp only
            cases isActive unicode body items with
            | error err => cases err <;> exact fun _ => rfl
            | ok active =>
                cases active with
                | false => exact fun _ => rfl
                | true => exact fun h => absurd rfl h

/-- A plain function enters the tick, whatever the gate would have said. -/
theorem tickDurations_bare (name : String) (p : TimerProcess) :
    ((HandlerFn.bare name).call unicode inv p).2.tickDurations ≠ p.tickDurations := by
  have hrun : (runOscmTick unicode inv p).2.tickDurations = p.tickDurations := by
    rw [runOscmTick_state]
    split
    · rfl
    · unfold servedState
      split <;> rfl
  intro heq
  have htotal := Dict.total_increment p.tickDurations inv.timer.module
  simp only [HandlerFn.call, observedTick, hrun] at heq
  rw [heq] at htotal
  omega

theorem call_enters_iff {fn : HandlerFn} (h : verdict unicode inv ≠ .pass) (p : TimerProcess) :
    (fn.call unicode inv p).2.tickDurations ≠ p.tickDurations <-> fn.marked = false := by
  cases fn with
  | bare name => exact ⟨fun _ => rfl, fun _ => tickDurations_bare name p⟩
  | gated fn => exact ⟨fun hne => absurd (tickDurations_gate h p) hne, fun h => nomatch h⟩

/-- Neither registrations nor disarms touch the functions that kopf calls. -/
theorem fn_handlersAfter {newer older : List Step}
    (hnewer : newer.all (fun s => !s.isInstall && !s.isSpawn) = true) :
    (handlersAfter (newer ++ older)).map (fun h => (selectorMatchesOscms h, h.fn)) =
      (handlersAfter older).map (fun h => (selectorMatchesOscms h, h.fn)) := by
  induction newer with
  | nil => rfl
  | cons s newer ih =>
      simp only [List.all_cons, Bool.and_eq_true] at hnewer
      cases s with
      | install => simp [Step.isInstall] at hnewer
      | spawn handler => simp [Step.isSpawn] at hnewer
      | register id fn => exact ih hnewer.2
      | resetRegistry => exact ih hnewer.2
      | disarm =>
          have hmatches (h : SpawningHandler) :
              selectorMatchesOscms (disarmHandler h) = selectorMatchesOscms h :=
            matches_of_selector disarmHandler_selector
          simpa [handlersAfter, Function.comp_def, hmatches] using ih hnewer.2

/-- The alert of the guard is exact: as long as kopf registers nothing more after an install, it
is silent exactly when no timer of the resource can be made to tick for a resource that the
gate would refuse. -/
theorem silent_alert_iff_no_loser_ticks {newer older : List Step}
    (hnewer : newer.all (fun s => !s.isInstall && !s.isSpawn) = true)
    (hverdict : verdict unicode inv ≠ .pass) (q : TimerProcess) :
    let p := stateAfter true (newer ++ .install :: older)
    ¬ p.wrappedHandlers < p.expectedHandlers <->
      forall handlers, p.handlers = some handlers -> forall h, h ∈ handlers ->
        selectorMatchesOscms h = true -> forall fn, h.fn = some fn ->
          (fn.call unicode inv q).2.tickDurations = q.tickDurations := by
  intro p
  have hinstalls : newer.all (fun s => !s.isInstall) = true :=
    List.all_eq_true.mpr fun s hs => (Bool.and_eq_true_iff.mp (List.all_eq_true.mp hnewer s hs)).1
  rcases @gauges_stateAfter true newer (.install :: older) hinstalls with ⟨hwrapped, hexpected⟩
  rcases gauges_install older with ⟨hwrapped', hexpected'⟩
  simp only [p, hwrapped, hexpected, hwrapped', hexpected', handlers_stateAfter, Option.some.injEq]
  rw [countP_lt_countP_iff fun _ => expects_of_carriesGate, not_exists]
  have hfns := @fn_handlersAfter newer (.install :: older) hnewer
  constructor
  · rintro hnone _ rfl h hmem hmatches fn hfn
    have hpair : (selectorMatchesOscms h, h.fn) ∈
        (handlersAfter (.install :: older)).map (fun h => (selectorMatchesOscms h, h.fn)) := by
      rw [<- hfns]
      exact List.mem_map_of_mem hmem
    rcases List.mem_map.mp hpair with ⟨h', hmem', heq⟩
    rw [Prod.mk.injEq, hmatches, hfn] at heq
    by_contra hne
    have hplain := (call_enters_iff hverdict q).mp hne
    exact hnone h' ⟨hmem', by simp [expects, heq], by simp [carriesGate, heq, hplain]⟩
  · rintro hall h ⟨hmem, hexpects, hcarries⟩
    have hpair : (selectorMatchesOscms h, h.fn) ∈
        (handlersAfter (newer ++ .install :: older)).map
          (fun h => (selectorMatchesOscms h, h.fn)) := by
      rw [hfns]
      exact List.mem_map_of_mem hmem
    rcases List.mem_map.mp hpair with ⟨h', hmem', heq⟩
    rw [Prod.mk.injEq] at heq
    rcases Bool.and_eq_true_iff.mp hexpects with ⟨hmatches, hsome⟩
    rcases Option.isSome_iff_exists.mp hsome with ⟨fn, hfn⟩
    have hplain : fn.marked = false := by simpa [carriesGate, hmatches, hfn] using hcarries
    exact (call_enters_iff hverdict q).mpr hplain
      (hall _ rfl h' hmem' (heq.1.trans hmatches) fn (heq.2.trans hfn))

end Calls

/-- An older resource of the namespace. -/
def senior : SingletonGuard.ClusterManager where
  metadata :=
    { crNamespace := some "energy"
      name := some "senior"
      uid := some "u0"
      creationTimestamp := some "2026-08-18T00:00:00Z" }

theorem silent_alert_iff_no_loser_ticks_forgotten :
    ¬ forall h, h ∈ handlersAfter (.disarm :: .install :: forgottenImports) ->
      selectorMatchesOscms h = true -> forall fn, h.fn = some fn ->
        (fn.call UnicodeData.ascii (TimerTicks.callAt .workerRecycler 2 (.ok [senior])) {}
          ).2.tickDurations = .empty := by
  have halert := @silent_alert_iff_no_loser_ticks UnicodeData.ascii
    (TimerTicks.callAt .workerRecycler 2 (.ok [senior])) [.disarm] forgottenImports rfl
    (by decide +kernel) {}
  intro hall
  refine halert.mpr ?_ (by decide +kernel)
  intro handlers hhandlers
  rw [List.cons_append, List.nil_append, handlers_stateAfter, Option.some.injEq] at hhandlers
  exact hhandlers ▸ hall

end GuardInstall
end OpenStudioOperator
