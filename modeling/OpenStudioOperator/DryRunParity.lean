import OpenStudioOperator.DryRunHandlers

/-!
# Flipping the flag

A run that is dry at any of its ticks and the run that is live throughout are
kept in step by what an onlooker of the calls sees of them: a withheld mutation
stands for one that succeeded, and the texts of Events do not count.
-/

namespace OpenStudioOperator

open Foundation Prog

namespace DryRun

/-!
## Alike
-/

def goLive (config : OperatorConfig) : OperatorConfig :=
  { config with dryRun := false }

/-- What is seen of a call, whatever the flag. -/
def seen : Event -> Event
  | .suppressed m => .mutate m (.ok ())
  | .emit type reason _ r => .emit type reason "" r
  | .tickStart config => .tickStart (goLive config)
  | event => event

def seenEntry (e : Entry) : Entry :=
  { e with event := seen e.event }

def seenTrace (trace : Trace) : Trace := trace.map seenEntry

/-- The same status, the same memory, and histories that look the same. -/
structure Alike (w w' : World) : Prop where
  status : w.status = w'.status
  memory : w.memory = w'.memory
  protectedKeys : w.protectedKeys = w'.protectedKeys
  trace : seenTrace w.trace = seenTrace w'.trace

/-- The environment makes the same observations in both runs: no answer depends
on whether a mutation was withheld, or on the text of an Event. -/
structure SameObservations (env : Env) : Prop where
  answers : forall trace trace', seenTrace trace = seenTrace trace' ->
    AnswersAlike env trace trace'
  emit : forall trace trace' type reason message message',
    seenTrace trace = seenTrace trace' ->
    env.emit trace type reason message = env.emit trace' type reason message'

/-- The mutations of a live tick succeed. -/
def MutationsSucceed (env : Env) : Prop :=
  forall trace m, env.mutate trace m = .ok ()

theorem Alike.log {w w' : World} (h : Alike w w') (time : Instant) {event event' : Event}
    (hevent : seen event = seen event') : Alike (w.log time event) (w'.log time event') where
  status := h.status
  memory := h.memory
  protectedKeys := h.protectedKeys
  trace := by
    unfold seenTrace
    rw [World.log_trace, World.log_trace, List.map_cons, List.map_cons]
    have htrace := h.trace
    unfold seenTrace at htrace
    unfold seenEntry at htrace ⊢
    rw [htrace, hevent, h.status]

theorem Alike.commit {w w' : World} (h : Alike w w') (time : Instant) (op : StoreOp)
    (r : Except Exc Unit) (s : Status) :
    Alike (w.commit time op r s) (w'.commit time op r s) where
  status := rfl
  memory := h.memory
  protectedKeys := h.protectedKeys
  trace := congrArg (List.cons _) h.trace

/-- The dry run, or the live one, next to the live one. -/
theorem lockstep_alike {env : Env} (hsame : SameObservations env)
    (hsucceed : MutationsSucceed env) (c : OperatorConfig) :
    Lockstep env c (goLive c) Alike where
  others := rfl
  status := fun h => h.status
  memory := fun h => h.memory
  protectedKeys := fun h => h.protectedKeys
  answers := fun h => hsame.answers _ _ h.trace
  log := fun h _ => h.log env.now rfl
  commit := fun op r s h => h.commit env.now op r s
  remember := fun _ h => { h with memory := rfl }
  protect := fun _ h => { h with protectedKeys := rfl }
  emit := by
    intro type reason text w w' h
    have hanswer := hsame.emit w.trace w'.trace type reason (text c) (text (goLive c)) h.trace
    unfold rwp
    rw [run_emit hanswer, run_emit rfl]
    cases env.emit w'.trace type reason (text (goLive c)) with
    | ok a => exact ⟨rfl, h.log env.now rfl⟩
    | error e => exact ⟨rfl, h.log env.now rfl⟩
  act := by
    intro m w w' h
    have hlive : mutateUnless (goLive c).dryRun m env w' =
        .ok () (w'.log env.now (.mutate m (.ok ()))) :=
      run_mutate (hsucceed w'.trace m)
    have hmaybe : exists event, mutateUnless c.dryRun m env w =
        .ok () (w.log env.now event) ∧ seen event = .mutate m (.ok ()) := by
      cases c.dryRun with
      | true => exact ⟨.suppressed m, rfl, rfl⟩
      | false => exact ⟨.mutate m (.ok ()), run_mutate (hsucceed w.trace m), rfl⟩
    rcases hmaybe with ⟨event, hrun, hseen⟩
    unfold rwp
    rw [hrun, hlive]
    exact ⟨rfl, h.log env.now hseen⟩

/-!
## Runs
-/

/-- What one tick returned or raised, and the status it left. -/
def tickReport {alpha : Type} (body : OperatorConfig -> OpM alpha) (t : Tick) (w : World) :
    Except Exc alpha × Status :=
  match inTick t.config (body t.config) t.env { w with protectedKeys := t.registry } with
  | .ok a w' => (.ok a, w'.status)
  | .error e w' => (.error e, w'.status)

/-- The reports of a run, tick by tick. -/
def runReports {alpha : Type} (body : OperatorConfig -> OpM alpha) :
    List Tick -> World -> List (Except Exc alpha × Status)
  | [], _ => []
  | t :: later, w => tickReport body t w :: runReports body later (runTick body t w)

def Tick.goLive (t : Tick) : Tick :=
  { t with config := DryRun.goLive t.config }

section Runs

variable {alpha : Type} {body : OperatorConfig -> OpM alpha}

/-- Two bodies in step make ticks that report alike and end in related worlds. -/
theorem tick_of_rwp {t : Tick} {config' : OperatorConfig} {w w' : World}
    {R : World -> World -> Prop}
    (hrun : rwp (body t.config) (body config') t.env (w.openTick t)
      (w'.openTick { t with config := config' })
      (fun a a' u u' => a = a' ∧ R u u') (fun x x' u u' => x = x' ∧ R u u')) :
    (tickReport body t w).1 = (tickReport body { t with config := config' } w').1 ∧
      R (runTick body t w) (runTick body { t with config := config' } w') := by
  unfold rwp World.openTick at hrun
  unfold tickReport runTick Prog.exec inTick
  rw [Prog.run_bind, Prog.run_bind]
  dsimp only [OpenStudioOperator.note]
  cases hresult : body t.config t.env
      (World.log { w with protectedKeys := t.registry } t.env.now (.tickStart t.config)) with
  | ok a u =>
      cases hresult' : body config' t.env
          (World.log { w' with protectedKeys := t.registry } t.env.now (.tickStart config')) with
      | ok a' u' =>
          rw [hresult, hresult'] at hrun
          dsimp only at hrun ⊢
          rw [hrun.1]
          exact ⟨rfl, hrun.2⟩
      | error e' u' =>
          rw [hresult, hresult'] at hrun
          exact hrun.elim
  | error e u =>
      cases hresult' : body config' t.env
          (World.log { w' with protectedKeys := t.registry } t.env.now (.tickStart config')) with
      | ok a' u' =>
          rw [hresult, hresult'] at hrun
          exact hrun.elim
      | error e' u' =>
          rw [hresult, hresult'] at hrun
          dsimp only at hrun ⊢
          rw [hrun.1]
          exact ⟨rfl, hrun.2⟩

/-- The second half of a report is the status the tick leaves. -/
theorem tickReport_status (t : Tick) (w : World) :
    (tickReport body t w).2 = (runTick body t w).status := by
  unfold tickReport runTick Prog.exec
  cases inTick t.config (body t.config) t.env { w with protectedKeys := t.registry } <;> rfl

/-- One tick, dry or live, next to the live one. -/
theorem tick_alike {t : Tick} {w w' : World}
    (hbody : InStep Alike (body t.config) (body (goLive t.config)) t.env)
    (h : Alike w w') :
    tickReport body t w = tickReport body (Tick.goLive t) w' ∧
      Alike (runTick body t w) (runTick body (Tick.goLive t) w') := by
  have hregistry : Alike { w with protectedKeys := t.registry }
      { w' with protectedKeys := t.registry } :=
    { h with protectedKeys := rfl }
  have hopened : Alike (w.openTick t) (w'.openTick (Tick.goLive t)) :=
    hregistry.log t.env.now rfl
  rcases tick_of_rwp (hbody _ _ hopened) with ⟨hresult, hafter⟩
  constructor
  · apply Prod.ext hresult
    rw [tickReport_status]
    exact hafter.status.trans (tickReport_status (Tick.goLive t) w').symm
  · exact hafter

theorem runReports_alike
    (hbody : forall {env : Env} {c : OperatorConfig}, Lockstep env c (goLive c) Alike ->
      InStep Alike (body c) (body (goLive c)) env) :
    forall (ticks : List Tick) {w w' : World}, Alike w w' ->
      (forall t, t ∈ ticks -> SameObservations t.env ∧ MutationsSucceed t.env) ->
      runReports body ticks w = runReports body (ticks.map Tick.goLive) w' := by
  intro ticks
  induction ticks with
  | nil =>
      intro w w' _ _
      rfl
  | cons t later ih =>
      intro w w' h hticks
      rcases hticks t List.mem_cons_self with ⟨hsame, hsucceed⟩
      rcases tick_alike (hbody (lockstep_alike hsame hsucceed t.config)) h with
        ⟨hreport, hafter⟩
      rw [List.map_cons]
      unfold runReports
      rw [hreport, ih hafter fun t' ht' => hticks t' (List.mem_cons_of_mem t ht')]

/-- A run of the watchdog, the recycler or the stall monitor that is dry at any
of its ticks reports, tick by tick, what the run that is live throughout does. -/
theorem dry_run_parity (ticks : List Tick) (w w' : World)
    (hstart : Alike w w')
    (hsame : forall t, t ∈ ticks -> SameObservations t.env)
    (hsucceed : forall t, t ∈ ticks -> MutationsSucceed t.env) :
    runReports runWatchdogTick ticks w =
        runReports runWatchdogTick (ticks.map Tick.goLive) w' ∧
      runReports runRecyclerTick ticks w =
        runReports runRecyclerTick (ticks.map Tick.goLive) w' ∧
      runReports runStallTick ticks w =
        runReports runStallTick (ticks.map Tick.goLive) w' := by
  have hticks : forall t, t ∈ ticks -> SameObservations t.env ∧ MutationsSucceed t.env :=
    fun t ht => ⟨hsame t ht, hsucceed t ht⟩
  constructor
  · exact runReports_alike (fun L => L.runWatchdogTick) ticks hstart hticks
  · constructor
    · exact runReports_alike (fun L => L.runRecyclerTick) ticks hstart hticks
    · exact runReports_alike (fun L => L.runStallTick) ticks hstart hticks

end Runs

/-- A tick that sees one started datapoint, and work that nobody processes. -/
def flippedTick (flip : Bool × Nat) : Tick where
  env :=
    { Env.quiet (minutes flip.2) with
      listStartedDatapoints := fun _ => .ok [{ id := some "d" }]
      queueDepths := fun _ => .ok [("simulations", 3)]
      deploymentLabelSelector := fun _ _ => .ok (some "app=worker")
      listWorkerPods := fun _ _ =>
        .ok [{ phase := some "Running", conditions := [⟨some "Ready", some "True"⟩] }] }
  config := { dryRun := flip.1 }

def flippedRun : List Tick :=
  [(true, 0), (false, 50), (true, 100), (true, 150)].map flippedTick

theorem dry_run_parity_flipped :
    runReports runWatchdogTick flippedRun {} =
        runReports runWatchdogTick (flippedRun.map Tick.goLive) {} ∧
      runReports runRecyclerTick flippedRun {} =
        runReports runRecyclerTick (flippedRun.map Tick.goLive) {} ∧
      runReports runStallTick flippedRun {} =
        runReports runStallTick (flippedRun.map Tick.goLive) {} := by
  apply dry_run_parity flippedRun {} {} ⟨rfl, rfl, rfl, rfl⟩
  · intro t ht
    rcases List.mem_map.mp ht with ⟨flip, _, hflip⟩
    rw [← hflip]
    constructor
    · intro trace trace' _
      constructor <;> rfl
    · intro _ _ _ _ _ _ _
      rfl
  · intro t ht
    rcases List.mem_map.mp ht with ⟨flip, _, hflip⟩
    rw [← hflip]
    exact fun _ _ => rfl

/-- Each handler acts in the run: a requeue, recycles and a restart. -/
example :
    (runReports runWatchdogTick flippedRun {}).map (fun report => report.1) =
        [.ok [], .ok ["d"], .ok ["d"], .ok ["d"]] ∧
      (runReports runRecyclerTick flippedRun {}).map (fun report => report.1) =
        [.ok (some .intervalElapsed), .ok none, .ok none, .ok none] ∧
      (runReports runStallTick flippedRun {}).map (fun report => report.1) =
        [.ok false, .ok true, .ok false, .ok true] := by
  decide +kernel

end DryRun

end OpenStudioOperator
