import OpenStudioOperator.StatusStoreLaws
import OpenStudioOperator.WebBackgroundMonitor

/-!
# What one stall tick can do

The stall monitor rests on four things: the anchor of the last restart, the
checkpoint of the window, the breaker count, and the tracker.  A tick is a
move on these, together with a summary of the calls it made.  `StallTick`
lists every move; the program refines it.
-/

namespace OpenStudioOperator

open Foundation

/-- The memory of the stall monitor: three scalars of the status and the
tracker of the process. -/
structure Stall where
  lastRestart : Option Instant := none
  windowStartedAt : Option Instant := none
  ineffective : Int := 0
  tracker : StallWindowTracker := {}
deriving DecidableEq

def Status.stallScalars (s : Status) : Option Instant × Option Instant × Option Int :=
  (s.lastWebBackgroundRestart, s.stallWindowStartedAt, s.webBackgroundIneffectiveRestarts)

def World.stall (w : World) : Stall where
  lastRestart := w.status.lastWebBackgroundRestart
  windowStartedAt := w.status.stallWindowStartedAt
  ineffective := w.status.webBackgroundIneffectiveRestarts.getD 0
  tracker := w.memory.stallTracker

/-!
## The summary of a tick
-/

/-- What the calls of a stall tick say about it. -/
structure StallSummary where
  /-- The verdict of the condition, once all its reads returned. -/
  sensed : Option Bool := none
  /-- The restart was issued, or withheld by `spec.dryRun`. -/
  fired : Bool := false
  /-- The write of the cooldown anchor returned. -/
  anchored : Bool := false
  reset : Bool := false
  /-- A status call, or an Event of the restart, raised. -/
  failed : Bool := false
  gateUnread : Bool := false
  /-- A read of the condition raised something that does not count as blind. -/
  escaped : Bool := false
  /-- Clearing the checkpoint raised. -/
  unclosed : Bool := false
  /-- A status call raised after the cooldown anchor was written. -/
  unrecorded : Bool := false
  /-- A write of the breaker reset raised. -/
  unreset : Bool := false
deriving DecidableEq

def StallSummary.store (sm : StallSummary) (op : StoreOp) (r : Except Exc Unit) :
    StallSummary :=
  match r with
  | .ok _ =>
      match op with
      | .setLastWebBackgroundRestartAt (some _) => { sm with anchored := true }
      | _ => sm
  | .error _ =>
      { sm with
        failed := true
        gateUnread := sm.gateUnread || op = .getLastWebBackgroundRestartAt
        unclosed := sm.unclosed || op = .setStallWindowStartedAt none
        unrecorded := sm.unrecorded || sm.anchored
        unreset := sm.unreset || !sm.anchored &&
          (op = .setWebBackgroundIneffectiveRestarts 0 ||
            op = .setLastWebBackgroundRestartAt none) }

/-- A failed read of the condition. -/
def StallSummary.read {alpha : Type} (sm : StallSummary) (r : Except Exc alpha) :
    StallSummary :=
  match r with
  | .ok _ => sm
  | .error e => { sm with escaped := sm.escaped || !e.blinds }

def StallSummary.add (sm : StallSummary) (event : Event) : StallSummary :=
  match event with
  | .stallSensed holds => { sm with sensed := some holds }
  | .mutate (.rollingRestart _ _) (.ok _) => { sm with fired := true }
  | .suppressed (.rollingRestart _ _) => { sm with fired := true }
  | .cleanReset => { sm with reset := true }
  | .emit _ reason _ (.error _) =>
      { sm with failed := sm.failed || reason != resqueKeyLayoutUnknownEvent }
  | .store op r => sm.store op r
  | .workerHeartbeats r => sm.read r
  | .queueDepths r => sm.read r
  | .staleWorkers r => sm.read r
  | .deploymentLabelSelector _ r => sm.read r
  | .listWorkerPods _ r => sm.read r
  | _ => sm

/-- The summary of the calls, which stand newest first. -/
def summarize : Trace -> StallSummary
  | [] => {}
  | e :: older => (summarize older).add e.event

/-!
## Moves
-/

/-- The begin of the window on a tick that finds the condition holding. -/
def Stall.began (a : Stall) (now : Instant) : Instant :=
  (a.tracker.firstObserved.or a.windowStartedAt).getD now

/-- The condition holds, and the checkpoint is written if the tracker was
fresh. -/
def Stall.held (a : Stall) (now : Instant) : Stall :=
  { a with
    tracker := { firstObserved := some (a.began now) }
    windowStartedAt :=
      if a.tracker.firstObserved.isNone then some (a.began now) else a.windowStartedAt }

/-- The condition is broken, and the checkpoint is cleared. -/
def Stall.broken (a : Stall) (now : Instant) : Stall :=
  { a with
    tracker := { firstClean := some (a.tracker.firstClean.getD now) }
    windowStartedAt := none }

/-- The outcome of the writes of a breaker reset. -/
inductive CleanReset (a : Stall) : StallSummary -> Stall -> Prop where
  | zeroLost (count : Int) : count = 0 ∨ count = a.ineffective ->
      CleanReset a { sensed := some false, failed := true, unreset := true }
        { a with ineffective := count }
  | anchorLost (last : Option Instant) : last = none ∨ last = a.lastRestart ->
      CleanReset a { sensed := some false, failed := true, unreset := true }
        { a with ineffective := 0, lastRestart := last }
  | done :
      CleanReset a { sensed := some false, reset := true }
        { a with ineffective := 0, lastRestart := none }

/-- The outcome of announcing and recording a restart. -/
inductive Recorded (now : Instant) (a : Stall) : StallSummary -> Stall -> Prop where
  | unannounced :
      Recorded now a { sensed := some true, fired := true, failed := true } a
  | unspent (began : Option Instant) : began = none ∨ began = a.windowStartedAt ->
      Recorded now a
        { sensed := some true, fired := true, failed := true, unclosed := true }
        { a with windowStartedAt := began }
  | unanchored (last : Option Instant) : last = some now ∨ last = a.lastRestart ->
      Recorded now a { sensed := some true, fired := true, failed := true }
        { a with windowStartedAt := none, lastRestart := last }
  | first : a.lastRestart = none ->
      Recorded now a { sensed := some true, fired := true, anchored := true }
        { a with windowStartedAt := none, lastRestart := some now, tracker := {} }
  | uncounted (count : Int) : a.lastRestart.isSome ->
      count = a.ineffective ∨ count = a.ineffective + 1 ->
      Recorded now a
        { sensed := some true, fired := true, anchored := true, failed := true,
          unrecorded := true }
        { a with windowStartedAt := none, lastRestart := some now, ineffective := count }
  | unwarned : a.lastRestart.isSome ->
      Recorded now a { sensed := some true, fired := true, anchored := true, failed := true }
        { a with
          windowStartedAt := none
          lastRestart := some now
          ineffective := a.ineffective + 1 }
  | counted : a.lastRestart.isSome ->
      Recorded now a { sensed := some true, fired := true, anchored := true }
        { windowStartedAt := none
          lastRestart := some now
          ineffective := a.ineffective + 1
          tracker := {} }

/-- The action gate lets the restart through. -/
def ActionOpen (window : Duration) (now : Instant) (a : Stall) : Prop :=
  forall last, a.lastRestart = some last ->
    ¬ (naturalRearmWindows < backoffWindows a.ineffective ∧
      now - last <= window * backoffWindows a.ineffective)

/-- Every way in which a tick can go. -/
inductive StallTick (window : Duration) (now : Instant) (a : Stall) :
    StallSummary -> Stall -> Prop where
  | unread : StallTick window now a { failed := true, gateUnread := true } a
  | gated : gateClosed now window a.lastRestart = true -> StallTick window now a {} a
  | escaped : gateClosed now window a.lastRestart = false ->
      StallTick window now a { escaped := true } a
  | blind : gateClosed now window a.lastRestart = false ->
      StallTick window now a {} { a with tracker := {}, windowStartedAt := none }
  | blindUnclosed (began : Option Instant) :
      gateClosed now window a.lastRestart = false ->
      began = none ∨ began = a.windowStartedAt ->
      StallTick window now a { failed := true, unclosed := true }
        { a with tracker := {}, windowStartedAt := began }
  | unrestored : gateClosed now window a.lastRestart = false ->
      a.tracker.firstObserved = none ->
      StallTick window now a { sensed := some true, failed := true } a
  | unpersisted (began : Option Instant) :
      gateClosed now window a.lastRestart = false ->
      a.tracker.firstObserved = none ->
      began = some (a.began now) ∨ began = a.windowStartedAt ->
      StallTick window now a { sensed := some true, failed := true }
        { a.held now with windowStartedAt := began }
  | held : gateClosed now window a.lastRestart = false ->
      StallTick window now a { sensed := some true } (a.held now)
  | heldUnread : gateClosed now window a.lastRestart = false ->
      StallTick window now a { sensed := some true, failed := true } (a.held now)
  | fired {sm : StallSummary} {b : Stall} :
      gateClosed now window a.lastRestart = false ->
      window <= now - a.began now -> ActionOpen window now a ->
      Recorded now (a.held now) sm b -> StallTick window now a sm b
  | unclosed (began : Option Instant) :
      gateClosed now window a.lastRestart = false ->
      began = none ∨ began = a.windowStartedAt ->
      StallTick window now a { sensed := some false, failed := true, unclosed := true }
        { a.broken now with windowStartedAt := began }
  | broken : gateClosed now window a.lastRestart = false ->
      StallTick window now a { sensed := some false } (a.broken now)
  | brokenUnread : gateClosed now window a.lastRestart = false ->
      StallTick window now a { sensed := some false, failed := true } (a.broken now)
  | cleaned {sm : StallSummary} {b : Stall} :
      gateClosed now window a.lastRestart = false ->
      window <= now - a.tracker.firstClean.getD now ->
      CleanReset (a.broken now) sm b -> StallTick window now a sm b

/-!
## The program refines the moves
-/

/-- What the tick has done so far, and the memory it left. -/
structure StallAt (sm : StallSummary) (a : Stall) (w : World) : Prop where
  summary : summarize (currentTick w.trace) = sm
  memory : w.stall = a

/-- The tick that started from `a` has ended in a move. -/
def StallEnds (window : Duration) (now : Instant) (a : Stall) (w : World) : Prop :=
  exists sm b, StallAt sm b w ∧ StallTick window now a sm b

section Refinement

variable {env : Env} {w : World} {sm : StallSummary} {a b : Stall}
variable {window : Duration}

theorem StallAt.ends (h : StallAt sm b w)
    (hmove : StallTick window env.now a sm b) : StallEnds window env.now a w :=
  ⟨sm, b, h, hmove⟩

theorem StallAt.log {sm' : StallSummary} (h : StallAt sm a w) (time : Instant)
    {event : Event} (hevent : forall config, event ≠ .tickStart config)
    (hadd : sm.add event = sm') : StallAt sm' a (w.log time event) := by
  constructor
  · rw [World.log_trace, currentTick_cons hevent, summarize, h.summary]
    exact hadd
  · exact h.memory

/-- A status call that leaves the three scalars as given. -/
theorem StallAt.commit (h : StallAt sm a w) (time : Instant) (op : StoreOp)
    (r : Except Exc Unit) {s : Status} (hstall : { w with status := s }.stall = b) :
    StallAt (sm.store op r) b (w.commit time op r s) := by
  constructor
  · rw [World.commit_trace, currentTick_cons (fun _ => Event.noConfusion), summarize,
      h.summary]
    rfl
  · exact hstall

theorem StallAt.remember (h : StallAt sm a w) (f : ProcessMemory -> ProcessMemory)
    (hf : (f w.memory).stallTracker = b.tracker)
    (hsame : { a with tracker := b.tracker } = b) :
    StallAt sm b { w with memory := f w.memory } := by
  constructor
  · exact h.summary
  · rw [← hsame, ← h.memory]
    unfold World.stall
    rw [hf]

/-!
### Status calls
-/

theorem Env.Leaves.part {part part' : Type} {view : Status -> part}
    (h : env.Leaves view) (f : part -> part') : env.Leaves (fun s => f (view s)) := by
  intro trace op n s
  exact ⟨congrArg f (h trace op n s).1, congrArg f (h trace op n s).2⟩

theorem stall_of_scalars {s : Status} (h : s.stallScalars = w.status.stallScalars) :
    { w with status := s }.stall = w.stall := by
  unfold Status.stallScalars at h
  simp only [Prod.mk.injEq] at h
  unfold World.stall
  simp only [h.1, h.2.1, h.2.2]

/-- A read of one of the scalars. -/
theorem wp_readStall {alpha : Type} {op : StoreOp} {f : Status -> alpha}
    {Q : alpha -> World -> Prop} {E : Exc -> World -> Prop}
    (hleaves : env.Leaves Status.stallScalars) (h : StallAt sm a w)
    (hop : sm.store op (.ok ()) = sm)
    (hok : forall s w', s.stallScalars = w.status.stallScalars -> StallAt sm a w' ->
      Q (f s) w')
    (hraise : forall e w', StallAt (sm.store op (.error e)) a w' -> E e w') :
    Prog.wp (do return f (<- readStatus op)) env w Q E := by
  rw [Prog.wp_bind]
  apply wp_readStatus
  · intro s hkeeps
    have hsame := hkeeps _ _ hleaves
    rw [Prog.wp_pure]
    apply hok s _ hsame
    rw [← hop]
    exact h.commit _ _ _ ((stall_of_scalars hsame).trans h.memory)
  · intro s e hkeeps
    have hsame := hkeeps _ _ hleaves
    exact hraise e _ (h.commit _ _ _ ((stall_of_scalars hsame).trans h.memory))

theorem wp_getLastWebBackgroundRestartAt {Q : Option Instant -> World -> Prop}
    {E : Exc -> World -> Prop} (hleaves : env.Leaves Status.stallScalars)
    (h : StallAt sm a w)
    (hok : forall w', StallAt sm a w' -> Q a.lastRestart w')
    (hraise : forall e w',
      StallAt (sm.store .getLastWebBackgroundRestartAt (.error e)) a w' -> E e w') :
    Prog.wp getLastWebBackgroundRestartAt env w Q E := by
  apply wp_readStall hleaves h rfl
  · intro s w' hsame h'
    have hlast : s.lastWebBackgroundRestart = a.lastRestart := by
      rw [← h.memory]
      exact congrArg Prod.fst hsame
    rw [hlast]
    exact hok w' h'
  · exact hraise

theorem wp_getStallWindowStartedAt {Q : Option Instant -> World -> Prop}
    {E : Exc -> World -> Prop} (hleaves : env.Leaves Status.stallScalars)
    (h : StallAt sm a w)
    (hok : forall w', StallAt sm a w' -> Q a.windowStartedAt w')
    (hraise : forall e w',
      StallAt (sm.store .getStallWindowStartedAt (.error e)) a w' -> E e w') :
    Prog.wp getStallWindowStartedAt env w Q E := by
  apply wp_readStall hleaves h rfl
  · intro s w' hsame h'
    have hbegan : s.stallWindowStartedAt = a.windowStartedAt := by
      rw [← h.memory]
      exact congrArg (fun scalars => scalars.2.1) hsame
    rw [hbegan]
    exact hok w' h'
  · exact hraise

theorem wp_getWebBackgroundIneffectiveRestarts {Q : Int -> World -> Prop}
    {E : Exc -> World -> Prop} (hleaves : env.Leaves Status.stallScalars)
    (h : StallAt sm a w)
    (hok : forall w', StallAt sm a w' -> Q a.ineffective w')
    (hraise : forall e w',
      StallAt (sm.store .getWebBackgroundIneffectiveRestarts (.error e)) a w' -> E e w') :
    Prog.wp getWebBackgroundIneffectiveRestarts env w Q E := by
  apply wp_readStall hleaves h rfl
  · intro s w' hsame h'
    have hcount : s.webBackgroundIneffectiveRestarts.getD 0 = a.ineffective := by
      rw [← h.memory]
      exact congrArg (fun scalars => scalars.2.2.getD 0) hsame
    rw [hcount]
    exact hok w' h'
  · exact hraise

theorem wp_setLastWebBackgroundRestartAt {last : Option Instant}
    {Q : Unit -> World -> Prop} {E : Exc -> World -> Prop}
    (hleaves : env.Leaves Status.stallScalars) (h : StallAt sm a w)
    (hok : forall w', StallAt (sm.store (.setLastWebBackgroundRestartAt last) (.ok ()))
      { a with lastRestart := last } w' -> Q () w')
    (hraise : forall e w' stored, stored = last ∨ stored = a.lastRestart ->
      StallAt (sm.store (.setLastWebBackgroundRestartAt last) (.error e))
        { a with lastRestart := stored } w' -> E e w') :
    Prog.wp (setLastWebBackgroundRestartAt last) env w Q E := by
  have hstall : forall r s,
      ScalarWrite env lastWebBackgroundRestartField last r w.status s ->
      { w with status := s }.stall = { a with lastRestart := s.lastWebBackgroundRestart } := by
    intro r s hwrite
    have hrest := hwrite.frame _ _ (hleaves.part Prod.snd) fun _ _ => rfl
    simp only [Status.stallScalars, Prod.mk.injEq] at hrest
    rw [← h.memory]
    unfold World.stall
    simp only [hrest.1, hrest.2]
  apply wp_setScalar
  · intro s hwrite
    apply hok
    refine h.commit _ _ _ ?_
    rw [hstall _ s hwrite]
    exact congrArg (fun v => { a with lastRestart := v }) (hwrite.returned rfl)
  · intro e s hwrite
    refine hraise e _ s.lastWebBackgroundRestart ?_ (h.commit _ _ _ (hstall _ s hwrite))
    rw [← h.memory]
    exact hwrite.self (hleaves.part Prod.fst)

theorem wp_setStallWindowStartedAt {began : Option Instant}
    {Q : Unit -> World -> Prop} {E : Exc -> World -> Prop}
    (hleaves : env.Leaves Status.stallScalars) (h : StallAt sm a w)
    (hok : forall w', StallAt sm { a with windowStartedAt := began } w' -> Q () w')
    (hraise : forall e w' stored, stored = began ∨ stored = a.windowStartedAt ->
      StallAt (sm.store (.setStallWindowStartedAt began) (.error e))
        { a with windowStartedAt := stored } w' -> E e w') :
    Prog.wp (setStallWindowStartedAt began) env w Q E := by
  have hstall : forall r s,
      ScalarWrite env stallWindowStartedAtField began r w.status s ->
      { w with status := s }.stall = { a with windowStartedAt := s.stallWindowStartedAt } := by
    intro r s hwrite
    have hrest := hwrite.frame _ _
      (hleaves.part fun scalars => (scalars.1, scalars.2.2)) fun _ _ => rfl
    simp only [Status.stallScalars, Prod.mk.injEq] at hrest
    rw [← h.memory]
    unfold World.stall
    simp only [hrest.1, hrest.2]
  apply wp_setScalar
  · intro s hwrite
    apply hok
    refine h.commit _ (.setStallWindowStartedAt began) (.ok ()) ?_
    rw [hstall _ s hwrite]
    exact congrArg (fun v => { a with windowStartedAt := v }) (hwrite.returned rfl)
  · intro e s hwrite
    refine hraise e _ s.stallWindowStartedAt ?_ (h.commit _ _ _ (hstall _ s hwrite))
    rw [← h.memory]
    exact hwrite.self (hleaves.part fun scalars => scalars.2.1)

theorem wp_setWebBackgroundIneffectiveRestarts {count : Int}
    {Q : Unit -> World -> Prop} {E : Exc -> World -> Prop}
    (hleaves : env.Leaves Status.stallScalars) (h : StallAt sm a w)
    (hok : forall w', StallAt sm { a with ineffective := count } w' -> Q () w')
    (hraise : forall e w' stored, stored = count ∨ stored = a.ineffective ->
      StallAt (sm.store (.setWebBackgroundIneffectiveRestarts count) (.error e))
        { a with ineffective := stored } w' -> E e w') :
    Prog.wp (setWebBackgroundIneffectiveRestarts count) env w Q E := by
  have hstall : forall r s,
      ScalarWrite env webBackgroundIneffectiveRestartsField (some count) r w.status s ->
      { w with status := s }.stall =
        { a with ineffective := s.webBackgroundIneffectiveRestarts.getD 0 } := by
    intro r s hwrite
    have hrest := hwrite.frame _ _
      (hleaves.part fun scalars => (scalars.1, scalars.2.1)) fun _ _ => rfl
    simp only [Status.stallScalars, Prod.mk.injEq] at hrest
    rw [← h.memory]
    unfold World.stall
    simp only [hrest.1, hrest.2]
  apply wp_setScalar
  · intro s hwrite
    apply hok
    refine h.commit _ (.setWebBackgroundIneffectiveRestarts count) (.ok ()) ?_
    rw [hstall _ s hwrite]
    exact congrArg (fun v => { a with ineffective := v.getD 0 }) (hwrite.returned rfl)
  · intro e s hwrite
    refine hraise e _ (s.webBackgroundIneffectiveRestarts.getD 0) ?_
      (h.commit _ _ _ (hstall _ s hwrite))
    rw [← h.memory]
    rcases hwrite.self (hleaves.part fun scalars => scalars.2.2) with hnew | hold
    · exact Or.inl (congrArg (fun v => v.getD 0) hnew)
    · exact Or.inr (congrArg (fun v => v.getD 0) hold)

/-!
### Sensing
-/

/-- A read of the condition. -/
theorem wp_senseRead {alpha : Type} {answer : Env -> Trace -> Except Exc alpha}
    {event : Except Exc alpha -> Event} {Q : alpha -> World -> Prop}
    {E : Exc -> World -> Prop} (h : StallAt {} a w)
    (hadd : forall r, StallSummary.add {} (event r) = StallSummary.read {} r)
    (hevent : forall r config, event r ≠ .tickStart config)
    (hok : forall v w', StallAt {} a w' -> Q v w')
    (hraise : forall e w', StallAt { escaped := !e.blinds } a w' -> E e w') :
    Prog.wp (call answer event) env w Q E := by
  apply wp_call
  · intro v _
    exact hok v _ (h.log env.now (hevent (.ok v)) (hadd _))
  · intro e _
    exact hraise e _ (h.log env.now (hevent (.error e)) (hadd _))

theorem wp_modifyLeg2 {f : Leg2SafeguardState -> Leg2SafeguardState}
    {Q : Unit -> World -> Prop} {E : Exc -> World -> Prop} (h : StallAt sm a w)
    (hok : forall w', StallAt sm a w' -> Q () w') :
    Prog.wp (modifyLeg2 f) env w Q E := by
  unfold modifyLeg2
  rw [wp_modifyMemory]
  apply hok
  exact ⟨h.summary, h.memory⟩

theorem wp_workerPodsHealthy {deployment : String} (h : StallAt {} a w) :
    Prog.wp (workerPodsHealthy deployment) env w (fun _ w' => StallAt {} a w')
      (fun e w' => StallAt { escaped := !e.blinds } a w') := by
  unfold workerPodsHealthy
  rw [Prog.wp_bind]
  refine wp_senseRead h (fun r => rfl) (fun _ _ => Event.noConfusion) ?_
    (fun _ _ hraised => hraised)
  intro selector w1 h1
  cases selector with
  | none => exact h1
  | some selector =>
      apply Prog.wp_ite
      · intro _
        exact h1
      · intro _
        rw [Prog.wp_bind]
        exact wp_senseRead h1 (fun r => rfl) (fun _ _ => Event.noConfusion)
          (fun _ _ h2 => h2) (fun _ _ hraised => hraised)

/-- Sensing leaves the memory of the monitor alone. -/
theorem wp_stallConditionHolds {config : OperatorConfig} (h : StallAt {} a w) :
    Prog.wp (stallConditionHolds config) env w (fun _ w' => StallAt {} a w')
      (fun e w' => StallAt { escaped := !e.blinds } a w') := by
  unfold stallConditionHolds
  rw [Prog.wp_bind, Prog.wp_read, Prog.wp_bind]
  refine wp_senseRead h (fun r => rfl) (fun _ _ => Event.noConfusion) ?_
    (fun _ _ hraised => hraised)
  intro registered w1 h1
  rw [Prog.wp_bind]
  apply wp_modifyLeg2 h1
  intro w2 h2
  rw [Prog.wp_bind]
  refine wp_senseRead h2 (fun r => rfl) (fun _ _ => Event.noConfusion) ?_
    (fun _ _ hraised => hraised)
  intro depths w3 h3
  apply Prog.wp_ite
  · intro _
    exact h3
  · intro _
    rw [Prog.wp_bind]
    apply wp_modifyLeg2 h3
    intro w4 h4
    rw [Prog.wp_bind]
    refine wp_senseRead h4 (fun r => rfl) (fun _ _ => Event.noConfusion) ?_
      (fun _ _ hraised => hraised)
    intro stale w5 h5
    apply Prog.wp_ite
    · intro _
      exact h5
    · intro _
      exact wp_workerPodsHealthy h5

theorem StallAt.setTracker (h : StallAt sm a w) (tracker : StallWindowTracker) :
    StallAt sm { a with tracker := tracker }
      { w with memory := { w.memory with stallTracker := tracker } } :=
  h.remember (fun memory => { memory with stallTracker := tracker }) rfl rfl

/-- A read that fails blinds the tick and closes the window, if the checkpoint
can be cleared. -/
theorem wp_senseStall {config : OperatorConfig}
    (hleaves : env.Leaves Status.stallScalars) (h : StallAt {} a w)
    (hgate : gateClosed env.now window a.lastRestart = false) :
    Prog.wp (senseStall config) env w
      (fun holds w' => StallAt { sensed := some holds } a w')
      (fun _ w' => StallEnds window env.now a w') := by
  unfold senseStall
  rw [Prog.wp_bind, Prog.wp_tryCatch]
  refine Prog.wp_mono (wp_stallConditionHolds h) ?_ ?_
  · intro holds w1 h1
    rw [Prog.wp_bind, wp_note, Prog.wp_pure]
    exact h1.log env.now (fun _ => Event.noConfusion) rfl
  · intro e w1 h1
    rw [Prog.wp_bind]
    cases hblinds : e.blinds with
    | false =>
        rw [hblinds] at h1
        exact h1.ends (.escaped hgate)
    | true =>
        rw [hblinds] at h1
        show Prog.wp (do resetStallTracker; setStallWindowStartedAt none) env w1 _ _
        rw [Prog.wp_bind]
        refine wp_setStallWindowStartedAt hleaves (h1.setTracker {}) ?_ ?_
        · intro w2 h2
          exact h2.ends (.blind hgate)
        · intro e' w2 began hbegan h2
          exact h2.ends (.blindUnclosed began hgate hbegan)

theorem wp_warnResqueLayoutUnknown {holds : Bool} {Q : Unit -> World -> Prop}
    {E : Exc -> World -> Prop} (h : StallAt { sensed := some holds } a w)
    (hok : forall w', StallAt { sensed := some holds } a w' -> Q () w') :
    Prog.wp warnResqueLayoutUnknown env w Q E := by
  unfold warnResqueLayoutUnknown maybeWarnResqueLayoutUnknown
  rw [Prog.wp_tryCatch, Prog.wp_bind, Prog.wp_read, Prog.wp_bind, wp_processMemory]
  apply Prog.wp_ite
  · intro _
    exact hok w h
  · intro _
    generalize w.memory.leg2.emptyRegistrySince = since
    cases since with
    | none => exact hok w h
    | some since =>
        apply Prog.wp_ite
        · intro _
          rw [Prog.wp_bind]
          apply wp_modifyLeg2 h
          intro w1 h1
          apply wp_call
          · intro _ _
            exact hok _ (h1.log env.now (fun _ => Event.noConfusion) rfl)
          · intro _ _
            -- the diagnostic Event is the one whose failure does not count
            exact hok _ (h1.log env.now (fun _ => Event.noConfusion)
              (by simp [StallSummary.add]))
        · intro _
          exact hok w h

/-!
### The window
-/

/-- The tracker that a holding tick feeds its verdict to. -/
def Stall.restored (a : Stall) : StallWindowTracker :=
  { a.tracker with firstObserved := a.tracker.firstObserved.or a.windowStartedAt }

theorem Stall.restored_observe (a : Stall) (now : Instant) (window : Duration) :
    a.restored.observe true now window =
      ({ firstObserved := some (a.began now) }, decide (window <= now - a.began now)) := rfl

theorem wp_stallTracker {Q : StallWindowTracker -> World -> Prop}
    {E : Exc -> World -> Prop} (h : StallAt sm a w) (hok : Q a.tracker w) :
    Prog.wp stallTracker env w Q E := by
  rw [← h.memory] at hok
  exact hok

theorem wp_setStallTracker {tracker : StallWindowTracker} {Q : Unit -> World -> Prop}
    {E : Exc -> World -> Prop} (h : StallAt sm a w)
    (hok : forall w', StallAt sm { a with tracker := tracker } w' -> Q () w') :
    Prog.wp (setStallTracker tracker) env w Q E :=
  hok _ (h.setTracker tracker)

/-- A fresh tracker takes the begin of its window from the checkpoint. -/
theorem wp_restoreWindow (hleaves : env.Leaves Status.stallScalars)
    (h : StallAt { sensed := some true } a w)
    (hgate : gateClosed env.now window a.lastRestart = false) :
    Prog.wp
      (onlyIf (true && a.tracker.firstObserved.isNone) do
        let persisted <- getStallWindowStartedAt
        onlyIf persisted.isSome
          (setStallTracker { a.tracker with firstObserved := persisted }))
      env w
      (fun _ w' => StallAt { sensed := some true } { a with tracker := a.restored } w')
      (fun _ w' => StallEnds window env.now a w') := by
  cases hfresh : a.tracker.firstObserved with
  | some began =>
      have hkept : a.restored = a.tracker := by
        unfold Stall.restored
        rw [hfresh, Option.some_or, ← hfresh]
      rw [hkept]
      exact h
  | none =>
      show Prog.wp (getStallWindowStartedAt >>= _) env w _ _
      rw [Prog.wp_bind]
      apply wp_getStallWindowStartedAt hleaves h
      · intro w1 h1
        have hrestored : a.restored = { a.tracker with firstObserved := a.windowStartedAt } := by
          unfold Stall.restored
          rw [hfresh, Option.none_or]
        rw [hrestored]
        apply Prog.wp_ite
        · intro _
          exact h1.setTracker _
        · intro habsent
          have hnone : a.windowStartedAt = a.tracker.firstObserved := by
            rw [hfresh]
            exact Option.not_isSome_iff_eq_none.mp habsent
          have hsame : { a.tracker with firstObserved := a.windowStartedAt } = a.tracker := by
            rw [hnone]
          rw [hsame]
          exact h1
      · intro e w1 h1
        exact h1.ends (.unrestored hgate hfresh)

theorem wp_observeStall_holds (hleaves : env.Leaves Status.stallScalars)
    (h : StallAt { sensed := some true } a w)
    (hgate : gateClosed env.now window a.lastRestart = false) :
    Prog.wp (observeStall window true) env w
      (fun sustained w' => StallAt { sensed := some true } (a.held env.now) w' ∧
        sustained = decide (window <= env.now - a.began env.now))
      (fun _ w' => StallEnds window env.now a w') := by
  unfold observeStall
  rw [Prog.wp_bind, Prog.wp_read, Prog.wp_bind]
  apply wp_stallTracker h
  rw [Prog.wp_bind]
  refine Prog.wp_mono (wp_restoreWindow hleaves h hgate) ?_ (fun _ _ hends => hends)
  intro _ w1 h1
  rw [Prog.wp_bind]
  apply wp_stallTracker h1
  rw [Prog.wp_bind]
  apply wp_setStallTracker h1
  intro w2 h2
  rw [Stall.restored_observe] at h2
  apply Prog.wp_ite
  · intro hbegan
    have hfresh : a.tracker.firstObserved = none := Option.isNone_iff_eq_none.mp hbegan
    rw [Prog.wp_bind]
    apply wp_setStallWindowStartedAt hleaves h2
    · intro w3 h3
      refine ⟨?_, rfl⟩
      unfold Stall.held
      rw [hfresh]
      exact h3
    · intro e w3 stored hstored h3
      exact h3.ends (.unpersisted stored hgate hfresh hstored)
  · intro hkept
    refine ⟨?_, rfl⟩
    unfold Stall.held
    rw [Bool.true_and] at hkept
    rw [if_neg hkept]
    exact h2

theorem wp_observeStall_broken (hleaves : env.Leaves Status.stallScalars)
    (h : StallAt { sensed := some false } a w)
    (hgate : gateClosed env.now window a.lastRestart = false) :
    Prog.wp (observeStall window false) env w
      (fun sustained w' => StallAt { sensed := some false } (a.broken env.now) w' ∧
        sustained = false)
      (fun _ w' => StallEnds window env.now a w') := by
  unfold observeStall
  rw [Prog.wp_bind, Prog.wp_read, Prog.wp_bind]
  apply wp_stallTracker h
  rw [Prog.wp_bind]
  show Prog.wp (stallTracker >>= _) env w _ _
  rw [Prog.wp_bind]
  apply wp_stallTracker h
  rw [Prog.wp_bind]
  apply wp_setStallTracker h
  intro w1 h1
  show Prog.wp (setStallWindowStartedAt none >>= _) env w1 _ _
  rw [Prog.wp_bind]
  apply wp_setStallWindowStartedAt hleaves h1
  · intro w2 h2
    exact ⟨h2, rfl⟩
  · intro e w2 stored hstored h2
    exact h2.ends (.unclosed stored hgate hstored)

/-- One full clean window resets the breaker. -/
theorem wp_concludeCleanWindow (hleaves : env.Leaves Status.stallScalars)
    (h : StallAt { sensed := some false } (a.broken env.now) w)
    (hgate : gateClosed env.now window a.lastRestart = false) :
    Prog.wp (concludeCleanWindow window a.lastRestart) env w
      (fun _ w' => StallEnds window env.now a w')
      (fun _ w' => StallEnds window env.now a w') := by
  have hdone : StallEnds window env.now a w := h.ends (.broken hgate)
  unfold concludeCleanWindow
  rw [Prog.wp_bind, Prog.wp_read, Prog.wp_bind]
  apply wp_stallTracker h
  apply Prog.wp_ite
  · intro hclean
    have hwindow : window <= env.now - a.tracker.firstClean.getD env.now :=
      of_decide_eq_true hclean
    rw [Prog.wp_bind]
    have harmed : Prog.wp (restartCycleArmed a.lastRestart) env w
        (fun _ w' => StallAt { sensed := some false } (a.broken env.now) w')
        (fun _ w' => StallEnds window env.now a w') := by
      unfold restartCycleArmed
      apply Prog.wp_ite
      · intro _
        exact h
      · intro _
        rw [Prog.wp_bind]
        apply wp_getWebBackgroundIneffectiveRestarts hleaves h
        · intro w1 h1
          exact h1
        · intro e w1 h1
          exact h1.ends (.brokenUnread hgate)
    refine Prog.wp_mono harmed ?_ (fun _ _ hends => hends)
    intro armed w1 h1
    apply Prog.wp_ite
    · intro _
      rw [Prog.wp_bind]
      apply wp_setWebBackgroundIneffectiveRestarts hleaves h1
      · intro w2 h2
        rw [Prog.wp_bind]
        apply Prog.wp_ite
        · intro _
          apply wp_setLastWebBackgroundRestartAt hleaves h2
          · intro w3 h3
            rw [wp_note]
            exact (h3.log env.now (fun _ => Event.noConfusion) rfl).ends
              (.cleaned hgate hwindow .done)
          · intro e w3 stored hstored h3
            exact h3.ends (.cleaned hgate hwindow (.anchorLost stored hstored))
        · intro hunanchored
          have hnone : (a.broken env.now).lastRestart = none :=
            Option.not_isSome_iff_eq_none.mp hunanchored
          have hsame : { a.broken env.now with ineffective := 0 } =
              { a.broken env.now with ineffective := 0, lastRestart := none } := by
            rw [← hnone]
          rw [hsame] at h2
          exact (h2.log env.now (fun _ => Event.noConfusion) rfl).ends
            (.cleaned hgate hwindow .done)
      · intro e w2 stored hstored h2
        exact h2.ends (.cleaned hgate hwindow (.zeroLost stored hstored))
    · intro _
      exact h1.ends (.broken hgate)
  · intro _
    exact hdone

/-!
### The restart
-/

theorem wp_restartDeferred (hleaves : env.Leaves Status.stallScalars)
    (h : StallAt { sensed := some true } (a.held env.now) w)
    (hgate : gateClosed env.now window a.lastRestart = false) :
    Prog.wp (restartDeferred window a.lastRestart) env w
      (fun deferred w' => StallAt { sensed := some true } (a.held env.now) w' ∧
        (deferred = false -> ActionOpen window env.now a))
      (fun _ w' => StallEnds window env.now a w') := by
  unfold restartDeferred ActionOpen
  rw [Prog.wp_bind, Prog.wp_read]
  cases hlast : a.lastRestart with
  | none =>
      refine ⟨h, ?_⟩
      intro _ last hsome
      cases hsome
  | some last =>
      show Prog.wp (getWebBackgroundIneffectiveRestarts >>= _) env w _ _
      rw [Prog.wp_bind]
      apply wp_getWebBackgroundIneffectiveRestarts hleaves h
      · intro w1 h1
        refine ⟨h1, ?_⟩
        intro hopen last' hsame
        rw [← Option.some.inj hsame]
        exact of_decide_eq_false hopen
      · intro e w1 h1
        exact h1.ends (.heldUnread hgate)

/-- The breaker count, and the reset of the tracker, of a restart that has its
anchor. -/
theorem wp_countIneffective {P : World -> Prop} (hleaves : env.Leaves Status.stallScalars)
    (h : StallAt { sensed := some true, fired := true, anchored := true }
      { a with windowStartedAt := none, lastRestart := some env.now } w)
    (hrecorded : forall sm b w', StallAt sm b w' -> Recorded env.now a sm b -> P w') :
    Prog.wp
      (do
        countIneffective a.lastRestart
        resetStallTracker) env w
      (fun _ w' => P w') (fun _ w' => P w') := by
  rw [Prog.wp_bind]
  unfold countIneffective
  apply Prog.wp_ite
  · intro hpredecessor
    rw [Prog.wp_bind]
    apply wp_getWebBackgroundIneffectiveRestarts hleaves h
    · intro w1 h1
      rw [Prog.wp_bind]
      apply wp_setWebBackgroundIneffectiveRestarts hleaves h1
      · intro w2 h2
        apply Prog.wp_ite
        · intro _
          apply wp_call
          · intro _ _
            exact hrecorded _ _ _
              ((h2.log env.now (fun _ => Event.noConfusion) rfl).setTracker {})
              (.counted hpredecessor)
          · intro e _
            exact hrecorded _ _ _ (h2.log env.now (fun _ => Event.noConfusion) rfl)
              (.unwarned hpredecessor)
        · intro _
          exact hrecorded _ _ _ (h2.setTracker {}) (.counted hpredecessor)
      · intro e w2 stored hstored h2
        exact hrecorded _ _ _ h2 (.uncounted stored hpredecessor hstored.symm)
    · intro e w1 h1
      exact hrecorded _ _ _ h1 (.uncounted a.ineffective hpredecessor (Or.inl rfl))
  · intro hfirst
    exact hrecorded _ _ _ (h.setTracker {})
      (.first (Option.not_isSome_iff_eq_none.mp hfirst))

/-- Announcing and recording a restart that was issued. -/
theorem wp_recordRestart {message : String} {P : World -> Prop}
    (hleaves : env.Leaves Status.stallScalars)
    (h : StallAt { sensed := some true, fired := true } a w)
    (hrecorded : forall sm b w', StallAt sm b w' -> Recorded env.now a sm b -> P w') :
    Prog.wp
      (do
        emit .warning webBackgroundRestartedEvent message
        setStallWindowStartedAt none
        setLastWebBackgroundRestartAt (some env.now)
        countIneffective a.lastRestart
        resetStallTracker) env w
      (fun _ w' => P w') (fun _ w' => P w') := by
  rw [Prog.wp_bind]
  apply wp_call
  · intro _ _
    rw [Prog.wp_bind]
    apply wp_setStallWindowStartedAt hleaves
      (h.log env.now (fun _ => Event.noConfusion) rfl)
    · intro w2 h2
      rw [Prog.wp_bind]
      apply wp_setLastWebBackgroundRestartAt hleaves h2
      · intro w3 h3
        exact wp_countIneffective hleaves h3 hrecorded
      · intro e w3 stored hstored h3
        exact hrecorded _ _ _ h3 (.unanchored stored hstored)
    · intro e w2 stored hstored h2
      exact hrecorded _ _ _ h2 (.unspent stored hstored)
  · intro e _
    exact hrecorded _ _ _ (h.log env.now (fun _ => Event.noConfusion) rfl) .unannounced

theorem wp_restartWebBackground {config : OperatorConfig}
    (hleaves : env.Leaves Status.stallScalars)
    (h : StallAt { sensed := some true } (a.held env.now) w)
    (hgate : gateClosed env.now window a.lastRestart = false)
    (hsustained : window <= env.now - a.began env.now)
    (hopen : ActionOpen window env.now a) :
    Prog.wp (restartWebBackground config window a.lastRestart) env w
      (fun _ w' => StallEnds window env.now a w')
      (fun _ w' => StallEnds window env.now a w') := by
  have hends : forall sm b w', StallAt sm b w' ->
      Recorded env.now (a.held env.now) sm b -> StallEnds window env.now a w' :=
    fun _ _ _ hb hrecorded => hb.ends (.fired hgate hsustained hopen hrecorded)
  unfold restartWebBackground
  rw [Prog.wp_bind, Prog.wp_read, Prog.wp_bind]
  apply Prog.wp_ite
  · intro _
    rw [wp_note]
    exact wp_recordRestart (a := a.held env.now) hleaves
      (h.log env.now (fun _ => Event.noConfusion) rfl) hends
  · intro _
    apply wp_call
    · intro _ _
      exact wp_recordRestart (a := a.held env.now) hleaves
        (h.log env.now (fun _ => Event.noConfusion) rfl) hends
    · intro e _
      exact (h.log env.now (fun _ => Event.noConfusion) rfl).ends (.held hgate)

end Refinement

/-!
### The tick
-/

/-- The memory a tick finds once it has looked up its caches. -/
def enteringStall (t : Tick) (w : World) : Stall :=
  if t.env.freshCaches then { w.stall with tracker := {} } else w.stall

/-- The summary of the tick that a world ends in. -/
def World.stallSummary (w : World) : StallSummary :=
  summarize (currentTick w.trace)

section Tick

variable {t : Tick} {w w' : World}

theorem StallAt.openTick (t : Tick) (w : World) : StallAt {} w.stall (w.openTick t) where
  summary := rfl
  memory := rfl

theorem wp_lookupCaches_stall {Q : Unit -> World -> Prop} {E : Exc -> World -> Prop}
    (hok : forall w', StallAt {} (enteringStall t w) w' -> Q () w') :
    Prog.wp lookupCaches t.env (w.openTick t) Q E := by
  have hopened := StallAt.openTick t w
  unfold lookupCaches
  rw [Prog.wp_bind, Prog.wp_read]
  unfold enteringStall at hok
  apply Prog.wp_ite
  · intro hfresh
    rw [if_pos hfresh] at hok
    rw [Prog.wp_bind, wp_note, wp_modifyMemory]
    apply hok
    refine StallAt.remember ?_ (fun _ => {}) rfl rfl
    exact hopened.log t.env.now (fun _ => Event.noConfusion) rfl
  · intro hkept
    rw [if_neg hkept] at hok
    exact hok _ hopened

theorem wp_runStallTick (hleaves : t.env.Leaves Status.stallScalars) :
    Prog.wp (runStallTick t.config) t.env (w.openTick t)
      (fun _ w' => StallEnds (stallWindowOf t.config) t.env.now (enteringStall t w) w')
      (fun _ w' => StallEnds (stallWindowOf t.config) t.env.now (enteringStall t w) w') := by
  unfold runStallTick
  rw [Prog.wp_bind, Prog.wp_read, Prog.wp_bind]
  apply wp_lookupCaches_stall
  intro w1 h1
  rw [Prog.wp_bind]
  apply wp_getLastWebBackgroundRestartAt hleaves h1
  · intro w2 h2
    apply Prog.wp_ite
    · intro hclosed
      exact h2.ends (.gated hclosed)
    · intro hopen
      have hgate := eq_false_of_ne_true hopen
      rw [Prog.wp_bind]
      refine Prog.wp_mono (wp_senseStall hleaves h2 hgate) ?_ (fun _ _ hends => hends)
      intro holds w3 h3
      rw [Prog.wp_bind]
      apply wp_warnResqueLayoutUnknown h3
      intro w4 h4
      rw [Prog.wp_bind]
      cases holds with
      | false =>
          refine Prog.wp_mono (wp_observeStall_broken hleaves h4 hgate) ?_
            (fun _ _ hends => hends)
          intro sustained w5 h5
          rw [h5.2, Prog.wp_bind]
          exact wp_concludeCleanWindow hleaves h5.1 hgate
      | true =>
          refine Prog.wp_mono (wp_observeStall_holds hleaves h4 hgate) ?_
            (fun _ _ hends => hends)
          intro sustained w5 h5
          rw [h5.2, Prog.wp_bind]
          rw [onlyIf, Bool.not_true, if_neg Bool.false_ne_true, Prog.wp_pure]
          apply Prog.wp_ite
          · intro _
            exact h5.1.ends (.held hgate)
          · intro hover
            have hsustained : stallWindowOf t.config <=
                t.env.now - (enteringStall t w).began t.env.now := by
              rw [Bool.not_eq_true', Bool.not_eq_false] at hover
              exact of_decide_eq_true hover
            rw [Prog.wp_bind]
            refine Prog.wp_mono (wp_restartDeferred hleaves h5.1 hgate) ?_
              (fun _ _ hends => hends)
            intro deferred w6 h6
            apply Prog.wp_ite
            · intro _
              exact h6.1.ends (.held hgate)
            · intro hundeferred
              rw [Prog.wp_bind]
              exact wp_restartWebBackground hleaves h6.1 hgate hsustained
                (h6.2 (eq_false_of_ne_true hundeferred))
  · intro e w2 h2
    exact h2.ends .unread

/-- Every tick is a move, if the three scalars have no other writer. -/
theorem runStallTick_move (hleaves : t.env.Leaves Status.stallScalars) (w : World) :
    StallTick (stallWindowOf t.config) t.env.now (enteringStall t w)
      (runTick runStallTick t w).stallSummary (runTick runStallTick t w).stall := by
  have hends : StallEnds (stallWindowOf t.config) t.env.now (enteringStall t w)
      (runTick runStallTick t w) := by
    apply Prog.exec_of_wp
    unfold inTick
    rw [Prog.wp_bind, wp_note]
    exact wp_runStallTick hleaves
  rcases hends with ⟨sm, b, hat, hmove⟩
  unfold World.stallSummary
  rw [hat.summary, hat.memory]
  exact hmove

end Tick

end OpenStudioOperator
