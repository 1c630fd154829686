import OpenStudioOperator.DatapointWatchdogBudget

/-!
# Every requeue has waited a full runtime

The clock of a datapoint is an entry of `status.startedSince`.  It is set at
first sight and after a requeue, and cleared at departure.  Whatever calls
fail, a stored clock reads the time of a tick since which the datapoint was
in every started view that pruned departures, and since which no write of the
clock returned.
-/

namespace OpenStudioOperator

open Foundation

/-- The ticks since `start`: the rest of its own tick, and the later ones. -/
structure ClockSpan (id : String) (start : Entry) (within later : Trace) : Prop where
  opens : exists config, start.event = .tickStart config
  oneTick : forall x config, x ∈ within -> x.event ≠ .tickStart config
  /-- Every tick that completed its departure prune had the datapoint in view. -/
  inView : forall x startedIds, x ∈ later ++ within ->
    x.event = .departuresPruned startedIds -> id ∈ startedIds
  /-- No later tick completed a requeue: its last write is one of the clock. -/
  unset : forall x since, x ∈ later ->
    x.event ≠ .store (.setStartedSince id since) (.ok ())

/-- A clock of `id` that reads `since` is backed by the history. -/
def Clocked (id : String) (since : Instant) (trace : Trace) : Prop :=
  exists later within start oldest,
    trace = later ++ (within ++ start :: oldest) ∧ start.time = since ∧
      ClockSpan id start within later

/-- Only a clock that has run for longer than the limit lets `id` be requeued. -/
def RequeuedLate (id : String) (limit : Duration) (e : Entry) (older : Trace) : Prop :=
  e.event.Requeues id -> exists since, limit < e.time - since ∧ Clocked id since older

structure ClockLaw (id : String) (limit : Duration) (e : Entry) (older : Trace) :
    Prop where
  stored : forall since, startedSinceField.entry id e.status = some since ->
    Clocked id since (e :: older)
  requeue : RequeuedLate id limit e older

section Law

variable {initial : Status} {id k : String} {limit : Duration}
variable {t : Tick} {w w' w0 : World} {e : Entry} {older : Trace} {since : Instant}

/-- One more entry, which neither misses `id` nor sets its clock. -/
theorem Clocked.cons (h : Clocked id since older)
    (hview : forall startedIds, e.event = .departuresPruned startedIds -> id ∈ startedIds)
    (hset : forall at', e.event ≠ .store (.setStartedSince id at') (.ok ())) :
    Clocked id since (e :: older) := by
  rcases h with ⟨later, within, start, oldest, htrace, htime, hspan⟩
  refine ⟨e :: later, within, start, oldest, by rw [htrace, List.cons_append], htime, ?_⟩
  constructor
  · exact hspan.opens
  · exact hspan.oneTick
  · intro x startedIds hx hevent
    rcases List.mem_cons.mp hx with hnew | hold
    · rw [hnew] at hevent
      exact hview startedIds hevent
    · exact hspan.inView x startedIds hold hevent
  · intro x at' hx
    rcases List.mem_cons.mp hx with hnew | hold
    · rw [hnew]
      exact hset at'
    · exact hspan.unset x at' hold

theorem Clocked.append (h : Clocked id since older) :
    forall newer : Trace,
      (forall x startedIds, x ∈ newer -> x.event = .departuresPruned startedIds ->
        id ∈ startedIds) ->
      (forall x at', x ∈ newer -> x.event ≠ .store (.setStartedSince id at') (.ok ())) ->
      Clocked id since (newer ++ older)
  | [], _, _ => h
  | e :: newer, hview, hset => by
      have hrest := h.append newer
        (fun x startedIds hx => hview x startedIds (List.mem_cons_of_mem e hx))
        (fun x at' hx => hset x at' (List.mem_cons_of_mem e hx))
      exact hrest.cons (fun startedIds => hview e startedIds List.mem_cons_self)
        (fun at' => hset e at' List.mem_cons_self)

/-- A clock set by the newest entry reads the time of the tick. -/
theorem clocked_now (htime : tickTime older = some since) (hseen : SeenStarted id older)
    (he : forall config, e.event ≠ .tickStart config)
    (hview : forall startedIds, e.event ≠ .departuresPruned startedIds) :
    Clocked id since (e :: older) := by
  rcases exists_tickStart htime with ⟨start, config, oldest, htrace, hstart, hsince⟩
  refine ⟨[], e :: currentTick older, start, oldest, ?_, hsince, ?_⟩
  · rw [List.nil_append, List.cons_append, ← htrace]
  · constructor
    · exact ⟨config, hstart⟩
    · intro x config' hx
      rcases List.mem_cons.mp hx with hnew | hold
      · rw [hnew]
        exact he config'
      · exact ne_tickStart_of_mem_currentTick config' hold
    · intro x startedIds hx hevent
      rcases List.mem_cons.mp hx with hnew | hold
      · rw [hnew] at hevent
        exact absurd hevent (hview startedIds)
      · exact hseen x startedIds hold hevent
    · intro x at' hx
      exact absurd hx List.not_mem_nil

/-- The clock stored last is backed by the history. -/
theorem clocked_of_latest (hinitial : startedSinceField.entry id initial = none)
    (hlaw : Throughout (ClockLaw id limit) older)
    (hentry : startedSinceField.entry id (latestStatus initial older) = some since) :
    Clocked id since older := by
  cases older with
  | nil =>
      rw [latestStatus, hinitial] at hentry
      cases hentry
  | cons e older => exact hlaw.head.stored since hentry

/-- The law holds so far, and the store started without a clock for `id`. -/
structure ClockKept (initial : Status) (id : String) (limit : Duration) (w : World) :
    Prop where
  empty : startedSinceField.entry id initial = none
  law : Throughout (ClockLaw id limit) w.trace

/-- An entry that keeps the clock or drops it. -/
theorem ClockKept.cons (h : ClockKept initial id limit w)
    (htrace : w'.trace = e :: w.trace)
    (hspared : Spared (startedSinceField.entry id (latestStatus initial w.trace))
      (startedSinceField.entry id e.status))
    (hview : forall startedIds, e.event = .departuresPruned startedIds ->
      id ∉ startedIds -> startedSinceField.entry id e.status = none)
    (hset : forall at', e.event ≠ .store (.setStartedSince id at') (.ok ()))
    (hrequeue : RequeuedLate id limit e w.trace) :
    ClockKept initial id limit w' := by
  refine ⟨h.empty, ?_⟩
  rw [htrace]
  refine .cons ⟨?_, hrequeue⟩ h.law
  intro since hentry
  rw [hentry] at hspared
  refine (clocked_of_latest h.empty h.law hspared.of_some).cons ?_ hset
  intro startedIds hevent
  apply not_not.mp
  intro hmissing
  rw [hview startedIds hevent hmissing] at hentry
  cases hentry

/-- A call that is no requeue of `id` and prunes no departures. -/
theorem ClockKept.log (h : ClockKept initial id limit w)
    (hlatest : latestStatus initial w.trace = w.status) (time : Instant) (event : Event)
    (hview : forall startedIds, event ≠ .departuresPruned startedIds)
    (hset : forall at' r, event ≠ .store (.setStartedSince id at') r)
    (hrequeue : RequeuedLate id limit ⟨time, event, w.status⟩ w.trace) :
    ClockKept initial id limit (w.log time event) := by
  apply h.cons rfl
  · rw [hlatest]
    exact Spared.refl _
  · intro startedIds hevent
    exact absurd hevent (hview startedIds)
  · exact fun at' => hset at' _
  · exact hrequeue

theorem ClockKept.commit (h : ClockKept initial id limit w)
    (hlatest : latestStatus initial w.trace = w.status) (time : Instant) (op : StoreOp)
    (r : Except Exc Unit) {s : Status}
    (hset : forall at', Event.store op r ≠ .store (.setStartedSince id at') (.ok ()))
    (hspared : Spared (startedSinceField.entry id w.status)
      (startedSinceField.entry id s)) :
    ClockKept initial id limit (w.commit time op r s) := by
  apply h.cons rfl
  · rw [hlatest]
    exact hspared
  · intro startedIds hevent
    cases hevent
  · exact hset
  · intro hrequeues
    exact absurd hrequeues not_false

/-- A write of the clock of `id`, failed or not. -/
theorem ClockKept.clock {r : Except Exc Unit} {s : Status}
    (h : ClockKept initial id limit w) (hwithin : Within initial t w0 w)
    (hremove : t.env.MayRemove (startedSinceField.entry id))
    (hseen : SeenStarted id w.trace)
    (hwrite : SparingWrite t.env startedSinceField id (some t.env.now) r w.status s) :
    ClockKept initial id limit
      (w.commit t.env.now (.setStartedSince id t.env.now) r s) := by
  refine ⟨h.empty, .cons ⟨?_, fun hrequeues => absurd hrequeues not_false⟩ h.law⟩
  intro since hentry
  have hself := hwrite.self hremove
  have hwritten : startedSinceField.entry id s = some t.env.now ->
      Clocked id since (⟨t.env.now, .store (.setStartedSince id t.env.now) r, s⟩ :: w.trace) := by
    intro hnow
    rw [hnow, Option.some.injEq] at hentry
    rw [← hentry]
    exact clocked_now hwithin.time hseen (fun _ => Event.noConfusion)
      (fun _ => Event.noConfusion)
  rcases hself with hnow | hspared
  · exact hwritten hnow
  · cases r with
    | ok _ => exact hwritten (hwrite.returned rfl)
    | error error =>
        rw [hentry] at hspared
        have hbefore := hspared.of_some
        rw [← hwithin.latest] at hbefore
        refine (clocked_of_latest h.empty h.law hbefore).cons ?_ ?_
        · intro startedIds hevent
          cases hevent
        · intro at' hevent
          cases hevent

/-- A requeue is decided on a clock that has run for longer than the limit. -/
theorem Overdue.clocked {budget : Int} (hdue : Overdue t w id budget)
    (hlimit : maxDatapointRuntimeOf t = limit)
    (hlaw : Throughout (ClockLaw id limit) w.trace) :
    exists since, limit < t.env.now - since ∧ Clocked id since w.trace := by
  rcases hdue.clockRead with ⟨s, since, ⟨read, hread, _, hstatus⟩, hentry, hover⟩
  refine ⟨since, by rw [← hlimit]; exact hover, ?_⟩
  rcases exists_split_currentTick hread with ⟨newer, rest, htrace, hnewer⟩
  have hlaw' := hlaw
  rw [htrace] at hlaw'
  rw [← hstatus] at hentry
  have hclocked := (hlaw'.of_split newer).stored since hentry
  rw [htrace]
  apply hclocked.append newer
  · intro x startedIds hx hevent
    exact hdue.seen x startedIds (hnewer x hx) hevent
  · intro x at' hx hevent
    apply hdue.unclocked x (hnewer x hx)
    rw [hevent]
    rfl

theorem requeuedLate_of_ne {event : Event} {time : Instant} {s : Status}
    (hevent : ¬ event.Requeues id) : RequeuedLate id limit ⟨time, event, s⟩ older :=
  fun hrequeues => absurd hrequeues hevent

/-- A whole requeue, of `id` or of another datapoint. -/
theorem ClockKept.requeue {budget : Int} (h : ClockKept initial id limit w)
    (hlatest : latestStatus initial w.trace = w.status)
    (hremove : t.env.MayRemove (startedSinceField.entry id))
    (hlimit : maxDatapointRuntimeOf t = limit)
    (hdue : Overdue t w k budget) (hacts : RequeueActs t k budget w w') :
    ClockKept initial id limit w' := by
  have hlate : forall event, event.Requeues k ->
      RequeuedLate id limit ⟨t.env.now, event, w.status⟩ w.trace := by
    intro event hevent hrequeues
    have hsame : k = id := by
      rcases hevent.cases with ⟨r, hcase⟩ | hcase
      · rw [hcase] at hrequeues
        exact hrequeues
      · rw [hcase] at hrequeues
        exact hrequeues
    subst hsame
    exact hdue.clocked hlimit h.law
  have hacted : ClockKept initial id limit
      (w.log t.env.now (actEvent t.config (.requeueDatapoint k))) := by
    rcases actEvent_cases t.config (.requeueDatapoint k) with hevent | hevent
    · rw [hevent]
      exact h.log hlatest _ _ (fun _ => Event.noConfusion) (fun _ _ => Event.noConfusion)
        (hlate _ rfl)
    · rw [hevent]
      exact h.log hlatest _ _ (fun _ => Event.noConfusion) (fun _ _ => Event.noConfusion)
        (hlate _ rfl)
  cases hacts with
  | failed e _ =>
      exact h.log hlatest _ _ (fun _ => Event.noConfusion) (fun _ _ => Event.noConfusion)
        (hlate _ rfl)
  | unannounced message e =>
      exact hacted.log rfl _ _ (fun _ => Event.noConfusion) (fun _ _ => Event.noConfusion)
        (requeuedLate_of_ne not_false)
  | recorded message r s hwrite =>
      have hannounced := hacted.log rfl t.env.now
        (.emit .normal datapointRequeuedEvent message (.ok ()))
        (fun _ => Event.noConfusion) (fun _ _ => Event.noConfusion)
        (requeuedLate_of_ne not_false)
      refine hannounced.commit rfl _ _ _ ?_ ?_
      · intro at' hevent
        cases hevent
      · exact hwrite.frame _ _ hremove fun _ _ => rfl

/-- Every step keeps the law. -/
theorem WatchStep.clockKept (hwithin : Within initial t w0 w)
    (hlimit : maxDatapointRuntimeOf t = limit)
    (hremove : t.env.MayRemove (startedSinceField.entry id))
    (h : ClockKept initial id limit w) (hstep : WatchStep t w w') :
    ClockKept initial id limit w' := by
  have hspared : forall s, t.env.Spares w.status s ->
      Spared (startedSinceField.entry id w.status) (startedSinceField.entry id s) :=
    fun s hspares => hspares _ _ hremove (erasable_startedSince id)
  cases hstep with
  | restart =>
      have hlogged := h.log hwithin.latest t.env.now .processStart
        (fun _ => Event.noConfusion) (fun _ _ => Event.noConfusion)
        (requeuedLate_of_ne not_false)
      exact ⟨hlogged.empty, hlogged.law⟩
  | remember _ => exact ⟨h.empty, h.law⟩
  | protect _ => exact ⟨h.empty, h.law⟩
  | query hquery =>
      refine h.log hwithin.latest _ _ ?_ ?_ (requeuedLate_of_ne ?_)
      · intro startedIds hevent
        apply hquery.not_tracked
        rw [hevent]
        exact trivial
      · exact fun _ _ => hquery.ne_store _ _
      · exact fun hrequeues => hquery.not_tracked hrequeues.tracked
  | @look op r s hread hspares =>
      refine h.commit hwithin.latest _ _ _ ?_ (hspared s hspares)
      intro at' hevent
      cases hevent
      exact hread
  | @depart id' r s hwrite =>
      refine h.commit hwithin.latest _ _ _ ?_ ?_
      · intro at' hevent
        cases hevent
      · rcases eq_or_ne id id' with heq | hne
        · subst heq
          rcases hwrite.self hremove with hgone | hkept
          · exact Or.inr hgone
          · exact hkept
        · exact hwrite.other id hne hremove
  | @departed startedIds hgone =>
      apply h.cons rfl
      · rw [hwithin.latest]
        exact Spared.refl _
      · intro startedIds' hevent hmissing
        cases hevent
        exact hgone id hmissing hremove
      · intro at' hevent
        cases hevent
      · exact requeuedLate_of_ne not_false
  | @clock id' r s hseen hwrite =>
      rcases eq_or_ne id id' with heq | hne
      · subst heq
        exact h.clock hwithin hremove hseen hwrite
      · refine h.commit hwithin.latest _ _ _ ?_ (hwrite.other id hne hremove)
        intro at' hevent
        cases hevent
        exact hne rfl
  | requeue hdue hacts => exact h.requeue hwithin.latest hremove hlimit hdue hacts
  | count _ => exact ⟨h.empty, h.law⟩
  | forget => exact ⟨h.empty, h.law⟩
  | age liveDatapoints liveAnalyses =>
      have hlogged := h.log hwithin.latest t.env.now
        (.heavyCheck liveDatapoints liveAnalyses)
        (fun _ => Event.noConfusion) (fun _ _ => Event.noConfusion)
        (requeuedLate_of_ne not_false)
      exact ⟨hlogged.empty, hlogged.law⟩
  | @prune liveDatapoints liveAnalyses r s issued _ hspares _ =>
      have hpruned := h.commit hwithin.latest t.env.now
        (.prune (some (pruneLive liveAnalyses w.memory.anchorPrune.absentAnalyses))
          (some (pruneLive liveDatapoints w.memory.anchorPrune.absentDatapoints)))
        r (fun _ hevent => by cases hevent) (hspared s hspares)
      cases issued with
      | none => exact hpruned
      | some attempt =>
          exact hpruned.log rfl _ _ (fun _ => Event.noConfusion)
            (fun _ _ => Event.noConfusion) (requeuedLate_of_ne not_false)
  | retire _ _ => exact ⟨h.empty, h.law⟩

end Law

/-- The clock law holds throughout every run. -/
theorem runWatchdogTicks_clockLaw {ticks : List Tick} {initial : Status} {id : String}
    {maxMinutes : Nat} (hempty : startedSinceField.entry id initial = none)
    (hmax : forall t, t ∈ ticks ->
      t.config.datapointPolicy.maxDatapointRuntimeMinutes = maxMinutes)
    (hremove : forall t, t ∈ ticks -> t.env.MayRemove (startedSinceField.entry id)) :
    Throughout (ClockLaw id (minutes maxMinutes))
      (runTicks runWatchdogTick ticks { status := initial }).trace := by
  have hkept : ClockKept initial id (minutes maxMinutes)
      (runTicks runWatchdogTick ticks { status := initial }) := by
    apply runWatchdogTicks_induction
      (fun t => t.config.datapointPolicy.maxDatapointRuntimeMinutes = maxMinutes ∧
        t.env.MayRemove (startedSinceField.entry id))
    · intro t ht
      exact ⟨hmax t ht, hremove t ht⟩
    · intro t w _ hlatest h
      have hopened := h.log hlatest t.env.now (.tickStart t.config)
        (fun _ => Event.noConfusion) (fun _ _ => Event.noConfusion)
        (requeuedLate_of_ne not_false)
      exact ⟨hopened.empty, hopened.law⟩
    · intro t w0 w w' hcond hwithin h hstep
      have hlimit : maxDatapointRuntimeOf t = minutes maxMinutes := by
        unfold maxDatapointRuntimeOf
        rw [hcond.1]
      exact hstep.clockKept hwithin hlimit hcond.2 h
    · exact ⟨hempty, .nil⟩
  exact hkept.law

/-- In every run from an empty `status.startedSince` that only the watchdog
writes, a requeue comes more than the runtime after a tick since which the
datapoint was in view and its clock was not set again. -/
theorem watchdog_requeue_clocked (ticks : List Tick) (status : Status) (id : String)
    (maxMinutes : Nat) (hempty : status.startedSince = Dict.empty)
    (hmax : forall t, t ∈ ticks ->
      t.config.datapointPolicy.maxDatapointRuntimeMinutes = maxMinutes)
    (hremove : forall t, t ∈ ticks -> t.env.MayRemove (startedSinceField.entry id)) :
    Throughout (RequeuedLate id (minutes maxMinutes))
      (runTicks runWatchdogTick ticks { status := status }).trace := by
  have hentry : startedSinceField.entry id status = none := by
    show status.startedSince.get? id = none
    rw [hempty]
    rfl
  exact (runWatchdogTicks_clockLaw hentry hmax hremove).mono fun _ _ h => h.requeue

/-- A clock set at first sight and again by the requeue. -/
theorem watchdog_requeue_clocked_twice :
    Throughout (RequeuedLate "d" (minutes 45)) (watchedRun ["d"] [0, 46, 92]) ∧
      requeuesIn "d" (watchedRun ["d"] [0, 46, 92]) = 2 := by
  have hcount : requeuesIn "d" (watchedRun ["d"] [0, 46, 92]) = 2 := by decide +kernel
  refine ⟨?_, hcount⟩
  unfold watchedRun
  apply watchdog_requeue_clocked ([0, 46, 92].map (startedAt ["d"])) {} "d" 45 rfl
  · intro t ht
    rcases List.mem_map.mp ht with ⟨minute, _, ht⟩
    rw [← ht]
    rfl
  · intro t ht
    rcases List.mem_map.mp ht with ⟨minute, _, ht⟩
    rw [← ht]
    exact (startedAt_leaves _ _ _).mayRemove

/-- The same of the ticks between two times, whatever their order in the run. -/
def RequeuedLateByTime (id : String) (limit : Duration) (e : Entry) (older : Trace) :
    Prop :=
  e.event.Requeues id ->
    exists start config, start ∈ older ∧ start.event = .tickStart config ∧
      limit < e.time - start.time ∧
      (forall x startedIds, x ∈ older -> start.time <= x.time ->
        x.event = .departuresPruned startedIds -> id ∈ startedIds) ∧
      (forall newer x rest since, older = newer ++ x :: rest ->
        start.time < x.time -> x.time < e.time ->
        x.event = .store (.setStartedSince id since) (.ok ()) ->
        forall y record, y ∈ currentTick rest ->
          y.event ≠ .store (.setRequeue id record) (.ok ()))

/-- Two ticks at one time, of which only the second lists the datapoint. -/
def reenteredRun : Trace :=
  (runTicks runWatchdogTick [startedAt [] 0, startedAt ["d"] 0, startedAt ["d"] 46] {}).trace

/-- Times alone do not tell the tick that set the clock from one just before it. -/
theorem watchdog_requeue_clocked_not_by_time :
    ¬ Throughout (RequeuedLateByTime "d" (minutes 45)) reenteredRun := by
  have hact : (reenteredRun[3]?).map (fun e => (e.event, e.time)) =
      some (.mutate (.requeueDatapoint "d") (.ok ()), minutes 46) := by decide +kernel
  have hmissed : (reenteredRun.drop 4).any
      (fun x => decide (x.event = .departuresPruned [] ∧ x.time = 0)) = true := by
    decide +kernel
  have hstarts : (reenteredRun.drop 4).all
      (fun x => !x.opensTick || decide (x.time = 0 ∨ x.time = minutes 46)) = true := by
    decide +kernel
  rw [Option.map_eq_some_iff] at hact
  rcases hact with ⟨e, he, hact⟩
  rw [Prod.mk.injEq] at hact
  intro hlate
  rw [eq_take_cons_drop he] at hlate
  have hrequeues : e.event.Requeues "d" := by
    rw [hact.1]
    rfl
  rcases hlate.of_split _ hrequeues with ⟨start, config, hstart, hopens, hover, hview, _⟩
  rw [List.any_eq_true] at hmissed
  rcases hmissed with ⟨x, hx, hmissed⟩
  have hmissed' := of_decide_eq_true hmissed
  have hfirst : start.time <= x.time := by
    have htimes := List.all_eq_true.mp hstarts start hstart
    rw [Entry.opensTick, hopens, Bool.not_true, Bool.false_or] at htimes
    rw [hmissed'.2]
    rcases of_decide_eq_true htimes with hzero | hnow
    · exact Int.le_of_eq hzero
    · rw [hact.2, hnow, Int.sub_self] at hover
      exact absurd hover (by decide)
  exact absurd (hview x [] hx hfirst hmissed'.1) List.not_mem_nil

end OpenStudioOperator
