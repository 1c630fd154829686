import OpenStudioOperator.Foundation.Pacing
import OpenStudioOperator.HandlerFootprints
import OpenStudioOperator.RetentionSafety
import OpenStudioOperator.WebBackgroundMonitorSpacing
import OpenStudioOperator.WorkerRecyclerTicks

/-!
# Runs of the whole operator

The handlers share one status and one process.  A run is a list of their
ticks in any order, each with its own environment and configuration.  What a
handler does not write it leaves alone, so a property of one handler's memory
carries over to every interleaving.
-/

namespace OpenStudioOperator

open Foundation Prog

inductive Handler where
  | analysisSla
  | datapointWatchdog
  | webBackgroundMonitor
  | workerRecycler
  | retention
deriving DecidableEq, Repr

def Handler.run (text : TextOps) (h : Handler) (t : Tick) (w : World) : World :=
  match h with
  | .analysisSla => runTick runSlaTick t w
  | .datapointWatchdog => runTick runWatchdogTick t w
  | .webBackgroundMonitor => runTick runStallTick t w
  | .workerRecycler => runTick runRecyclerTick t w
  | .retention => runTick (runRetentionTick text) t w

def runHandlers (text : TextOps) : List (Handler × Tick) -> World -> World
  | [], w => w
  | (h, t) :: later, w => runHandlers text later (h.run text t w)

/-- No other process writes this part of the status during the run. -/
def LeftAlone {part : Type} (view : Status -> part) (ticks : List (Handler × Tick)) : Prop :=
  forall h t, (h, t) ∈ ticks -> t.env.Leaves view

/-- The clock does not go back from one tick to a later one. -/
def ClockForward (ticks : List (Handler × Tick)) : Prop :=
  ticks.Pairwise fun p p' => p.2.env.now <= p'.2.env.now

theorem LeftAlone.head {part : Type} {view : Status -> part} {h : Handler} {t : Tick}
    {later : List (Handler × Tick)} (hleft : LeftAlone view ((h, t) :: later)) :
    t.env.Leaves view :=
  hleft h t List.mem_cons_self

theorem LeftAlone.tail {part : Type} {view : Status -> part} {p : Handler × Tick}
    {later : List (Handler × Tick)} (hleft : LeftAlone view (p :: later)) :
    LeftAlone view later :=
  fun h t hmem => hleft h t (List.mem_cons_of_mem p hmem)

/-!
## Footprints
-/

/-- The handler does not write this part of the status. -/
def Handler.Spares {part : Type} (h : Handler) (view : Status -> part) : Prop :=
  match h with
  | .analysisSla =>
      Footprint.Unwritten softStopsField view ∧ Footprint.Unwritten stoppedAnalysesField view
  | .datapointWatchdog =>
      Footprint.Unwritten requeuesField view ∧ Footprint.Unwritten startedSinceField view ∧
        Footprint.Unpruned view
  | .webBackgroundMonitor =>
      Footprint.Unset lastWebBackgroundRestartField view ∧
        Footprint.Unset stallWindowStartedAtField view ∧
        Footprint.Unset webBackgroundIneffectiveRestartsField view
  | .workerRecycler => Footprint.Unset lastRecycleAtField view
  | .retention => Footprint.Unwritten archivedAnalysesField view

/-- The handler does not touch this part of the memory. -/
def Handler.Forgoes {part : Type} (h : Handler) (memoryView : ProcessMemory -> part) : Prop :=
  match h with
  | .datapointWatchdog =>
      (forall memory seen, memoryView { memory with exhaustedSeen := seen } = memoryView memory) ∧
        forall memory state, memoryView { memory with anchorPrune := state } = memoryView memory
  | .webBackgroundMonitor =>
      (forall memory tracker,
        memoryView { memory with stallTracker := tracker } = memoryView memory) ∧
        forall memory state, memoryView { memory with leg2 := state } = memoryView memory
  | _ => True

section Frame

variable {part part' : Type} {view : Status -> part} {memoryView : ProcessMemory -> part'}
variable {v : part} {u : part'} {text : TextOps} {t : Tick} {w : World}

theorem watched_runTick {alpha : Type} {body : OperatorConfig -> OpM alpha}
    (hbody : Preserves (Footprint.Watched view memoryView v u) (body t.config) t.env)
    (h : Footprint.Watched view memoryView v u w) :
    Footprint.Watched view memoryView v u (runTick body t w) := by
  apply exec_of_wp
  unfold inTick
  rw [wp_bind, wp_note]
  exact hbody _ h

/-- A tick leaves what its handler spares as it was. -/
theorem Handler.watched_run {h : Handler} (hspares : h.Spares view)
    (hforgoes : h.Forgoes memoryView) (hcaches : Footprint.CachesKept t.env memoryView)
    (hleaves : t.env.Leaves view) (hw : Footprint.Watched view memoryView v u w) :
    Footprint.Watched view memoryView v u (h.run text t w) := by
  cases h with
  | analysisSla =>
      exact watched_runTick (Footprint.preserves_runSlaTick hleaves hspares.1 hspares.2 _) hw
  | datapointWatchdog =>
      exact watched_runTick (Footprint.preserves_runWatchdogTick hleaves hspares.1 hspares.2.1
        hspares.2.2 hforgoes.1 hforgoes.2 hcaches _) hw
  | webBackgroundMonitor =>
      exact watched_runTick (Footprint.preserves_runStallTick hleaves hspares.1 hspares.2.1
        hspares.2.2 hforgoes.1 hforgoes.2 hcaches _) hw
  | workerRecycler =>
      exact watched_runTick (Footprint.preserves_runRecyclerTick hleaves hspares _) hw
  | retention =>
      exact watched_runTick (Footprint.preserves_runRetentionTick hleaves hspares text _) hw

theorem Handler.view_run {h : Handler} (hspares : h.Spares view) (hleaves : t.env.Leaves view)
    (w : World) : view (h.run text t w).status = view w.status := by
  have hforgoes : h.Forgoes fun _ => () := by
    cases h with
    | datapointWatchdog => exact ⟨fun _ _ => rfl, fun _ _ => rfl⟩
    | webBackgroundMonitor => exact ⟨fun _ _ => rfl, fun _ _ => rfl⟩
    | _ => exact trivial
  have hkept : Footprint.Watched view (fun _ => ()) (view w.status) () (h.run text t w) :=
    Handler.watched_run hspares hforgoes (fun _ _ => rfl) hleaves ⟨rfl, rfl⟩
  exact hkept.1

/-- A part that no handler of the run writes is as it was at the end. -/
theorem view_runHandlers : forall (ticks : List (Handler × Tick)) (w : World),
    (forall h t, (h, t) ∈ ticks -> h.Spares view) -> LeftAlone view ticks ->
    view (runHandlers text ticks w).status = view w.status := by
  intro ticks
  induction ticks with
  | nil =>
      intro w _ _
      rfl
  | cons p later ih =>
      rcases p with ⟨h, t⟩
      intro w hspares hleft
      have hlater := ih (h.run text t w)
        (fun h' t' hmem => hspares h' t' (List.mem_cons_of_mem _ hmem)) hleft.tail
      rw [runHandlers, hlater]
      exact Handler.view_run (hspares h t List.mem_cons_self) hleft.head w

end Frame

/-!
## Ownership
-/

theorem leaves_of_untouched {part : Type} {env : Env} (h : env.Leaves id)
    (view : Status -> part) : env.Leaves view := by
  intro trace op n s
  exact ⟨congrArg view (h trace op n s).1, congrArg view (h trace op n s).2⟩

theorem eraseIn_scalars (field : StatusField) (ids : List String) (s : Status) :
    (field.eraseIn ids s).stallScalars = s.stallScalars ∧
      (field.eraseIn ids s).lastRecycleAt = s.lastRecycleAt := by
  cases field with
  | softStops => exact ⟨rfl, rfl⟩
  | requeues => exact ⟨rfl, rfl⟩
  | startedSince => exact ⟨rfl, rfl⟩
  | archivedAnalyses => exact ⟨rfl, rfl⟩
  | stoppedAnalyses => exact ⟨rfl, rfl⟩

theorem spares_lastRecycleAt {h : Handler} (hother : h ≠ .workerRecycler) :
    h.Spares Status.lastRecycleAt := by
  cases h with
  | analysisSla => exact ⟨fun _ _ => rfl, fun _ _ => rfl⟩
  | datapointWatchdog =>
      exact ⟨fun _ _ => rfl, fun _ _ => rfl, fun field ids s => (eraseIn_scalars field ids s).2⟩
  | webBackgroundMonitor => exact ⟨fun _ _ => rfl, fun _ _ => rfl, fun _ _ => rfl⟩
  | workerRecycler => exact absurd rfl hother
  | retention => exact fun _ _ => rfl

theorem spares_stallScalars {h : Handler} (hother : h ≠ .webBackgroundMonitor) :
    h.Spares Status.stallScalars := by
  cases h with
  | analysisSla => exact ⟨fun _ _ => rfl, fun _ _ => rfl⟩
  | datapointWatchdog =>
      exact ⟨fun _ _ => rfl, fun _ _ => rfl, fun field ids s => (eraseIn_scalars field ids s).1⟩
  | webBackgroundMonitor => exact absurd rfl hother
  | workerRecycler => exact fun _ _ => rfl
  | retention => exact fun _ _ => rfl

theorem spares_softStops {h : Handler} (hsla : h ≠ .analysisSla)
    (hwatchdog : h ≠ .datapointWatchdog) :
    h.Spares fun s => (s.softStops, s.stoppedAnalyses) := by
  cases h with
  | analysisSla => exact absurd rfl hsla
  | datapointWatchdog => exact absurd rfl hwatchdog
  | webBackgroundMonitor => exact ⟨fun _ _ => rfl, fun _ _ => rfl, fun _ _ => rfl⟩
  | workerRecycler => exact fun _ _ => rfl
  | retention => exact fun _ _ => rfl

theorem spares_requeues {h : Handler} (hwatchdog : h ≠ .datapointWatchdog) :
    h.Spares fun s => (s.requeues, s.startedSince) := by
  cases h with
  | analysisSla => exact ⟨fun _ _ => rfl, fun _ _ => rfl⟩
  | datapointWatchdog => exact absurd rfl hwatchdog
  | webBackgroundMonitor => exact ⟨fun _ _ => rfl, fun _ _ => rfl, fun _ _ => rfl⟩
  | workerRecycler => exact fun _ _ => rfl
  | retention => exact fun _ _ => rfl

theorem spares_archivedAnalyses {h : Handler} (hretention : h ≠ .retention)
    (hwatchdog : h ≠ .datapointWatchdog) : h.Spares Status.archivedAnalyses := by
  cases h with
  | analysisSla => exact ⟨fun _ _ => rfl, fun _ _ => rfl⟩
  | datapointWatchdog => exact absurd rfl hwatchdog
  | webBackgroundMonitor => exact ⟨fun _ _ => rfl, fun _ _ => rfl, fun _ _ => rfl⟩
  | workerRecycler => exact fun _ _ => rfl
  | retention => exact absurd rfl hretention

/-- Every field of the status has its writers.  In any run, under any answers
and failures, a field none of whose writers ticks keeps its value: each scalar
and the watchdog's maps have one writer, and the other maps one writer beside
the hygiene of the watchdog. -/
theorem status_fields_owned (text : TextOps) (ticks : List (Handler × Tick)) (w : World)
    (hleft : LeftAlone id ticks) :
    (.workerRecycler ∉ ticks.map Prod.fst ->
      (runHandlers text ticks w).status.lastRecycleAt = w.status.lastRecycleAt) ∧
    (.webBackgroundMonitor ∉ ticks.map Prod.fst ->
      (runHandlers text ticks w).status.stallScalars = w.status.stallScalars) ∧
    (.datapointWatchdog ∉ ticks.map Prod.fst ->
      (runHandlers text ticks w).status.requeues = w.status.requeues ∧
      (runHandlers text ticks w).status.startedSince = w.status.startedSince ∧
      (.analysisSla ∉ ticks.map Prod.fst ->
        (runHandlers text ticks w).status.softStops = w.status.softStops ∧
        (runHandlers text ticks w).status.stoppedAnalyses = w.status.stoppedAnalyses) ∧
      (.retention ∉ ticks.map Prod.fst ->
        (runHandlers text ticks w).status.archivedAnalyses = w.status.archivedAnalyses)) := by
  have hleaves : forall {part : Type} (view : Status -> part), LeftAlone view ticks :=
    fun view h t hmem => leaves_of_untouched (hleft h t hmem) view
  have hne : forall {handler h : Handler} {t : Tick}, handler ∉ ticks.map Prod.fst ->
      (h, t) ∈ ticks -> h ≠ handler := by
    intro handler h t habsent hmem heq
    exact habsent (List.mem_map.mpr ⟨(h, t), hmem, heq⟩)
  refine ⟨?_, ?_, ?_⟩
  · intro habsent
    exact view_runHandlers ticks w (fun h t hmem => spares_lastRecycleAt (hne habsent hmem))
      (hleaves _)
  · intro habsent
    exact view_runHandlers ticks w (fun h t hmem => spares_stallScalars (hne habsent hmem))
      (hleaves _)
  · intro habsent
    have hrequeues := @view_runHandlers _ (fun s => (s.requeues, s.startedSince)) text ticks w
      (fun h t hmem => spares_requeues (hne habsent hmem)) (hleaves _)
    simp only [Prod.mk.injEq] at hrequeues
    refine ⟨hrequeues.1, hrequeues.2, ?_, ?_⟩
    · intro hsla
      have hstops := @view_runHandlers _ (fun s => (s.softStops, s.stoppedAnalyses)) text ticks w
        (fun h t hmem => spares_softStops (hne hsla hmem) (hne habsent hmem)) (hleaves _)
      simp only [Prod.mk.injEq] at hstops
      exact hstops
    · intro hretention
      exact view_runHandlers ticks w
        (fun h t hmem => spares_archivedAnalyses (hne hretention hmem) (hne habsent hmem))
        (hleaves _)

/-- A recycler tick at the given minute: work is completed and none is in flight. -/
def recyclingAt (minute : Nat) : Tick where
  env := { Env.quiet (minutes minute) with
    listAnalyses := fun _ => .ok [{ id := some "a", status := some "completed" }] }
  config := {}

/-- A run of the recycler, the SLA monitor and the stall monitor: the workers
are recycled at minutes 0 and 31, web_background is restarted at minutes 10
and 31. -/
def mixedRun : List (Handler × Tick) :=
  [(.workerRecycler, recyclingAt 0), (.webBackgroundMonitor, stalledAt 1 [] 0),
    (.analysisSla, recyclingAt 5), (.webBackgroundMonitor, stalledAt 1 [] 10),
    (.workerRecycler, recyclingAt 20), (.webBackgroundMonitor, stalledAt 1 [] 21),
    (.webBackgroundMonitor, stalledAt 1 [] 31), (.workerRecycler, recyclingAt 31)]

theorem mixedRun_leftAlone {part : Type} (view : Status -> part) :
    LeftAlone view mixedRun := by
  intro h t hmem
  simp only [mixedRun, List.mem_cons, Prod.mk.injEq, List.not_mem_nil, or_false] at hmem
  rcases hmem with ⟨_, rfl⟩ | ⟨_, rfl⟩ | ⟨_, rfl⟩ | ⟨_, rfl⟩ | ⟨_, rfl⟩ | ⟨_, rfl⟩ | ⟨_, rfl⟩ |
    ⟨_, rfl⟩
  all_goals exact fun _ _ _ _ => ⟨rfl, rfl⟩

/-- A status with a requeue and an archival in it. -/
def trackedWorld : World where
  status :=
    { requeues := Dict.empty.set "dp" { count := 1, lastRequeuedAt := minutes 0 }
      archivedAnalyses := Dict.empty.set "a" { backend := "s3", bucket := some "bucket" } }

theorem status_fields_owned_mixedRun :
    (runHandlers sampleText mixedRun trackedWorld).status.requeues =
        trackedWorld.status.requeues ∧
      (runHandlers sampleText mixedRun trackedWorld).status.archivedAnalyses =
        trackedWorld.status.archivedAnalyses := by
  have howned := (status_fields_owned sampleText mixedRun trackedWorld
    (mixedRun_leftAlone id)).2.2 (by decide)
  exact ⟨howned.1, howned.2.2.2 (by decide)⟩

/-!
## Paced actions

The recycler and the stall monitor act behind a gate on their own anchor.
-/

/-- The times of the ticks of one handler in which it acted. -/
def actionsOf (text : TextOps) (own : Handler) (acts : Tick -> World -> Bool) :
    List (Handler × Tick) -> World -> List Instant
  | [], _ => []
  | (h, t) :: later, w =>
      let rest := actionsOf text own acts later (h.run text t w)
      if h = own ∧ acts t w = true then t.env.now :: rest else rest

section Paced

variable {text : TextOps} {own : Handler} {acts : Tick -> World -> Bool} {part : Type}
variable (view : Status -> part) (anchor : part -> Option Instant)
variable (gapOf : OperatorConfig -> Duration) {gap : Duration}

/-- The passes of one handler through its gate, in a run of them all. -/
theorem passes_runHandlers (hothers : forall h, h ≠ own -> h.Spares view)
    (hpass : forall t w, t.env.Leaves view ->
      GatePass (gapOf t.config) t.env.now (anchor (view w.status)) (acts t w)
        (anchor (view (own.run text t w).status))) :
    forall (ticks : List (Handler × Tick)) (w : World), LeftAlone view ticks ->
      (forall t, (own, t) ∈ ticks -> gap <= gapOf t.config) ->
      exists passes, GatePasses gap (anchor (view w.status)) passes
          (anchor (view (runHandlers text ticks w).status)) ∧
        actedAt passes = actionsOf text own acts ticks w ∧
        List.Sublist (passes.map Prod.fst) (ticks.map fun p => p.2.env.now) := by
  intro ticks
  induction ticks with
  | nil =>
      intro w _ _
      exact ⟨[], GatePasses.nil _, rfl, List.Sublist.slnil⟩
  | cons p later ih =>
      rcases p with ⟨h, t⟩
      intro w hleft hgap
      have hlater := ih (h.run text t w) hleft.tail
        fun t' hmem => hgap t' (List.mem_cons_of_mem _ hmem)
      rcases hlater with ⟨passes, hrun, hacted, htimes⟩
      by_cases hown : h = own
      · subst hown
        have hstep := hpass t w hleft.head
        refine ⟨(t.env.now, acts t w) :: passes, ?_, ?_, ?_⟩
        · exact GatePasses.cons (hgap t List.mem_cons_self) hstep hrun
        · unfold actionsOf
          cases hacts : acts t w with
          | true =>
              rw [if_pos ⟨rfl, rfl⟩, ← hacted]
              rfl
          | false =>
              rw [if_neg fun hboth => Bool.false_ne_true hboth.2, ← hacted]
              rfl
        · exact List.Sublist.cons_cons _ htimes
      · have hsame : view (h.run text t w).status = view w.status :=
          Handler.view_run (hothers h hown) hleft.head w
        rw [hsame] at hrun
        refine ⟨passes, hrun, ?_, List.Sublist.cons _ htimes⟩
        unfold actionsOf
        rw [if_neg fun hboth => hown hboth.1]
        exact hacted

/-- In an interval the handler acts at most once, and once more for each gap
the interval covers, whatever else the operator does. -/
theorem actionsOf_rate (hothers : forall h, h ≠ own -> h.Spares view)
    (hpass : forall t w, t.env.Leaves view ->
      GatePass (gapOf t.config) t.env.now (anchor (view w.status)) (acts t w)
        (anchor (view (own.run text t w).status)))
    {ticks : List (Handler × Tick)} (w : World) (hleft : LeftAlone view ticks)
    (hclock : ClockForward ticks) (hgap : forall t, (own, t) ∈ ticks -> gap <= gapOf t.config)
    (hnonneg : 0 <= gap) {lo hi : Instant} (hle : lo <= hi) :
    (((actionsOf text own acts ticks w).filter fun at' => decide (lo <= at' ∧ at' <= hi)).length
      : Int) <= (hi - lo) / (gap + 1) + 1 := by
  rcases passes_runHandlers view anchor gapOf hothers hpass ticks w hleft hgap with
    ⟨passes, hrun, hacted, htimes⟩
  rw [← hacted]
  apply hrun.rate hnonneg _ hle
  exact (List.pairwise_map.mpr hclock).sublist htimes

end Paced

/-!
## Recycles
-/

theorem RecycleTick.pass {config : OperatorConfig} {now : Instant} {a b : Option Instant}
    {sm : RecycleSummary} (h : RecycleTick config now a sm b) :
    GatePass (minutes config.workerPolicy.minRecycleIntervalMinutes) now a sm.recorded b := by
  cases h with
  | unread => exact .shut
  | gated _ => exact .shut
  | unpolled _ => exact .shut
  | unarmed _ _ _ => exact .shut
  | unrecorded _ _ hopen _ _ => exact .idle _ hopen
  | recycled _ hopen _ => exact .acted hopen

/-- The times of the recycles that were recorded. -/
def recycledAt (text : TextOps) (ticks : List (Handler × Tick)) (w : World) : List Instant :=
  actionsOf text .workerRecycler (fun t w => (recycleSummaryOf t w).recorded) ticks w

/-- However the ticks of the operator interleave, fail and change their
configuration, an interval holds at most one recorded recycle and one more for
each minimal recycle interval it covers. -/
theorem recycle_rate (text : TextOps) (ticks : List (Handler × Tick)) (w : World)
    (gap lo hi : Int) (hleft : LeftAlone Status.lastRecycleAt ticks)
    (hclock : ClockForward ticks)
    (hgap : forall t, (Handler.workerRecycler, t) ∈ ticks ->
      gap <= minutes t.config.workerPolicy.minRecycleIntervalMinutes)
    (hnonneg : 0 <= gap) (hle : lo <= hi) :
    (((recycledAt text ticks w).filter fun at' => decide (lo <= at' ∧ at' <= hi)).length : Int)
      <= (hi - lo) / (gap + 1) + 1 := by
  refine actionsOf_rate Status.lastRecycleAt id
    (fun config => minutes config.workerPolicy.minRecycleIntervalMinutes)
    (fun h hother => spares_lastRecycleAt hother) ?_ w hleft hclock hgap hnonneg hle
  intro t w hleaves
  exact (runRecyclerTick_move hleaves w).pass

theorem recycle_rate_mixedRun :
    (((recycledAt sampleText mixedRun {}).filter fun at' =>
        decide (minutes 0 <= at' ∧ at' <= minutes 31)).length : Int) <=
      (minutes 31 - minutes 0) / (minutes 30 + 1) + 1 ∧
    recycledAt sampleText mixedRun {} = [minutes 0, minutes 31] := by
  refine ⟨?_, by decide +kernel⟩
  apply recycle_rate sampleText mixedRun {} (minutes 30) (minutes 0) (minutes 31)
    (mixedRun_leftAlone _) (by unfold ClockForward; decide +kernel)
  · intro t hmem
    simp only [mixedRun, List.mem_cons, Prod.mk.injEq, List.not_mem_nil, or_false, true_and,
      reduceCtorEq, false_and, false_or] at hmem
    rcases hmem with rfl | rfl | rfl
    all_goals decide
  · decide
  · decide

section Recycles

variable {text : TextOps} {start : Instant}

theorem since_runHandlers : forall (ticks : List (Handler × Tick)) (w : World),
    LeftAlone Status.lastRecycleAt ticks -> (forall p, p ∈ ticks -> start <= p.2.env.now) ->
    RecycledSince start w.status.lastRecycleAt ->
    RecycledSince start (runHandlers text ticks w).status.lastRecycleAt := by
  intro ticks
  induction ticks with
  | nil =>
      intro w _ _ h
      exact h
  | cons p later ih =>
      rcases p with ⟨h, t⟩
      intro w hleft hlate hsince
      apply ih _ hleft.tail fun p hp => hlate p (List.mem_cons_of_mem _ hp)
      by_cases hown : h = .workerRecycler
      · rw [hown]
        exact (runRecyclerTick_move hleft.head w).since hsince
          (hlate _ List.mem_cons_self)
      · rw [Handler.view_run (spares_lastRecycleAt hown) hleft.head w]
        exact hsince

/-- The ticks of the run attempt no restart of the workers. -/
def NoRecycle (text : TextOps) : List (Handler × Tick) -> World -> Prop
  | [], _ => True
  | (h, t) :: later, w =>
      (h = .workerRecycler -> (recycleSummaryOf t w).attempted = false) ∧
        NoRecycle text later (h.run text t w)

theorem anchor_runHandlers : forall (ticks : List (Handler × Tick)) (w : World),
    LeftAlone Status.lastRecycleAt ticks -> NoRecycle text ticks w ->
    (runHandlers text ticks w).status.lastRecycleAt = w.status.lastRecycleAt := by
  intro ticks
  induction ticks with
  | nil =>
      intro w _ _
      rfl
  | cons p later ih =>
      rcases p with ⟨h, t⟩
      intro w hleft hidle
      rw [runHandlers, ih _ hleft.tail hidle.2]
      by_cases hown : h = .workerRecycler
      · rw [hown]
        exact (runRecyclerTick_move hleft.head w).anchor_of_idle (hidle.1 hown)
      · exact Handler.view_run (spares_lastRecycleAt hown) hleft.head w

end Recycles

/-- A recycler tick that polls the server, and so any that restarts the
workers or announces it, comes later than its own minimal interval after every
recycle recorded before it, whatever happened in between. -/
theorem recycles_spaced (text : TextOps) (first second : Tick)
    (between : List (Handler × Tick)) (w : World)
    (hleft : LeftAlone Status.lastRecycleAt
      ((.workerRecycler, first) :: (between ++ [(.workerRecycler, second)])))
    (hclock : forall p, p ∈ between -> first.env.now <= p.2.env.now)
    (hfirst : (recycleSummaryOf first w).recorded = true)
    (hsecond : (recycleSummaryOf second
      (runHandlers text ((.workerRecycler, first) :: between) w)).polled = true) :
    minutes second.config.workerPolicy.minRecycleIntervalMinutes <
      second.env.now - first.env.now := by
  have hstart := (runRecyclerTick_move hleft.head w).anchor_of_recorded hfirst
  have hbetween : LeftAlone Status.lastRecycleAt between := fun h t hmem =>
    hleft h t (List.mem_cons_of_mem _ (List.mem_append_left _ hmem))
  have hlast : second.env.Leaves Status.lastRecycleAt :=
    hleft .workerRecycler second
      (List.mem_cons_of_mem _ (List.mem_append_right _ List.mem_cons_self))
  have hkept : RecycledSince first.env.now
      (runHandlers text between (runTick runRecyclerTick first w)).status.lastRecycleAt :=
    since_runHandlers between (runTick runRecyclerTick first w) hbetween hclock
      ⟨first.env.now, hstart, Int.le_refl _⟩
  exact hkept.late ((runRecyclerTick_move hlast _).open_of_polled hsecond)

theorem recycles_spaced_mixedRun : minutes 30 < minutes 31 - minutes 0 :=
  recycles_spaced sampleText (recyclingAt 0) (recyclingAt 31) (mixedRun.tail.dropLast) {}
    (mixedRun_leftAlone _) (by decide +kernel) (by decide +kernel) (by decide +kernel)

/-- After a recorded recycle, and no attempt since, a recycler tick without a
failure recycles exactly when the minimal interval has passed and either work
is completed with none in flight or the long interval has passed too. -/
theorem recycle_schedule (text : TextOps) (first second : Tick)
    (between : List (Handler × Tick)) (w : World)
    (hleft : LeftAlone Status.lastRecycleAt
      ((.workerRecycler, first) :: (between ++ [(.workerRecycler, second)])))
    (hfirst : (recycleSummaryOf first w).recorded = true)
    (hbetween : NoRecycle text between (runTick runRecyclerTick first w))
    (hsecond : (recycleSummaryOf second
      (runHandlers text ((.workerRecycler, first) :: between) w)).failed = false) :
    (recycleSummaryOf second
        (runHandlers text ((.workerRecycler, first) :: between) w)).recorded = true <->
      minutes second.config.workerPolicy.minRecycleIntervalMinutes <
          second.env.now - first.env.now ∧
        ((second.config.workerPolicy.recycleAfterAnalysis = true ∧
            WorkCompleted (recycleSummaryOf second
              (runHandlers text ((.workerRecycler, first) :: between) w)).listed) ∨
          hours second.config.workerPolicy.recycleWorkerIntervalHours <
            second.env.now - first.env.now) := by
  have hquiet : LeftAlone Status.lastRecycleAt between := fun h t hmem =>
    hleft h t (List.mem_cons_of_mem _ (List.mem_append_left _ hmem))
  have hlast : second.env.Leaves Status.lastRecycleAt :=
    hleft .workerRecycler second
      (List.mem_cons_of_mem _ (List.mem_append_right _ List.mem_cons_self))
  have hmove := runRecyclerTick_move hlast
    (runHandlers text ((.workerRecycler, first) :: between) w)
  have hanchor : (runHandlers text ((.workerRecycler, first) :: between) w).status.lastRecycleAt
      = some first.env.now := by
    have hkept := anchor_runHandlers between (runTick runRecyclerTick first w) hquiet hbetween
    refine hkept.trans ?_
    exact (runRecyclerTick_move hleft.head w).anchor_of_recorded hfirst
  rw [hanchor] at hmove
  rw [hmove.recorded_iff hsecond, armedTrigger_isSome_iff]
  apply and_congr_left
  intro _
  constructor
  · intro hopen
    exact hopen _ rfl
  · intro hpassed last hsome
    rw [← Option.some.inj hsome]
    exact hpassed

theorem recycle_schedule_mixedRun :
    (recycleSummaryOf (recyclingAt 31)
      (runHandlers sampleText mixedRun.dropLast {})).recorded = true := by
  have hidle : NoRecycle sampleText mixedRun.tail.dropLast
      (runTick runRecyclerTick (recyclingAt 0) {}) := by
    refine ⟨?_, ?_, ?_, ?_, ?_, ?_, trivial⟩
    -- the fourth tick of the six is the recycler's, behind its gate
    · intro h
      cases h
    · intro h
      cases h
    · intro h
      cases h
    · intro _
      decide +kernel
    · intro h
      cases h
    · intro h
      cases h
  apply (recycle_schedule sampleText (recyclingAt 0) (recyclingAt 31) mixedRun.tail.dropLast {}
    (mixedRun_leftAlone _) (by decide +kernel) hidle (by decide +kernel)).mpr
  have hlisted : (recycleSummaryOf (recyclingAt 31)
      (runHandlers sampleText mixedRun.dropLast {})).listed =
      [{ id := some "a", status := some "completed" }] := by
    decide +kernel
  refine ⟨by decide, Or.inl ⟨rfl, ?_⟩⟩
  show WorkCompleted (recycleSummaryOf (recyclingAt 31)
    (runHandlers sampleText mixedRun.dropLast {})).listed
  rw [hlisted]
  exact (workCompleted_iff _).mp (by decide)

/-!
## Restarts of web_background
-/

theorem StallTick.pass {window : Duration} {now : Instant} {a b : Stall} {sm : StallSummary}
    (h : StallTick window now a sm b) :
    GatePass window now a.lastRestart sm.anchored b.lastRestart := by
  have hopen :
      gateClosed now window a.lastRestart = false -> GateOpen window now a.lastRestart := by
    intro hgate last hlast
    rw [hlast] at hgate
    exact Int.not_le.mp (of_decide_eq_false hgate)
  cases h with
  | unread => exact .shut
  | gated _ => exact .shut
  | fired hgate _ _ hrecorded =>
      cases hrecorded with
      | unannounced => exact .idle _ (hopen hgate)
      | unspent _ _ => exact .idle _ (hopen hgate)
      | unanchored _ _ => exact .idle _ (hopen hgate)
      | first _ => exact .acted (hopen hgate)
      | uncounted _ _ _ => exact .acted (hopen hgate)
      | unwarned _ => exact .acted (hopen hgate)
      | counted _ => exact .acted (hopen hgate)
  | cleaned hgate _ hreset =>
      cases hreset with
      | zeroLost _ _ => exact .idle _ (hopen hgate)
      | anchorLost _ _ => exact .idle _ (hopen hgate)
      | done => exact .idle _ (hopen hgate)
  | escaped hgate => exact .idle _ (hopen hgate)
  | blind hgate => exact .idle _ (hopen hgate)
  | blindUnclosed _ hgate _ => exact .idle _ (hopen hgate)
  | unrestored hgate _ => exact .idle _ (hopen hgate)
  | unpersisted _ hgate _ _ => exact .idle _ (hopen hgate)
  | held hgate => exact .idle _ (hopen hgate)
  | heldUnread hgate => exact .idle _ (hopen hgate)
  | unclosed _ hgate _ => exact .idle _ (hopen hgate)
  | broken hgate => exact .idle _ (hopen hgate)
  | brokenUnread hgate => exact .idle _ (hopen hgate)

theorem enteringStall_lastRestart (t : Tick) (w : World) :
    (enteringStall t w).lastRestart = w.status.lastWebBackgroundRestart := by
  unfold enteringStall
  split
  · rfl
  · rfl

/-- The times of the restarts whose cooldown anchor was written. -/
def stallRestartedAt (text : TextOps) (ticks : List (Handler × Tick)) (w : World) :
    List Instant :=
  actionsOf text .webBackgroundMonitor (fun t w => (stallSummaryOf t w).anchored) ticks w

/-- However the ticks interleave and fail, and whether or not the process
restarts or the breaker is reset, an interval holds at most one anchored
restart of web_background and one more for each stall window it covers. -/
theorem stall_restart_rate (text : TextOps) (ticks : List (Handler × Tick)) (w : World)
    (gap lo hi : Int) (hleft : LeftAlone Status.stallScalars ticks)
    (hclock : ClockForward ticks)
    (hgap : forall t, (Handler.webBackgroundMonitor, t) ∈ ticks ->
      gap <= stallWindowOf t.config)
    (hnonneg : 0 <= gap) (hle : lo <= hi) :
    (((stallRestartedAt text ticks w).filter fun at' =>
        decide (lo <= at' ∧ at' <= hi)).length : Int) <= (hi - lo) / (gap + 1) + 1 := by
  refine actionsOf_rate Status.stallScalars Prod.fst stallWindowOf
    (fun h hother => spares_stallScalars hother) ?_ w hleft hclock hgap hnonneg hle
  intro t w hleaves
  have hpass := (runStallTick_move hleaves w).pass
  rw [enteringStall_lastRestart] at hpass
  exact hpass

theorem stall_restart_rate_mixedRun :
    (((stallRestartedAt sampleText mixedRun {}).filter fun at' =>
        decide (minutes 0 <= at' ∧ at' <= minutes 31)).length : Int) <=
      (minutes 31 - minutes 0) / (minutes 10 + 1) + 1 ∧
    stallRestartedAt sampleText mixedRun {} = [minutes 10, minutes 31] := by
  refine ⟨?_, by decide +kernel⟩
  apply stall_restart_rate sampleText mixedRun {} (minutes 10) (minutes 0) (minutes 31)
    (mixedRun_leftAlone _) (by unfold ClockForward; decide +kernel)
  · intro t hmem
    simp only [mixedRun, List.mem_cons, Prod.mk.injEq, List.not_mem_nil, or_false, true_and,
      reduceCtorEq, false_and, false_or] at hmem
    rcases hmem with rfl | rfl | rfl | rfl
    all_goals decide
  · decide
  · decide

end OpenStudioOperator
