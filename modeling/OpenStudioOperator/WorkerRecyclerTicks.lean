import OpenStudioOperator.StatusStoreLaws
import OpenStudioOperator.WorkerRecycler

/-!
# What one recycler tick can do

The recycler rests on `status.lastRecycleAt` alone.  A tick is a move on it,
together with a summary of the calls it made.  `RecycleTick` lists every move;
the program refines it.
-/

namespace OpenStudioOperator

open Foundation

/-!
## The summary of a tick
-/

/-- What the calls of a recycler tick say about it. -/
structure RecycleSummary where
  polled : Bool := false
  /-- What the poll answered. -/
  listed : List AnalysisDoc := []
  /-- The restart was issued, whatever its answer, or withheld by `spec.dryRun`. -/
  attempted : Bool := false
  /-- The write of `lastRecycleAt` returned. -/
  recorded : Bool := false
  failed : Bool := false
deriving DecidableEq

def RecycleSummary.add (sm : RecycleSummary) (event : Event) : RecycleSummary :=
  match event with
  | .listAnalyses (.ok docs) => { sm with polled := true, listed := docs }
  | .listAnalyses (.error _) => { sm with polled := true, failed := true }
  | .mutate (.rollingRestart _ _) (.ok _) => { sm with attempted := true }
  | .mutate (.rollingRestart _ _) (.error _) => { sm with attempted := true, failed := true }
  | .suppressed (.rollingRestart _ _) => { sm with attempted := true }
  | .emit _ _ _ (.error _) => { sm with failed := true }
  | .store (.setLastRecycleAt (some _)) (.ok _) => { sm with recorded := true }
  | .store _ (.error _) => { sm with failed := true }
  | _ => sm

/-- The summary of the calls, which stand newest first. -/
def summarizeRecycle : Trace -> RecycleSummary
  | [] => {}
  | e :: older => (summarizeRecycle older).add e.event

/-- The summary of the tick that a world ends in. -/
def World.recycleSummary (w : World) : RecycleSummary :=
  summarizeRecycle (currentTick w.trace)

/-!
## Moves
-/

/-- The gate lets a tick through. -/
def RecycleOpen (config : OperatorConfig) (now : Instant) (a : Option Instant) : Prop :=
  forall last, a = some last ->
    minutes config.workerPolicy.minRecycleIntervalMinutes < now - last

/-- Every way in which a tick can go, from the anchor it finds to the one it
leaves. -/
inductive RecycleTick (config : OperatorConfig) (now : Instant) (a : Option Instant) :
    RecycleSummary -> Option Instant -> Prop where
  | unread : RecycleTick config now a { failed := true } a
  | gated : ¬ RecycleOpen config now a -> RecycleTick config now a {} a
  | unpolled : RecycleOpen config now a ->
      RecycleTick config now a { polled := true, failed := true } a
  | unarmed (docs : List AnalysisDoc) : RecycleOpen config now a ->
      armedTrigger docs config now a = none ->
      RecycleTick config now a { polled := true, listed := docs } a
  | unrecorded (docs : List AnalysisDoc) (last : Option Instant) :
      RecycleOpen config now a -> (armedTrigger docs config now a).isSome ->
      last = some now ∨ last = a ->
      RecycleTick config now a
        { polled := true, listed := docs, attempted := true, failed := true } last
  | recycled (docs : List AnalysisDoc) : RecycleOpen config now a ->
      (armedTrigger docs config now a).isSome ->
      RecycleTick config now a
        { polled := true, listed := docs, attempted := true, recorded := true } (some now)

section Moves

variable {config : OperatorConfig} {now start : Instant} {a b : Option Instant}
variable {sm : RecycleSummary}

theorem recycleGateClosed_iff :
    recycleGateClosed config now a = true <-> ¬ RecycleOpen config now a := by
  unfold recycleGateClosed RecycleOpen
  cases a with
  | none =>
      constructor
      · intro h
        cases h
      · intro h
        exact absurd (fun last hlast => by cases hlast) h
  | some last =>
      constructor
      · intro h hopen
        exact absurd (hopen last rfl) (Int.not_lt.mpr (of_decide_eq_true h))
      · intro h
        apply decide_eq_true
        apply Int.not_lt.mp
        intro hlate
        exact h fun last' hlast => by rw [← Option.some.inj hlast]; exact hlate

/-- Nothing is asked and nothing is done behind a closed gate. -/
theorem RecycleTick.open_of_polled (h : RecycleTick config now a sm b)
    (hpolled : sm.polled = true) : RecycleOpen config now a := by
  cases h with
  | unread => cases hpolled
  | gated _ => cases hpolled
  | unpolled hopen => exact hopen
  | unarmed _ hopen _ => exact hopen
  | unrecorded _ _ hopen _ _ => exact hopen
  | recycled _ hopen _ => exact hopen

theorem RecycleTick.polled_of_attempted (h : RecycleTick config now a sm b)
    (hattempted : sm.attempted = true) : sm.polled = true := by
  cases h with
  | unrecorded _ _ _ _ _ => rfl
  | recycled _ _ _ => rfl
  | _ => cases hattempted

theorem RecycleTick.anchor_of_recorded (h : RecycleTick config now a sm b)
    (hrecorded : sm.recorded = true) : b = some now := by
  cases h with
  | recycled _ _ _ => rfl
  | _ => cases hrecorded

theorem RecycleTick.attempted_of_recorded (h : RecycleTick config now a sm b)
    (hrecorded : sm.recorded = true) : sm.attempted = true ∧ sm.failed = false := by
  cases h with
  | recycled _ _ _ => exact ⟨rfl, rfl⟩
  | _ => cases hrecorded

/-- A tick that attempts a restart records it, or something raised. -/
theorem RecycleTick.recorded_of_attempted (h : RecycleTick config now a sm b)
    (hattempted : sm.attempted = true) (hfailed : sm.failed = false) :
    sm.recorded = true := by
  cases h with
  | recycled _ _ _ => rfl
  | unrecorded _ _ _ _ _ => cases hfailed
  | _ => cases hattempted

/-- The anchor is the one found, or the time of the tick. -/
theorem RecycleTick.anchor_cases (h : RecycleTick config now a sm b) :
    b = a ∨ b = some now := by
  cases h with
  | unrecorded _ _ _ _ hlast => exact hlast.symm
  | recycled _ _ _ => exact Or.inr rfl
  | _ => exact Or.inl rfl

/-- The last recycle is at `start` or later. -/
def RecycledSince (start : Instant) (a : Option Instant) : Prop :=
  exists last, a = some last ∧ start <= last

theorem RecycleTick.since (h : RecycleTick config now a sm b) (hsince : RecycledSince start a)
    (hnow : start <= now) : RecycledSince start b := by
  rcases h.anchor_cases with hsame | hnew
  · rw [hsame]
    exact hsince
  · exact ⟨now, hnew, hnow⟩

theorem RecycledSince.late (h : RecycledSince start a) (hopen : RecycleOpen config now a) :
    minutes config.workerPolicy.minRecycleIntervalMinutes < now - start := by
  rcases h with ⟨last, hlast, hle⟩
  have hlate := hopen last hlast
  exact Int.lt_of_lt_of_le hlate (Int.sub_le_sub_left hle now)

/-- A tick without a failure recycles when the gate is open and a trigger is
armed by what the poll answered. -/
theorem RecycleTick.recorded_iff (h : RecycleTick config now a sm b)
    (hfailed : sm.failed = false) :
    sm.recorded = true <->
      RecycleOpen config now a ∧ (armedTrigger sm.listed config now a).isSome := by
  cases h with
  | unread => cases hfailed
  | unpolled _ => cases hfailed
  | unrecorded _ _ _ _ _ => cases hfailed
  | gated hclosed =>
      constructor
      · intro hrecorded
        cases hrecorded
      · intro hfires
        exact absurd hfires.1 hclosed
  | unarmed docs _ hunarmed =>
      constructor
      · intro hrecorded
        cases hrecorded
      · intro hfires
        rw [hunarmed] at hfires
        cases hfires.2
  | recycled docs hopen harmed => exact iff_of_true rfl ⟨hopen, harmed⟩

theorem RecycleTick.anchor_of_idle (h : RecycleTick config now a sm b)
    (hidle : sm.attempted = false) : b = a := by
  cases h with
  | unrecorded _ _ _ _ _ => cases hidle
  | recycled _ _ _ => cases hidle
  | _ => rfl

/-- Work is done and none is in flight. -/
def WorkCompleted (docs : List AnalysisDoc) : Prop :=
  (exists doc, doc ∈ docs ∧ doc.status = some "completed") ∧
    forall doc, doc ∈ docs -> doc.status ≠ some "started"

theorem workCompleted_iff (docs : List AnalysisDoc) :
    (docs.any (fun doc => doc.status = some "completed") &&
      !docs.any (fun doc => blocksRecycle doc.status)) = true <-> WorkCompleted docs := by
  unfold WorkCompleted
  rw [Bool.and_eq_true, Bool.not_eq_true', List.any_eq_true, List.any_eq_false]
  apply and_congr
  · constructor
    · rintro ⟨doc, hmem, hstatus⟩
      exact ⟨doc, hmem, of_decide_eq_true hstatus⟩
    · rintro ⟨doc, hmem, hstatus⟩
      exact ⟨doc, hmem, decide_eq_true hstatus⟩
  · constructor
    · intro h doc hmem hstatus
      exact h doc hmem (decide_eq_true hstatus)
    · intro h doc hmem hblocks
      exact h doc hmem (of_decide_eq_true hblocks)

/-- When a trigger is armed after a recycle at `last`. -/
theorem armedTrigger_isSome_iff (docs : List AnalysisDoc) (last : Instant) :
    (armedTrigger docs config now (some last)).isSome <->
      (config.workerPolicy.recycleAfterAnalysis = true ∧ WorkCompleted docs) ∨
        hours config.workerPolicy.recycleWorkerIntervalHours < now - last := by
  rw [← workCompleted_iff docs, ← Bool.and_eq_true, ← Bool.and_assoc]
  unfold armedTrigger
  split
  · rename_i hcompleted
    exact iff_of_true rfl (Or.inl hcompleted)
  · rename_i hcompleted
    simp only
    split
    · rename_i helapsed
      exact iff_of_true rfl (Or.inr helapsed)
    · rename_i helapsed
      apply iff_of_false
      · exact Bool.false_ne_true
      · rintro (h | h)
        · exact hcompleted h
        · exact helapsed h

end Moves

/-!
## The program refines the moves
-/

/-- What the tick has done so far, and the anchor it left. -/
structure RecycleAt (sm : RecycleSummary) (a : Option Instant) (w : World) : Prop where
  summary : summarizeRecycle (currentTick w.trace) = sm
  anchor : w.status.lastRecycleAt = a

/-- The tick that found the anchor `a` has ended in a move. -/
def RecycleEnds (config : OperatorConfig) (now : Instant) (a : Option Instant) (w : World) :
    Prop :=
  exists sm b, RecycleAt sm b w ∧ RecycleTick config now a sm b

section Refinement

variable {config : OperatorConfig} {env : Env} {w : World} {a b : Option Instant}
variable {sm : RecycleSummary}

theorem RecycleAt.ends (h : RecycleAt sm b w) (hmove : RecycleTick config env.now a sm b) :
    RecycleEnds config env.now a w :=
  ⟨sm, b, h, hmove⟩

theorem RecycleAt.log {sm' : RecycleSummary} (h : RecycleAt sm a w) (time : Instant)
    {event : Event} (hevent : forall config, event ≠ .tickStart config)
    (hadd : sm.add event = sm') : RecycleAt sm' a (w.log time event) := by
  constructor
  · rw [World.log_trace, currentTick_cons hevent, summarizeRecycle, h.summary]
    exact hadd
  · exact h.anchor

theorem RecycleAt.commit (h : RecycleAt sm a w) (time : Instant) (op : StoreOp)
    (r : Except Exc Unit) {s : Status} (hanchor : s.lastRecycleAt = b) :
    RecycleAt (sm.add (.store op r)) b (w.commit time op r s) := by
  constructor
  · rw [World.commit_trace, currentTick_cons (fun _ => Event.noConfusion), summarizeRecycle,
      h.summary]
  · exact hanchor

/-- Announcing and recording a restart that was attempted. -/
theorem wp_recordRecycle {docs : List AnalysisDoc} {message : String}
    (hleaves : env.Leaves Status.lastRecycleAt)
    (h : RecycleAt { polled := true, listed := docs, attempted := true } a w)
    (hopen : RecycleOpen config env.now a)
    (harmed : (armedTrigger docs config env.now a).isSome) :
    Prog.wp
      (do
        emit .normal workerRecycledEvent message
        setLastRecycleAt (some env.now)) env w
      (fun _ w' => RecycleEnds config env.now a w')
      (fun _ w' => RecycleEnds config env.now a w') := by
  rw [Prog.wp_bind]
  apply wp_call
  · intro _ _
    have hemitted : RecycleAt { polled := true, listed := docs, attempted := true } a
        (w.log env.now (.emit .normal workerRecycledEvent message (.ok ()))) :=
      h.log env.now (fun _ => Event.noConfusion) rfl
    apply wp_setScalar
    · intro s hwrite
      exact (hemitted.commit env.now _ _ (hwrite.returned rfl)).ends (.recycled docs hopen harmed)
    · intro e s hwrite
      refine (hemitted.commit env.now _ _ rfl).ends (.unrecorded docs _ hopen harmed ?_)
      rcases hwrite.self hleaves with hnew | hold
      · exact Or.inl hnew
      · exact Or.inr (hold.trans h.anchor)
  · intro e _
    exact (h.log env.now (fun _ => Event.noConfusion) rfl).ends
      (.unrecorded docs a hopen harmed (Or.inr rfl))

theorem wp_recycleWorkers {docs : List AnalysisDoc} {trigger : RecycleTrigger}
    (hleaves : env.Leaves Status.lastRecycleAt)
    (h : RecycleAt { polled := true, listed := docs } a w)
    (hopen : RecycleOpen config env.now a)
    (harmed : (armedTrigger docs config env.now a).isSome) :
    Prog.wp (recycleWorkers config trigger) env w
      (fun _ w' => RecycleEnds config env.now a w')
      (fun _ w' => RecycleEnds config env.now a w') := by
  unfold recycleWorkers
  rw [Prog.wp_bind, Prog.wp_read, Prog.wp_bind]
  apply Prog.wp_ite
  · intro _
    rw [wp_note]
    exact wp_recordRecycle hleaves (h.log env.now (fun _ => Event.noConfusion) rfl) hopen harmed
  · intro _
    apply wp_call
    · intro _ _
      exact wp_recordRecycle hleaves (h.log env.now (fun _ => Event.noConfusion) rfl) hopen
        harmed
    · intro e _
      exact (h.log env.now (fun _ => Event.noConfusion) rfl).ends
        (.unrecorded docs a hopen harmed (Or.inr rfl))

theorem wp_runRecyclerTick (hleaves : env.Leaves Status.lastRecycleAt)
    (h : RecycleAt {} a w) :
    Prog.wp (runRecyclerTick config) env w
      (fun _ w' => RecycleEnds config env.now a w')
      (fun _ w' => RecycleEnds config env.now a w') := by
  unfold runRecyclerTick getLastRecycleAt
  rw [Prog.wp_bind, Prog.wp_read, Prog.wp_bind, Prog.wp_bind]
  apply wp_readStatus
  · intro s hkeeps
    have hanchor : s.lastRecycleAt = a := (hkeeps _ _ hleaves).trans h.anchor
    have hread := h.commit env.now .getLastRecycleAt (.ok ()) hanchor
    rw [Prog.wp_pure, hanchor]
    apply Prog.wp_ite
    · intro hclosed
      exact hread.ends (.gated (recycleGateClosed_iff.mp hclosed))
    · intro hpassed
      have hopen : RecycleOpen config env.now a := by
        by_contra hclosed
        exact hpassed (recycleGateClosed_iff.mpr hclosed)
      rw [Prog.wp_bind]
      apply wp_call
      · intro docs _
        have hlisted := @RecycleAt.log _ _ _ { polled := true, listed := docs } hread env.now
          (.listAnalyses (.ok docs)) (fun _ => Event.noConfusion) rfl
        cases htrigger : armedTrigger docs config env.now a with
        | none => exact hlisted.ends (.unarmed docs hopen htrigger)
        | some trigger =>
            show Prog.wp (recycleWorkers config trigger >>= _) env _ _ _
            rw [Prog.wp_bind]
            refine Prog.wp_mono (wp_recycleWorkers hleaves hlisted hopen ?_) ?_ ?_
            · rw [htrigger]
              rfl
            · intro _ w' hends
              exact hends
            · intro _ w' hends
              exact hends
      · intro e _
        exact (hread.log env.now (fun _ => Event.noConfusion) rfl).ends (.unpolled hopen)
  · intro s e hkeeps
    exact (h.commit env.now .getLastRecycleAt (.error e)
      ((hkeeps _ _ hleaves).trans h.anchor)).ends .unread

end Refinement

/-- The summary of the recycler tick that runs in `w`. -/
def recycleSummaryOf (t : Tick) (w : World) : RecycleSummary :=
  (runTick runRecyclerTick t w).recycleSummary

/-- Every tick is a move, if `lastRecycleAt` has no other writer. -/
theorem runRecyclerTick_move {t : Tick} (hleaves : t.env.Leaves Status.lastRecycleAt)
    (w : World) :
    RecycleTick t.config t.env.now w.status.lastRecycleAt (recycleSummaryOf t w)
      (runTick runRecyclerTick t w).status.lastRecycleAt := by
  have hends : RecycleEnds t.config t.env.now w.status.lastRecycleAt
      (runTick runRecyclerTick t w) := by
    apply Prog.exec_of_wp
    unfold inTick
    rw [Prog.wp_bind, wp_note]
    apply wp_runRecyclerTick hleaves
    exact ⟨rfl, rfl⟩
  rcases hends with ⟨sm, b, hat, hmove⟩
  unfold recycleSummaryOf World.recycleSummary
  rw [hat.summary, hat.anchor]
  exact hmove

end OpenStudioOperator
