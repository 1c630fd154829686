import OpenStudioOperator.DatapointWatchdogClock

/-!
# The debounce of anchor hygiene

A hygiene pass counts absences only for the ids of `requeues`, `softStops` and
`archivedAnalyses`, as it read them at its start, and its prune then deletes
every key of five maps that is neither in view nor counted.  The counters are
sound: a counted id has been out of view for that many checks.  A key that
the pass did not read has no counter, so nothing debounces its removal.
-/

namespace OpenStudioOperator

open Foundation

/-!
## Absences on the trace
-/

/-- The live view of the id space that the map is keyed by. -/
def StatusField.liveOf (field : StatusField) (liveDatapoints liveAnalyses : List String) :
    List String :=
  match field with
  | softStops => liveAnalyses
  | archivedAnalyses => liveAnalyses
  | stoppedAnalyses => liveAnalyses
  | requeues => liveDatapoints
  | startedSince => liveDatapoints

/-- The newest heavy checks of this process that all miss `k`. -/
def absences (field : StatusField) (k : String) : Trace -> Nat
  | [] => 0
  | e :: older =>
      match e.event with
      | .heavyCheck liveDatapoints liveAnalyses =>
          if k ∈ field.liveOf liveDatapoints liveAnalyses then 0
          else absences field k older + 1
      | .processStart => 0
      | _ => absences field k older

/-- Whatever a prune removes was out of view for the confirmations. -/
def Debounced (e : Entry) (older : Trace) : Prop :=
  forall found removed, e.event = .pruned found removed ->
    forall (field : StatusField) (ids : List String) (k : String),
      (field, ids) ∈ removed -> k ∈ ids ->
      statusAnchorPruneGoneConfirmations <= absences field k older

/-- The ids that the pass read from the maps it counts. -/
def StatusField.trackedIn (field : StatusField) (trace : Trace) : List String :=
  field.liveOf (trackedDatapoints trace) (trackedAnalyses trace)

/-- Every key that a prune finds was read by its pass, or is in view. -/
def Covered (e : Entry) (older : Trace) : Prop :=
  forall found removed, e.event = .pruned found removed ->
    forall (field : StatusField) (k : String), k ∈ field.keysIn found ->
      k ∈ field.trackedIn older ∨
        exists liveDatapoints liveAnalyses,
          latestCheck older = some (liveDatapoints, liveAnalyses) ∧
            k ∈ field.liveOf liveDatapoints liveAnalyses

/-- Entries that leave the count of absences alone. -/
def Event.Uncounted : Event -> Prop
  | .heavyCheck _ _ => False
  | .processStart => False
  | _ => True

section Absences

variable {field : StatusField} {k : String} {e : Entry} {older : Trace}

theorem absences_cons (he : e.event.Uncounted) :
    absences field k (e :: older) = absences field k older := by
  rw [absences]
  split
  · rename_i hevent
    rw [hevent] at he
    exact absurd he not_false
  · rename_i hevent
    rw [hevent] at he
    exact absurd he not_false
  · rfl

theorem absences_heavyCheck {time : Instant} {s : Status}
    {liveDatapoints liveAnalyses : List String} :
    absences field k
        (⟨time, .heavyCheck liveDatapoints liveAnalyses, s⟩ :: older) =
      if k ∈ field.liveOf liveDatapoints liveAnalyses then 0
      else absences field k older + 1 :=
  rfl

end Absences

/-!
## The counters are sound
-/

/-- No counter is ahead of the absences on the trace. -/
def Backed (field : StatusField) (trace : Trace) (counters : Dict String Nat) : Prop :=
  forall k n, counters.get? k = some n -> n <= absences field k trace

section Backed

variable {field : StatusField} {trace older : Trace} {counters : Dict String Nat}

theorem Backed.empty : Backed field trace Dict.empty := by
  intro k n hget
  cases hget

theorem Backed.cons {e : Entry} (h : Backed field trace counters)
    (he : e.event.Uncounted) : Backed field (e :: trace) counters := by
  intro k n hget
  rw [absences_cons he]
  exact h k n hget

theorem Backed.eraseAll (h : Backed field trace counters) (ids : List String) :
    Backed field trace (eraseAll ids counters) := by
  intro k n hget
  rw [get?_eraseAll] at hget
  split_ifs at hget
  exact h k n hget

/-- One more check, counted under its views. -/
theorem Backed.bump (h : Backed field trace counters) {tracked : List String}
    (hnodup : tracked.Nodup) (time : Instant) (s : Status)
    (liveDatapoints liveAnalyses : List String) :
    Backed field (⟨time, .heavyCheck liveDatapoints liveAnalyses, s⟩ :: trace)
      (bumpAbsences counters tracked (field.liveOf liveDatapoints liveAnalyses)) := by
  intro k n hget
  rw [get?_bumpAbsences hnodup] at hget
  split_ifs at hget with hmissed
  rw [Option.some.injEq] at hget
  rw [absences_heavyCheck, if_neg hmissed.2, ← hget]
  apply Nat.succ_le_succ
  cases hold : counters.get? k with
  | none => exact Nat.zero_le _
  | some m => exact h k m hold

theorem three_le_of_confirmed {k : String} (h : k ∈ confirmedIds counters) :
    exists n, counters.get? k = some n ∧ statusAnchorPruneGoneConfirmations <= n := by
  unfold confirmedIds at h
  rcases List.mem_map.mp h with ⟨entry, hentry, hkey⟩
  rw [List.mem_filter] at hentry
  refine ⟨entry.2, ?_, of_decide_eq_true hentry.2⟩
  rw [← hkey]
  exact (Dict.mem_entries_iff_get? _ _ _).mp hentry.1

/-- What a prune under these counters deletes, if it is counted at all, was
absent for the confirmations. -/
theorem Backed.removed (h : Backed field trace counters) {live : List String}
    {k : String} (hcounted : k ∉ live -> k ∈ counters.keys)
    (hdead : k ∉ pruneLive live counters) :
    statusAnchorPruneGoneConfirmations <= absences field k trace := by
  unfold pruneLive at hdead
  rw [mem_setUnion, List.mem_filter, decide_eq_true_iff] at hdead
  have hout : k ∉ live := fun hlive => hdead (Or.inl hlive)
  have hconfirmed : k ∈ confirmedIds counters :=
    not_not.mp fun hnot => hdead (Or.inr ⟨hcounted hout, hnot⟩)
  rcases three_le_of_confirmed hconfirmed with ⟨n, hget, hthree⟩
  exact Nat.le_trans hthree (h k n hget)

end Backed

/-- The counters of the id space that the map is keyed by. -/
def StatusField.countersIn (field : StatusField) (state : AnchorPruneState) :
    Dict String Nat :=
  match field with
  | softStops => state.absentAnalyses
  | archivedAnalyses => state.absentAnalyses
  | stoppedAnalyses => state.absentAnalyses
  | requeues => state.absentDatapoints
  | startedSince => state.absentDatapoints

theorem countersIn_bump (field : StatusField) (state : AnchorPruneState)
    (datapoints analyses liveDatapoints liveAnalyses : List String) :
    field.countersIn (state.bump datapoints analyses liveDatapoints liveAnalyses) =
      bumpAbsences (field.countersIn state) (field.liveOf datapoints analyses)
        (field.liveOf liveDatapoints liveAnalyses) := by
  cases field <;> rfl

theorem nodup_trackedIn (field : StatusField) (trace : Trace) :
    (field.trackedIn trace).Nodup := by
  cases field with
  | requeues => exact nodup_trackedDatapoints trace
  | startedSince => exact nodup_trackedDatapoints trace
  | _ => exact nodup_trackedAnalyses trace

theorem Counted.mem_countersIn {w : World} {liveDatapoints liveAnalyses : List String}
    (h : Counted w liveDatapoints liveAnalyses) (field : StatusField) {k : String}
    (htracked : k ∈ field.trackedIn w.trace)
    (hout : k ∉ field.liveOf liveDatapoints liveAnalyses) :
    k ∈ (field.countersIn w.memory.anchorPrune).keys := by
  cases field with
  | requeues => exact h.datapoints k htracked hout
  | startedSince => exact h.datapoints k htracked hout
  | _ => exact h.analyses k htracked hout

/-- A prune deletes the keys it found outside the live ids of their space. -/
theorem mem_deletionsOf {liveAnalysisIds liveDatapointIds : List String} {s : Status}
    {field : StatusField} {ids : List String} {k : String}
    (h : (field, ids) ∈ deletionsOf (some liveAnalysisIds) (some liveDatapointIds) s)
    (hk : k ∈ ids) :
    k ∈ field.keysIn s ∧ k ∉ field.liveOf liveDatapointIds liveAnalysisIds := by
  unfold deletionsOf at h
  rcases List.mem_filterMap.mp h with ⟨scope, hscope, hdeletion⟩
  have hlive : scope.2 = some (scope.1.liveOf liveDatapointIds liveAnalysisIds) := by
    unfold pruneScopes at hscope
    simp only [List.mem_cons, List.not_mem_nil, or_false] at hscope
    rcases hscope with heq | heq | heq | heq | heq <;> rw [heq] <;> rfl
  unfold scopeDeletions at hdeletion
  rw [hlive] at hdeletion
  simp only at hdeletion
  split_ifs at hdeletion
  rw [Option.some.injEq, Prod.mk.injEq] at hdeletion
  rcases hdeletion with ⟨hfield, hids⟩
  rw [← hids, List.mem_filter, decide_eq_true_iff] at hk
  rw [← hfield]
  exact hk

/-!
## Whole runs
-/

/-- Every prune so far is debounced, and no counter is ahead. -/
structure HygieneKept (w : World) : Prop where
  debounced : Throughout Debounced w.trace
  backed : forall field, Backed field w.trace (field.countersIn w.memory.anchorPrune)

/-- The newest entry is no check, no restart and no prune. -/
def Event.Ordinary : Event -> Prop
  | .heavyCheck _ _ => False
  | .processStart => False
  | .pruned _ _ => False
  | _ => True

theorem Event.Ordinary.uncounted {event : Event} (h : event.Ordinary) :
    event.Uncounted := by
  cases event with
  | heavyCheck liveDatapoints liveAnalyses => exact h
  | processStart => exact h
  | _ => exact trivial

section Runs

variable {t : Tick} {w w' : World} {k : String}

theorem debounced_of_ne {e : Entry} {older : Trace}
    (h : forall found removed, e.event ≠ .pruned found removed) : Debounced e older := by
  intro found removed hevent
  exact absurd hevent (h found removed)

theorem HygieneKept.cons {e : Entry} (h : HygieneKept w)
    (htrace : w'.trace = e :: w.trace)
    (hmemory : w'.memory.anchorPrune = w.memory.anchorPrune)
    (he : e.event.Ordinary) : HygieneKept w' := by
  constructor
  · rw [htrace]
    refine .cons (debounced_of_ne ?_) h.debounced
    intro found removed hevent
    rw [hevent] at he
    exact he
  · intro field
    rw [htrace, hmemory]
    exact (h.backed field).cons he.uncounted

theorem HygieneKept.log (h : HygieneKept w) (time : Instant) (event : Event)
    (hevent : event.Ordinary) : HygieneKept (w.log time event) :=
  h.cons rfl rfl hevent

theorem HygieneKept.commit (h : HygieneKept w) (time : Instant) (op : StoreOp)
    (r : Except Exc Unit) (s : Status) : HygieneKept (w.commit time op r s) :=
  h.cons rfl rfl trivial

/-- Nothing but the counters changes. -/
theorem HygieneKept.recount (h : HygieneKept w) (htrace : w'.trace = w.trace)
    (hbacked : forall field,
      Backed field w.trace (field.countersIn w'.memory.anchorPrune)) :
    HygieneKept w' := by
  constructor
  · rw [htrace]
    exact h.debounced
  · rw [htrace]
    exact hbacked

theorem HygieneKept.requeue {budget : Int} (h : HygieneKept w)
    (hacts : RequeueActs t k budget w w') : HygieneKept w' := by
  have hacted : HygieneKept (w.log t.env.now (actEvent t.config (.requeueDatapoint k))) := by
    rcases actEvent_cases t.config (.requeueDatapoint k) with hevent | hevent
    · rw [hevent]
      exact h.log _ _ trivial
    · rw [hevent]
      exact h.log _ _ trivial
  cases hacts with
  | failed e _ => exact h.log _ _ trivial
  | unannounced message e => exact hacted.log _ _ trivial
  | recorded message r s _ =>
      have hannounced := hacted.log t.env.now
        (.emit .normal datapointRequeuedEvent message (.ok ())) trivial
      exact hannounced.commit _ _ _ _

theorem Event.IsWatchQuery.ordinary {event : Event} (h : event.IsWatchQuery) :
    event.Ordinary := by
  cases event with
  | heavyCheck liveDatapoints liveAnalyses => exact h
  | processStart => exact h
  | pruned found removed => exact h
  | _ => exact trivial

theorem latestRead_cons {op : StoreOp} {e : Entry} {older : Trace}
    (he : e.event ≠ .store op (.ok ())) : latestRead op (e :: older) = latestRead op older := by
  rw [latestRead, if_neg he]

/-- The prune itself reads no snapshot and is no check. -/
theorem trackedIn_prune {liveAnalysisIds liveDatapointIds : Option (List String)}
    {time : Instant} {r : Except Exc Unit} {s : Status} (field : StatusField)
    (older : Trace) :
    field.trackedIn (⟨time, .store (.prune liveAnalysisIds liveDatapointIds) r, s⟩ :: older) =
      field.trackedIn older := by
  have hread : forall op, StoreOp.prune liveAnalysisIds liveDatapointIds ≠ op ->
      latestRead op
        (⟨time, .store (.prune liveAnalysisIds liveDatapointIds) r, s⟩ :: older) =
          latestRead op older := by
    intro op hop
    apply latestRead_cons
    intro hevent
    exact hop (Event.store.inj hevent).1
  unfold StatusField.trackedIn trackedDatapoints trackedAnalyses
  rw [hread .getRequeues StoreOp.noConfusion, hread .getSoftStops StoreOp.noConfusion,
    hread .getArchivedAnalyses StoreOp.noConfusion]

/-- A prune whose keys are covered removes only what was counted. -/
theorem debounced_prune {liveDatapoints liveAnalyses : List String} {time : Instant}
    {r : Except Exc Unit} {s : Status} {liveAnalysisIds liveDatapointIds : List String}
    {attempt : Attempt Status (List (StatusField × List String)) Exc}
    (h : HygieneKept w) (hcounted : Counted w liveDatapoints liveAnalyses)
    (hanalyses : liveAnalysisIds =
      pruneLive liveAnalyses w.memory.anchorPrune.absentAnalyses)
    (hdatapoints : liveDatapointIds =
      pruneLive liveDatapoints w.memory.anchorPrune.absentDatapoints)
    (hsent : attempt.sent =
      deletionsOf (some liveAnalysisIds) (some liveDatapointIds) attempt.readState)
    (hcovered : Covered ⟨time, .pruned attempt.readState attempt.sent, s⟩
      (w.commit time (.prune (some liveAnalysisIds) (some liveDatapointIds)) r s).trace) :
    Debounced ⟨time, .pruned attempt.readState attempt.sent, s⟩
      (w.commit time (.prune (some liveAnalysisIds) (some liveDatapointIds)) r s).trace := by
  intro found removed hevent field ids k hremoved hk
  have hcover := hcovered found removed hevent field k
  cases hevent
  rw [hsent] at hremoved
  rcases mem_deletionsOf hremoved hk with ⟨hfound, hdead⟩
  have hlive : field.liveOf liveDatapointIds liveAnalysisIds =
      pruneLive (field.liveOf liveDatapoints liveAnalyses)
        (field.countersIn w.memory.anchorPrune) := by
    rw [hanalyses, hdatapoints]
    cases field <;> rfl
  rw [hlive] at hdead
  rw [World.commit_trace, absences_cons (show Event.Uncounted (.store _ r) from trivial)]
  refine (h.backed field).removed ?_ hdead
  intro hout
  rw [World.commit_trace, trackedIn_prune] at hcover
  rcases hcover hfound with htracked | ⟨liveDatapoints', liveAnalyses', hcheck, hin⟩
  · exact hcounted.mem_countersIn field htracked hout
  · have hviews : latestCheck w.trace = some (liveDatapoints', liveAnalyses') := hcheck
    rw [hcounted.views, Option.some.injEq, Prod.mk.injEq] at hviews
    rw [hviews.1, hviews.2] at hout
    exact absurd hin hout

/-- Every step keeps the debounce if it is covered. -/
theorem WatchStep.hygieneKept (h : HygieneKept w) (hstep : WatchStep t w w')
    (hcovered : Throughout Covered w'.trace) : HygieneKept w' := by
  cases hstep with
  | restart =>
      constructor
      · exact .cons (debounced_of_ne fun _ _ => Event.noConfusion) h.debounced
      · intro field
        cases field <;> exact Backed.empty
  | remember _ => exact h.recount rfl h.backed
  | protect _ => exact h.recount rfl h.backed
  | query hquery => exact h.log _ _ hquery.ordinary
  | look _ _ => exact h.commit _ _ _ _
  | depart _ => exact h.commit _ _ _ _
  | departed _ => exact h.log _ _ trivial
  | clock _ _ => exact h.commit _ _ _ _
  | requeue _ hacts => exact h.requeue hacts
  | count n =>
      refine h.recount rfl ?_
      intro field
      have hbacked := h.backed field
      cases field <;> exact hbacked
  | forget =>
      refine h.recount rfl ?_
      intro field
      cases field <;> exact Backed.empty
  | age liveDatapoints liveAnalyses =>
      constructor
      · exact .cons (debounced_of_ne fun _ _ => Event.noConfusion) h.debounced
      · intro field
        have hbump := (h.backed field).bump (nodup_trackedIn field w.trace) t.env.now
          w.status liveDatapoints liveAnalyses
        unfold StatusField.trackedIn at hbump
        rw [← countersIn_bump] at hbump
        exact hbump
  | @prune liveDatapoints liveAnalyses r s issued hcounted _ hsent =>
      have hcommitted := h.commit t.env.now
        (.prune (some (pruneLive liveAnalyses w.memory.anchorPrune.absentAnalyses))
          (some (pruneLive liveDatapoints w.memory.anchorPrune.absentDatapoints))) r s
      cases issued with
      | none => exact hcommitted
      | some attempt =>
          constructor
          · refine .cons ?_ hcommitted.debounced
            exact debounced_prune h hcounted rfl rfl (hsent attempt rfl) hcovered.head
          · intro field
            exact (hcommitted.backed field).cons trivial
  | retire datapoints analyses =>
      refine h.recount rfl ?_
      intro field
      have hbacked := h.backed field
      cases field with
      | requeues => exact hbacked.eraseAll datapoints
      | startedSince => exact hbacked.eraseAll datapoints
      | _ => exact hbacked.eraseAll analyses

end Runs

/-- In every run whose prunes find only keys that their pass read or that are
in view, every removal follows on three checks without the id. -/
theorem watchdog_prune_debounced (ticks : List Tick) (status : Status)
    (hcovered : Throughout Covered
      (runTicks runWatchdogTick ticks { status := status }).trace) :
    Throughout Debounced (runTicks runWatchdogTick ticks { status := status }).trace := by
  have hkept : Throughout Covered
        (runTicks runWatchdogTick ticks { status := status }).trace ->
      HygieneKept (runTicks runWatchdogTick ticks { status := status }) := by
    apply runWatchdogTicks_induction (fun _ => True)
      (fun w => Throughout Covered w.trace -> HygieneKept w)
    · exact fun _ _ => trivial
    · intro t w _ _ h hcovered
      have hopened := (h hcovered.tail).log t.env.now (.tickStart t.config) trivial
      exact ⟨hopened.debounced, hopened.backed⟩
    · intro t w0 w w' _ _ h hstep hcovered
      rcases hstep.appends with ⟨block, htrace, _⟩
      have hbefore := hcovered
      rw [htrace] at hbefore
      exact hstep.hygieneKept (h (hbefore.of_append block)) hcovered
    · intro _
      constructor
      · exact .nil
      · intro field
        cases field <;> exact Backed.empty
  exact (hkept hcovered).debounced

/-- `Covered` as a computation over the five maps. -/
def coveredKeys (e : Entry) (older : Trace) : Bool :=
  match e.event, latestCheck older with
  | .pruned found _, some (liveDatapoints, liveAnalyses) =>
      (pruneScopes none none).all fun scope =>
        (scope.1.keysIn found).all fun k =>
          decide (k ∈ scope.1.trackedIn older) ||
            decide (k ∈ scope.1.liveOf liveDatapoints liveAnalyses)
  | .pruned _ _, none => false
  | _, _ => true

theorem mem_pruneScopes (field : StatusField)
    (liveAnalysisIds liveDatapointIds : Option (List String)) :
    exists live, (field, live) ∈ pruneScopes liveAnalysisIds liveDatapointIds := by
  cases field with
  | requeues => exact ⟨liveDatapointIds, by simp [pruneScopes]⟩
  | startedSince => exact ⟨liveDatapointIds, by simp [pruneScopes]⟩
  | _ => exact ⟨liveAnalysisIds, by simp [pruneScopes]⟩

theorem covered_of_keys {e : Entry} {older : Trace} (h : coveredKeys e older = true) :
    Covered e older := by
  intro found removed hevent field k hk
  rw [coveredKeys, hevent] at h
  cases hcheck : latestCheck older with
  | none =>
      rw [hcheck] at h
      cases h
  | some views =>
      rw [hcheck] at h
      rcases mem_pruneScopes field none none with ⟨live, hscope⟩
      have hkeys := List.all_eq_true.mp h _ hscope
      have hcovered := List.all_eq_true.mp hkeys k hk
      rw [Bool.or_eq_true, decide_eq_true_iff, decide_eq_true_iff] at hcovered
      rcases hcovered with htracked | hlive
      · exact Or.inl htracked
      · exact Or.inr ⟨views.1, views.2, rfl, hlive⟩

/-- A tick of an idle cluster that lists these analyses. -/
def analysesAt (ids : List String) (minute : Nat) : Tick where
  env := { Env.quiet (minutes minute) with
    listAnalyses := fun _ => .ok (ids.map fun id => { id := some id }) }
  config := {}

/-- Three checks, the first two of which list the analysis "a". -/
def hygieneTicks (last : List String) : List Tick :=
  (List.range 29).map (analysesAt ["a"]) ++ [analysesAt last 29]

/-- The anchor of an analysis long gone, and a stop record. -/
def anchoredStatus (stopped : List String) : Status where
  softStops := Dict.empty.set "gone" { issuedAt := 0, outcome := .watching }
  stoppedAnalyses := stopped.foldl
    (fun d id => d.set id { issuedAt := 0, outcome := .issued })
    Dict.empty

def hygieneRun (stopped last : List String) : Trace :=
  (runTicks runWatchdogTick (hygieneTicks last)
    { status := anchoredStatus stopped }).trace

/-- The anchor that was read at all three checks goes. -/
theorem watchdog_prune_debounced_gone :
    Throughout Debounced (hygieneRun [] ["a"]) ∧
      ((hygieneRun [] ["a"])[1]?).map Entry.event =
        some (.pruned (anchoredStatus []) [(.softStops, ["gone"])]) := by
  have hpruned : ((hygieneRun [] ["a"])[1]?).map Entry.event =
      some (.pruned (anchoredStatus []) [(.softStops, ["gone"])]) := by decide +kernel
  have hkeys : Throughout (fun e older => coveredKeys e older = true)
      (hygieneRun [] ["a"]) := by decide +kernel
  have hcovered : Throughout Covered (hygieneRun [] ["a"]) :=
    hkeys.mono fun _ _ h => covered_of_keys h
  refine ⟨?_, hpruned⟩
  unfold hygieneRun at hcovered ⊢
  exact watchdog_prune_debounced (hygieneTicks ["a"]) (anchoredStatus []) hcovered

/-- The stop record of an analysis that both earlier checks listed goes at its
first absence: its map is pruned but not counted. -/
theorem watchdog_prunes_first_absence :
    ¬ Throughout Debounced (hygieneRun ["a"] []) := by
  have hpruned : ((hygieneRun ["a"] [])[1]?).map Entry.event =
      some (.pruned (anchoredStatus ["a"])
        [(.softStops, ["gone"]), (.stoppedAnalyses, ["a"])]) := by decide +kernel
  have hfirst : absences .stoppedAnalyses "a" ((hygieneRun ["a"] []).drop 2) = 1 := by
    decide +kernel
  rw [Option.map_eq_some_iff] at hpruned
  rcases hpruned with ⟨e, he, hpruned⟩
  intro hdebounced
  rw [eq_take_cons_drop he] at hdebounced
  have hthree := hdebounced.of_split _ _ _ hpruned .stoppedAnalyses ["a"] "a"
    (by simp) (by simp)
  rw [hfirst] at hthree
  exact absurd hthree (by decide)

end OpenStudioOperator
