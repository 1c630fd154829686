import OpenStudioOperator.DatapointWatchdogSteps

/-!
# Every watchdog tick is a sequence of steps

One lemma for each part of the tick, from the store writes up to the whole
poll.  Between the parts, `Watching` says what the tick knows: whom it saw
started, whom it has not come to yet, and where its clocks come from.
-/

namespace OpenStudioOperator

open Foundation

/-!
## What the tick knows
-/

section Facts

variable {t : Tick} {w w' w'' : World} {id k : String}

theorem Idle.others (h : Idle Event.Tracked w w') (id : String) :
    Idle (Event.Others id) w w' :=
  h.mono fun _ hothers => hothers.1

theorem mem_currentTick_idle {x : Entry} (h : x ∈ currentTick w.trace)
    (hidle : Idle (Event.Others id) w w') : x ∈ currentTick w'.trace := by
  rcases hidle with ⟨block, htrace, hblock⟩
  rw [htrace]
  clear htrace
  induction block with
  | nil => exact h
  | cons e block ih =>
      have hevent : forall config, e.event ≠ .tickStart config := by
        intro config hevent
        apply hblock e List.mem_cons_self
        rw [hevent]
        exact ⟨trivial, not_false, not_false⟩
      rw [List.cons_append, currentTick_cons hevent]
      exact List.mem_cons_of_mem e (ih fun e' he' => hblock e' (List.mem_cons_of_mem e he'))

theorem HasRead.idle {op : StoreOp} {s : Status} (h : HasRead op s w.trace)
    (hidle : Idle (Event.Others id) w w') : HasRead op s w'.trace := by
  rcases h with ⟨read, hread, hevent, hstatus⟩
  exact ⟨read, mem_currentTick_idle hread hidle, hevent, hstatus⟩

/-- A getter that just returned was read in this tick. -/
theorem HasRead.commit {op : StoreOp} (s : Status) (w : World) (time : Instant) :
    HasRead op s (w.commit time op (.ok ()) s).trace := by
  refine ⟨⟨time, .store op (.ok ()), s⟩, ?_, rfl, rfl⟩
  rw [World.commit_trace, currentTick_cons (by simp)]
  exact List.mem_cons_self

theorem SeenStarted.idle (h : SeenStarted k w.trace) (hidle : Idle (Event.Others id) w w') :
    SeenStarted k w'.trace := by
  have hquiet : Quiet (fun event => exists startedIds,
      event = .departuresPruned startedIds ∧ k ∉ startedIds) w := by
    intro e he hmark
    rcases hmark with ⟨startedIds, hevent, hnot⟩
    exact hnot (h e startedIds he hevent)
  have hidle' : Idle (fun event => exists startedIds,
      event = .departuresPruned startedIds ∧ k ∉ startedIds) w w' := by
    apply hidle.mono
    intro event hmark
    rcases hmark with ⟨startedIds, hevent, _⟩
    rw [hevent]
    exact ⟨trivial, not_false, not_false⟩
  intro e startedIds he hevent
  by_contra hnot
  exact hquiet.idle hidle' e he ⟨startedIds, hevent, hnot⟩

/-- What a tick knows after its departure prune.  A clock is of this tick, or
the tick read it and has not written it since. -/
structure Watching (t : Tick) (startedIds : List String) (clocks : Dict String Instant)
    (pending : List String) (w : World) : Prop where
  seen : forall id, id ∈ startedIds -> SeenStarted id w.trace
  untried : forall id, id ∈ pending -> Quiet (Event.Requeues id) w
  known : forall id since, clocks.get? id = some since ->
    since = t.env.now ∨ (Quiet (Event.SetsClock id) w ∧
      exists s, HasRead .getStartedSinceMap s w.trace ∧
        startedSinceField.entry id s = some since)

variable {startedIds pending pending' : List String} {clocks : Dict String Instant}

theorem Watching.neutral (h : Watching t startedIds clocks pending w)
    (hidle : Idle Event.Tracked w w') : Watching t startedIds clocks pending w' where
  seen := by
    intro id hid
    exact (h.seen id hid).idle (hidle.others id)
  untried := by
    intro id hid
    exact (h.untried id hid).idle (hidle.mono fun _ => Event.Requeues.tracked)
  known := by
    intro id since hget
    rcases h.known id since hget with hnow | ⟨hquiet, s, hread, hentry⟩
    · exact Or.inl hnow
    · exact Or.inr ⟨hquiet.idle (hidle.mono fun _ => Event.SetsClock.tracked), s,
        hread.idle (hidle.others id), hentry⟩

/-- The tick came to `id` and started its clock. -/
theorem Watching.touch (h : Watching t startedIds clocks pending w)
    (hidle : Idle (Event.Others id) w w')
    (hpending : forall k, k ∈ pending' -> k ∈ pending ∧
      (k = id -> Idle (Event.Requeues id) w w')) :
    Watching t startedIds (clocks.set id t.env.now) pending' w' where
  seen := fun k hk => (h.seen k hk).idle hidle
  untried := by
    intro k hk
    rcases eq_or_ne k id with heq | hne
    · rw [heq] at hk ⊢
      exact (h.untried id (hpending id hk).1).idle ((hpending id hk).2 rfl)
    · exact (h.untried k (hpending k hk).1).idle
        (hidle.mono fun _ hrequeues => hrequeues.others hne)
  known := by
    intro k since hget
    rcases eq_or_ne k id with heq | hne
    · rw [heq, Dict.get?_set_self] at hget
      exact Or.inl (Option.some.inj hget).symm
    · rw [Dict.get?_set_of_ne _ _ hne] at hget
      rcases h.known k since hget with hnow | ⟨hquiet, s, hread, hentry⟩
      · exact Or.inl hnow
      · exact Or.inr ⟨hquiet.idle (hidle.mono fun _ hsets => hsets.others hne), s,
          hread.idle hidle, hentry⟩

end Facts

/-!
## Parts of a tick
-/

/-- A part of the tick: its steps, and the kind of event it does not have. -/
structure Ran (t : Tick) (p : Event -> Prop) (w w' : World) : Prop where
  steps : WatchSteps t w w'
  idle : Idle p w w'

section Ran

variable {t : Tick} {p : Event -> Prop} {w w' w'' : World}

theorem Ran.refl (t : Tick) (p : Event -> Prop) (w : World) : Ran t p w w :=
  ⟨WatchSteps.refl t w, Idle.refl p w⟩

theorem Ran.step (h : Ran t p w w') (hstep : WatchStep t w' w'')
    (hidle : Idle p w' w'') : Ran t p w w'' :=
  ⟨h.steps.snoc hstep, h.idle.trans hidle⟩

theorem Ran.trans (h : Ran t p w w') (h' : Ran t p w' w'') : Ran t p w w'' :=
  ⟨h.steps.append h'.steps, h.idle.trans h'.idle⟩

theorem Ran.mono {q : Event -> Prop} (h : Ran t p w w')
    (hq : forall event, q event -> p event) : Ran t q w w' :=
  ⟨h.steps, h.idle.mono hq⟩

theorem Ran.query (h : Ran t p w w') {event : Event} (hquery : event.IsWatchQuery)
    (hevent : ¬ p event) : Ran t p w (w'.log t.env.now event) :=
  h.step (.query hquery) ((Idle.refl p w').log _ hevent)

theorem Idle.of_trace (h : w'.trace = w.trace) : Idle p w w' :=
  ⟨[], h, fun _ he => absurd he List.not_mem_nil⟩

end Ran

/-!
## Clocks
-/

section Parts

variable {t : Tick} {w w' : World} {id : String} {startedIds : List String}
variable {clocks : Dict String Instant}

theorem wp_setStartedSince (hseen : SeenStarted id w.trace) :
    Prog.wp (setStartedSince id t.env.now) t.env w
      (fun _ w' => Ran t (fun event => event.Tracked ∧ ¬ event.SetsClock id) w w')
      (fun _ w' => WatchSteps t w w') := by
  unfold setStartedSince
  apply wp_setMapEntry_of (setOutcome_sparingWrite fun _ _ => rfl)
  · intro s hwrite
    exact (Ran.refl t _ w).step (.clock hseen hwrite)
      ((Idle.refl _ w).commit _ _ fun h => h.2 rfl)
  · intro s e hwrite
    exact (WatchSteps.refl t w).snoc (.clock hseen hwrite)
  · intro w' message h
    exact h.query trivial fun h => h.1
  · intro w' message e h
    exact h.steps.snoc (.query trivial)

/-- The clock of one departed datapoint. -/
theorem wp_clearStartedSince :
    Prog.wp (clearStartedSince id) t.env w
      (fun _ w' => Ran t Event.Tracked w w' ∧
        SparingWrite t.env startedSinceField id none (.ok ()) w.status w'.status)
      (fun _ w' => WatchSteps t w w') := by
  unfold clearStartedSince
  apply wp_setMapEntry_of (setOutcome_sparingWrite fun _ _ => rfl)
  · intro s hwrite
    exact ⟨(Ran.refl t _ w).step (.depart hwrite)
      ((Idle.refl _ w).commit _ _ not_false), hwrite⟩
  · intro s e hwrite
    exact (WatchSteps.refl t w).snoc (.depart hwrite)
  · intro w' message h
    exact ⟨h.1.query trivial not_false, h.2⟩
  · intro w' message e h
    exact h.1.steps.snoc (.query trivial)

/-- The loop of the departure prune: the clocks of the departed it has come to
are gone, and the other clocks are as they were read. -/
structure Departing (t : Tick) (startedIds departed : List String)
    (clocks : Dict String Instant) (w w' : World) (left : Dict String Instant) :
    Prop where
  ran : Ran t Event.Tracked w w'
  gone : forall k, k ∉ startedIds -> k ∉ departed ->
    t.env.MayRemove (startedSinceField.entry k) ->
    startedSinceField.entry k w'.status = none
  left : forall k since, left.get? k = some since -> clocks.get? k = some since

theorem Departing.clear {departed : List String} {left : Dict String Instant}
    {w'' : World} (h : Departing t startedIds (id :: departed) clocks w w' left)
    (hran : Ran t Event.Tracked w' w'')
    (hwrite : SparingWrite t.env startedSinceField id none (.ok ()) w'.status w''.status) :
    Departing t startedIds departed clocks w w'' (left.erase id) where
  ran := h.ran.trans hran
  gone := by
    intro k hk hdeparted hremove
    rcases eq_or_ne k id with heq | hne
    · rw [heq]
      exact hwrite.returned rfl
    · have hgone := h.gone k hk (by simp [hne, hdeparted]) hremove
      have hspared := hwrite.other k hne hremove
      rw [hgone] at hspared
      exact hspared.of_none
  left := by
    intro k since hget
    rcases eq_or_ne k id with heq | hne
    · rw [heq, Dict.get?_erase_self] at hget
      cases hget
    · rw [Dict.get?_erase_of_ne _ hne] at hget
      exact h.left k since hget

/-- The mark of a departure prune that completed. -/
theorem Departing.mark {s : Status} {left : Dict String Instant}
    (h : Departing t startedIds [] s.startedSince w w' left)
    (hquiet : Quiet Event.Tracked w) (hread : HasRead .getStartedSinceMap s w.trace)
    (pending : List String) :
    WatchSteps t w (w'.log t.env.now (.departuresPruned startedIds)) ∧
      Watching t startedIds left pending
        (w'.log t.env.now (.departuresPruned startedIds)) := by
  have hquiet' : Quiet Event.Tracked w' := hquiet.idle h.ran.idle
  have hidle : forall p : Event -> Prop, (forall event, p event -> event.Tracked) ->
      ¬ p (.departuresPruned startedIds) ->
      Quiet p (w'.log t.env.now (.departuresPruned startedIds)) := by
    intro p hp hmark
    exact (hquiet'.mono hp).idle ((Idle.refl p w').log _ hmark)
  constructor
  · exact h.ran.steps.snoc (.departed fun k hk => h.gone k hk List.not_mem_nil)
  · constructor
    · intro k hk e ids he hevent
      rcases mem_currentTick_cons he with hnew | hold
      · rw [hnew] at hevent
        cases hevent
        exact hk
      · exfalso
        apply hquiet' e hold
        rw [hevent]
        exact trivial
    · intro k _
      exact hidle _ (fun _ => Event.Requeues.tracked) not_false
    · intro k since hget
      refine Or.inr ⟨hidle _ (fun _ => Event.SetsClock.tracked) not_false, s, ?_, ?_⟩
      · rcases hread with ⟨read, hmem, hevent, hstatus⟩
        have hmem' := mem_currentTick_idle hmem (h.ran.idle.others k)
        refine ⟨read, ?_, hevent, hstatus⟩
        rw [World.log_trace, currentTick_cons (by simp)]
        exact List.mem_cons_of_mem _ hmem'
      · exact h.left k since hget

theorem wp_pruneDepartures {s : Status} (hquiet : Quiet Event.Tracked w)
    (hread : HasRead .getStartedSinceMap s w.trace) (hstatus : w.status = s)
    (pending : List String) :
    Prog.wp (pruneDepartures startedIds s.startedSince) t.env w
      (fun clocks w' => WatchSteps t w w' ∧ Watching t startedIds clocks pending w')
      (fun _ w' => WatchSteps t w w') := by
  unfold pruneDepartures
  rw [Prog.wp_bind]
  apply wp_iterateSet
  intro departed hperm
  rw [Prog.wp_bind]
  apply Prog.wp_foldlM (fun departed left w' =>
    Departing t startedIds departed s.startedSince w w' left)
  · intro id rest left w' h
    rw [Prog.wp_bind]
    refine Prog.wp_mono wp_clearStartedSince ?_ ?_
    · intro _ w'' hcleared
      rw [Prog.wp_pure]
      exact h.clear hcleared.1 hcleared.2
    · intro _ w'' hsteps
      exact h.ran.steps.append hsteps
  · intro left w' h
    rw [Prog.wp_bind, wp_note, Prog.wp_pure]
    exact h.mark hquiet hread pending
  · -- a clock that is not departed is started, or was not read at all
    refine ⟨Ran.refl t _ w, ?_, fun _ _ hget => hget⟩
    intro k hk hdeparted _
    rw [hstatus]
    apply (s.startedSince.get?_eq_none_iff k).mpr
    intro hkey
    apply hdeparted
    rw [hperm.mem_iff, List.mem_filter]
    exact ⟨hkey, by simpa using hk⟩

/-- First observations. -/
theorem wp_observeStarted {pending : List String} (hid : id ∈ startedIds)
    (h : Watching t startedIds clocks pending w) :
    Prog.wp (observeStarted clocks id) t.env w
      (fun clocks' w' => WatchSteps t w w' ∧ Watching t startedIds clocks' pending w')
      (fun _ w' => WatchSteps t w w') := by
  unfold observeStarted
  rw [Prog.wp_bind, Prog.wp_read]
  apply Prog.wp_ite
  · intro _
    exact ⟨WatchSteps.refl t w, h⟩
  · intro _
    rw [Prog.wp_bind]
    refine Prog.wp_mono (wp_setStartedSince (h.seen id hid)) ?_ (fun _ _ hsteps => hsteps)
    intro _ w' hran
    rw [Prog.wp_pure]
    refine ⟨hran.steps, h.touch (hran.idle.mono ?_) ?_⟩
    · intro event hothers
      exact ⟨hothers.1, hothers.2.2⟩
    · intro k hk
      refine ⟨hk, fun _ => hran.idle.mono ?_⟩
      intro event hrequeues
      refine ⟨hrequeues.tracked, fun hsets => ?_⟩
      rcases hsets.cases with ⟨at', r, hevent⟩
      rw [hevent] at hrequeues
      exact hrequeues

/-!
## Requeues
-/

theorem RequeueActs.others {budget : Int} (h : RequeueActs t id budget w w') :
    Idle (Event.Others id) w w' :=
  h.idle (fun _ h => h.2.1 rfl) (fun h => h.2.1 rfl) (fun _ _ h => h.1)
    (fun _ h => h.1)

theorem wp_requeue {budget : Int} {runtime : Duration} (h : Overdue t w id budget) :
    Prog.wp (requeue t.config id runtime budget) t.env w
      (fun _ w' => Ran t (Event.Others id) w w') (fun _ w' => WatchSteps t w w') := by
  unfold requeue
  rw [Prog.wp_bind, Prog.wp_read]
  apply wp_acts fun _ => setOutcome_sparingWrite fun _ _ => rfl
  · intro w' hacts
    exact (WatchSteps.refl t w).snoc (.requeue h hacts)
  · intro s hwrite
    have hacts : RequeueActs t id budget w _ :=
      .recorded (requeueMessage t.config id runtime budget) (.ok ()) s hwrite
    exact (Ran.refl t _ w).step (.requeue h hacts) (RequeueActs.others hacts)
  · intro w' text hran
    exact hran.query trivial fun h => h.1
  · intro w' text e hran
    exact hran.steps.snoc (.query trivial)

theorem wp_warnExhausted {budget : Int} {runtime : Duration} :
    Prog.wp (warnExhausted t.config id runtime budget) t.env w
      (fun _ w' => Ran t Event.Tracked w w') (fun _ w' => WatchSteps t w w') := by
  unfold warnExhausted
  rw [Prog.wp_bind, wp_processMemory]
  apply Prog.wp_ite
  · intro _
    exact Ran.refl t _ w
  · intro _
    rw [Prog.wp_bind, wp_modifyMemory]
    have hremembered := (Ran.refl t Event.Tracked w).step
      (.remember (w.memory.exhaustedSeen ++ [id])) (Idle.of_trace rfl)
    apply wp_call
    · intro _ _
      exact hremembered.step (.query trivial) ((Idle.refl _ _).log _ not_false)
    · intro e _
      exact hremembered.steps.snoc (.query trivial)

/-- One started datapoint of the requeue loop. -/
theorem wp_checkStarted {s : Status} {progress : WatchdogProgress}
    {pending : List String} (hid : id ∈ startedIds) (hnot : id ∉ pending)
    (hread : HasRead .getRequeues s w.trace)
    (h : Watching t startedIds progress.startedSince (id :: pending) w) :
    Prog.wp (checkStarted t.config s.requeues progress id) t.env w
      (fun progress' w' => WatchSteps t w w' ∧ HasRead .getRequeues s w'.trace ∧
        Watching t startedIds progress'.startedSince pending w')
      (fun _ w' => WatchSteps t w w') := by
  unfold checkStarted
  rw [Prog.wp_bind, Prog.wp_read]
  have hkept : Watching t startedIds progress.startedSince pending w :=
    ⟨h.seen, fun k hk => h.untried k (List.mem_cons_of_mem id hk), h.known⟩
  cases hget : progress.startedSince.get? id with
  | none => exact WatchSteps.refl t w
  | some since =>
      apply Prog.wp_ite
      · intro _
        exact ⟨WatchSteps.refl t w, hread, hkept⟩
      · intro hover
        apply Prog.wp_ite
        · intro _
          rw [Prog.wp_bind]
          refine Prog.wp_mono wp_warnExhausted ?_ (fun _ _ hsteps => hsteps)
          intro _ w' hran
          exact ⟨hran.steps, hread.idle (hran.idle.others id), hkept.neutral hran.idle⟩
        · intro hleft
          have hruntime : maxDatapointRuntimeOf t < t.env.now - since := Int.not_le.mp hover
          have hdue : Overdue t w id (budgetSpent s.requeues id) := by
            rcases h.known id since hget with hnow | ⟨hunclocked, s', hclock, hentry⟩
            · -- a clock of this tick has run for no time
              rw [hnow, Int.sub_self] at hruntime
              unfold maxDatapointRuntimeOf minutes at hruntime
              lia
            · exact ⟨h.seen id hid, h.untried id List.mem_cons_self, hunclocked,
                ⟨s, hread, rfl⟩, Int.not_le.mp hleft, s', since, hclock, hentry, hruntime⟩
          rw [Prog.wp_bind]
          refine Prog.wp_mono (wp_requeue hdue) ?_ (fun _ _ hsteps => hsteps)
          intro _ w' hran
          rw [Prog.wp_bind]
          have hseen := (h.seen id hid).idle hran.idle
          refine Prog.wp_mono (wp_setStartedSince hseen) ?_ ?_
          · intro _ w'' hclocked
            have hran' : Ran t (Event.Others id) w w'' := by
              refine hran.trans (hclocked.mono ?_)
              intro event hothers
              exact ⟨hothers.1, hothers.2.2⟩
            rw [Prog.wp_pure]
            refine ⟨hran'.steps, hread.idle hran'.idle, h.touch hran'.idle ?_⟩
            intro k hk
            refine ⟨List.mem_cons_of_mem id hk, fun heq => ?_⟩
            rw [heq] at hk
            exact absurd hk hnot
          · intro _ w'' hsteps
            exact hran.steps.append hsteps

/-!
## Anchor hygiene
-/

/-- The world after a heavy check has counted the absences. -/
theorem counted_of_age (liveDatapoints liveAnalyses : List String) :
    Counted ((w.log t.env.now (.heavyCheck liveDatapoints liveAnalyses)).setAnchorPrune
        (w.memory.anchorPrune.bump (trackedDatapoints w.trace) (trackedAnalyses w.trace)
          liveDatapoints liveAnalyses))
      liveDatapoints liveAnalyses := by
  constructor
  · rfl
  · intro k hk hlive
    apply (Dict.mem_keys_iff_get? _ k).mpr
    have htracked : k ∈ trackedDatapoints w.trace := hk
    exact ⟨_, (get?_bumpAbsences (nodup_trackedDatapoints w.trace) _).trans
      (if_pos ⟨htracked, hlive⟩)⟩
  · intro k hk hlive
    apply (Dict.mem_keys_iff_get? _ k).mpr
    have htracked : k ∈ trackedAnalyses w.trace := hk
    exact ⟨_, (get?_bumpAbsences (nodup_trackedAnalyses w.trace) _).trans
      (if_pos ⟨htracked, hlive⟩)⟩

theorem wp_pruneConfirmed {liveDatapoints liveAnalyses : List String}
    (h : Counted w liveDatapoints liveAnalyses) :
    Prog.wp (pruneConfirmed liveDatapoints liveAnalyses) t.env w
      (fun _ w' => WatchSteps t w w') (fun _ w' => WatchSteps t w w') := by
  unfold pruneConfirmed anchorPruneState
  simp only [Prog.wp_bind, wp_processMemory, Prog.wp_pure, wp_protectAnchorKeys]
  have hprotected : forall keys, WatchSteps t w { w with protectedKeys := keys } :=
    fun keys => (WatchSteps.refl t w).snoc (.protect keys)
  have hcounted : forall keys,
      Counted { w with protectedKeys := keys } liveDatapoints liveAnalyses :=
    fun _ => ⟨h.views, h.datapoints, h.analyses⟩
  apply Prog.wp_ite
  · intro _
    exact hprotected _
  · intro _
    rw [Prog.wp_bind]
    apply wp_prune
    · intro pruned s issued hspares hsent
      have hpruned := (hprotected _).snoc (.prune (.ok ()) (hcounted _) hspares hsent)
      have hretired := hpruned.snoc (.retire
        (confirmedIds w.memory.anchorPrune.absentDatapoints)
        (confirmedIds w.memory.anchorPrune.absentAnalyses))
      unfold modifyAnchorPrune onlyIf
      rw [Prog.wp_bind, wp_modifyMemory]
      apply Prog.wp_ite
      · intro _
        apply wp_call
        · intro _ _
          exact hretired.snoc (.query trivial)
        · intro e _
          exact hretired.snoc (.query trivial)
      · intro _
        exact hretired
    · intro e s issued hspares hsent
      exact (hprotected _).snoc (.prune (.error e) (hcounted _) hspares hsent)

/-- A getter of the hygiene pass. -/
theorem wp_look {alpha : Type} (op : StoreOp) {f : Status -> OpM alpha}
    {Q : alpha -> World -> Prop} {w0 : World} (hread : op.IsWatchRead)
    (hsteps : WatchSteps t w0 w)
    (hok : forall s, WatchSteps t w0 (w.commit t.env.now op (.ok ()) s) ->
      Prog.wp (f s) t.env (w.commit t.env.now op (.ok ()) s) Q
        (fun _ w' => WatchSteps t w0 w')) :
    Prog.wp (readStatus op >>= f) t.env w Q (fun _ w' => WatchSteps t w0 w') := by
  rw [Prog.wp_bind]
  apply wp_readStatus_sparing
  · intro s hspares
    exact hok s (hsteps.snoc (.look hread hspares))
  · intro s e hspares
    exact hsteps.snoc (.look hread hspares)

theorem wp_runAnchorHygiene :
    Prog.wp (runAnchorHygiene startedIds) t.env w
      (fun _ w' => WatchSteps t w w') (fun _ w' => WatchSteps t w w') := by
  unfold runAnchorHygiene getRequeues getSoftStops getArchivedAnalyses
  simp only [bind_assoc, pure_bind]
  apply wp_look .getRequeues trivial (WatchSteps.refl t w)
  intro requeued hfirst
  apply wp_look .getSoftStops trivial hfirst
  intro stops hsecond
  apply wp_look .getArchivedAnalyses trivial hsecond
  intro archived hsteps
  apply Prog.wp_ite
  · intro _
    exact hsteps.snoc .forget
  · intro _
    rw [Prog.wp_bind]
    apply wp_call
    · intro datapoints _
      have hdatapoints := hsteps.query (.listDatapoints (.ok datapoints)) trivial
      rw [Prog.wp_bind]
      apply wp_call
      · intro analyses _
        have hanalyses := hdatapoints.query (.listAnalyses (.ok analyses)) trivial
        have haged := hanalyses.snoc (.age
          (setUnion startedIds (datapointIds (datapoints.map DatapointDoc.id)))
          (datapointIds (analyses.map AnalysisDoc.id)))
        rw [Prog.wp_bind, wp_note]
        unfold modifyAnchorPrune
        rw [Prog.wp_bind, wp_modifyMemory]
        refine Prog.wp_mono (wp_pruneConfirmed (counted_of_age _ _)) ?_ ?_
        · intro _ w' hpruned
          exact haged.append hpruned
        · intro _ w' hpruned
          exact haged.append hpruned
      · intro e _
        exact hdatapoints.snoc (.query trivial)
    · intro e _
      exact hsteps.snoc (.query trivial)

end Parts

/-!
## The tick
-/

section Tick

variable {t : Tick} {w : World}

theorem nodup_datapointIds (docIds : List (Option String)) :
    (datapointIds docIds).Nodup := by
  unfold datapointIds
  apply List.foldlRecOn (motive := List.Nodup)
  · exact List.nodup_nil
  · intro ids hids docId _
    cases docId with
    | none => exact hids
    | some id =>
        simp only
        split_ifs with hskip
        · exact hids
        · rw [List.nodup_append_comm]
          exact List.nodup_cons.mpr ⟨fun hmem => hskip (Or.inr hmem), hids⟩

theorem wp_lookupCaches (hquiet : Quiet Event.Tracked w) :
    Prog.wp lookupCaches t.env w
      (fun _ w' => WatchSteps t w w' ∧ Quiet Event.Tracked w')
      (fun _ w' => WatchSteps t w w') := by
  unfold lookupCaches onlyIf
  rw [Prog.wp_bind, Prog.wp_read]
  apply Prog.wp_ite
  · intro _
    rw [Prog.wp_bind, wp_note, wp_modifyMemory]
    have hlogged : Quiet Event.Tracked (w.log t.env.now .processStart) :=
      hquiet.idle ((Idle.refl _ w).log _ not_false)
    exact ⟨(WatchSteps.refl t w).snoc .restart, hlogged⟩
  · intro _
    exact ⟨WatchSteps.refl t w, hquiet⟩

theorem wp_countTick {startedIds : List String} :
    Prog.wp (countTick startedIds) t.env w
      (fun _ w' => WatchSteps t w w') (fun _ w' => WatchSteps t w w') := by
  have hcounted : WatchSteps t w _ :=
    (WatchSteps.refl t w).snoc (.count (w.memory.anchorPrune.ticks + 1))
  unfold countTick modifyAnchorPrune anchorPruneState onlyIf
  simp only [Prog.wp_bind, wp_modifyMemory, wp_processMemory, Prog.wp_pure]
  apply Prog.wp_ite
  · intro _
    refine Prog.wp_mono wp_runAnchorHygiene ?_ ?_
    · intro _ w' hsteps
      exact hcounted.append hsteps
    · intro _ w' hsteps
      exact hcounted.append hsteps
  · intro _
    exact hcounted

/-- The loops of the tick, after the departure prune. -/
theorem wp_watchStarted {w0 : World} {startedIds : List String}
    {clocks : Dict String Instant} (hnodup : startedIds.Nodup)
    (hsteps : WatchSteps t w0 w) (h : Watching t startedIds clocks startedIds w) :
    Prog.wp
      (do
        let startedSince <- startedIds.foldlM observeStarted clocks
        let requeues <- getRequeues
        let progress <- startedIds.foldlM (checkStarted t.config requeues)
          { startedSince := startedSince }
        countTick startedIds
        return progress.requeued)
      t.env w (fun _ w' => WatchSteps t w0 w') (fun _ w' => WatchSteps t w0 w') := by
  rw [Prog.wp_bind]
  apply Prog.wp_foldlM (fun rest clocks w' => WatchSteps t w0 w' ∧
    Watching t startedIds clocks startedIds w' ∧ forall id, id ∈ rest -> id ∈ startedIds)
  · intro id rest clocks w' hI
    refine Prog.wp_mono (wp_observeStarted (hI.2.2 id List.mem_cons_self) hI.2.1) ?_ ?_
    · intro clocks' w'' hseen
      exact ⟨hI.1.append hseen.1, hseen.2,
        fun k hk => hI.2.2 k (List.mem_cons_of_mem id hk)⟩
    · intro _ w'' hsteps'
      exact hI.1.append hsteps'
  · intro clocks w' hI
    unfold getRequeues
    simp only [bind_assoc, pure_bind]
    apply wp_look .getRequeues trivial hI.1
    intro s hlooked
    rw [Prog.wp_bind]
    apply Prog.wp_foldlM (fun rest (progress : WatchdogProgress) w'' =>
      WatchSteps t w0 w'' ∧ HasRead .getRequeues s w''.trace ∧
        Watching t startedIds progress.startedSince rest w'' ∧ rest.Nodup ∧
        forall id, id ∈ rest -> id ∈ startedIds)
    · intro id rest progress w'' hI'
      rcases hI' with ⟨hsteps', hread, hwatching, hdistinct, hrest⟩
      rw [List.nodup_cons] at hdistinct
      refine Prog.wp_mono (wp_checkStarted (hrest id List.mem_cons_self) hdistinct.1
        hread hwatching) ?_ ?_
      · intro progress' w3 hchecked
        exact ⟨hsteps'.append hchecked.1, hchecked.2.1, hchecked.2.2, hdistinct.2,
          fun k hk => hrest k (List.mem_cons_of_mem id hk)⟩
      · intro _ w3 hraised
        exact hsteps'.append hraised
    · intro progress w'' hI'
      rw [Prog.wp_bind]
      refine Prog.wp_mono wp_countTick ?_ ?_
      · intro _ w3 hcounted
        exact hI'.1.append hcounted
      · intro _ w3 hcounted
        exact hI'.1.append hcounted
    · refine ⟨hlooked, HasRead.commit s w' _, ?_, hnodup, fun _ hid => hid⟩
      exact hI.2.1.neutral ((Idle.refl _ w').commit _ _ not_false)
  · exact ⟨hsteps, h, fun _ hid => hid⟩

/-- Every tick is a sequence of steps from the world in which it opened. -/
theorem runWatchdogTick_steps (t : Tick) (w : World) :
    WatchSteps t (w.openTick t) (runTick runWatchdogTick t w) := by
  apply Prog.exec_of_wp
  unfold inTick
  rw [Prog.wp_bind, wp_note]
  show Prog.wp (runWatchdogTick t.config) t.env (w.openTick t) _ _
  have hquiet : Quiet Event.Tracked (w.openTick t) :=
    fun e he => absurd he List.not_mem_nil
  unfold runWatchdogTick
  rw [Prog.wp_bind]
  refine Prog.wp_mono (wp_lookupCaches hquiet) ?_ (fun _ _ hsteps => hsteps)
  intro _ w1 hlooked
  rw [Prog.wp_bind]
  apply wp_call
  · intro docs _
    have hlisted := hlooked.1.query (.listStartedDatapoints (.ok docs)) trivial
    unfold getStartedSinceMap
    simp only [bind_assoc, pure_bind]
    apply wp_look .getStartedSinceMap trivial hlisted
    intro s hread
    have hquiet' : Quiet Event.Tracked (((w1.log t.env.now
        (.listStartedDatapoints (.ok docs))).commit t.env.now .getStartedSinceMap
          (.ok ()) s)) :=
      hlooked.2.idle (((Idle.refl _ w1).log _ not_false).commit _ _ not_false)
    rw [Prog.wp_bind]
    refine Prog.wp_mono (wp_pruneDepartures hquiet' (HasRead.commit s _ _) rfl
      (datapointIds (docs.map DatapointDoc.id))) ?_ ?_
    · intro clocks w2 hdeparted
      exact wp_watchStarted (nodup_datapointIds _) (hread.append hdeparted.1) hdeparted.2
    · intro _ w2 hsteps
      exact hread.append hsteps
  · intro e _
    exact hlooked.1.snoc (.query trivial)

end Tick

/-- Whole runs by induction on the steps: a property is kept when a tick opens
and by every step of the tick, given the condition that the tick meets. -/
theorem runWatchdogTicks_induction {initial : Status} {ticks : List Tick}
    (cond : Tick -> Prop) (P : World -> Prop) (hcond : forall t, t ∈ ticks -> cond t)
    (hopen : forall t w, cond t -> latestStatus initial w.trace = w.status -> P w ->
      P (w.openTick t))
    (hstep : forall t w0 w w', cond t -> Within initial t w0 w -> P w ->
      WatchStep t w w' -> P w')
    (hinit : P { status := initial }) :
    P (runTicks runWatchdogTick ticks { status := initial }) := by
  have hrun : latestStatus initial
        (runTicks runWatchdogTick ticks { status := initial }).trace =
          (runTicks runWatchdogTick ticks { status := initial }).status ∧
      P (runTicks runWatchdogTick ticks { status := initial }) := by
    apply runTicks_induction (fun w => latestStatus initial w.trace = w.status ∧ P w)
    · exact ⟨rfl, hinit⟩
    · intro t w ht hw
      have hsteps := runWatchdogTick_steps t w
      have hkept : Within initial t w (runTick runWatchdogTick t w) ∧
          P (runTick runWatchdogTick t w) := by
        generalize runTick runWatchdogTick t w = after at hsteps ⊢
        induction hsteps with
        | refl => exact ⟨Within.openTick w, hopen t w (hcond t ht) hw.1 hw.2⟩
        | tail _ hlast ih =>
            exact ⟨hlast.within ih.1, hstep t w _ _ (hcond t ht) ih.1 ih.2 hlast⟩
      exact ⟨hkept.1.latest, hkept.2⟩
  exact hrun.2

end OpenStudioOperator
