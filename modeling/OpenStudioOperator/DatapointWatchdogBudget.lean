import OpenStudioOperator.DatapointWatchdogRefinement

/-!
# The requeue budget bounds the requeues

The count in `status.requeues` is all the watchdog knows of earlier requeues.
While the entry is not removed, every requeue beyond the budget is paid for by
a tick in which the requeue was answered and its record was lost.
-/

namespace OpenStudioOperator

open Foundation

/-!
## Counting requeues
-/

/-- A requeue of `id` that the server answered, or that `spec.dryRun` withheld. -/
def Event.Requeued (id : String) (event : Event) : Prop :=
  event = .mutate (.requeueDatapoint id) (.ok ()) ∨
    event = .suppressed (.requeueDatapoint id)

instance decidableRequeued (id : String) (event : Event) :
    Decidable (event.Requeued id) :=
  inferInstanceAs (Decidable (_ ∨ _))

/-- The watchdog writes the budget of `id`. -/
def Event.SetsBudget (id : String) : Event -> Prop
  | .store (.setRequeue datapointId _) _ => datapointId = id
  | _ => False

def requeuesIn (id : String) (stretch : Trace) : Nat :=
  stretch.countP fun e => e.event.Requeued id

/-- The failed emit or `set_requeue` write after a requeue of `id`. -/
def lostRequeue (id : String) (e : Entry) (older : Trace) : Bool :=
  match e.event, older with
  | .emit _ _ _ (.error _), act :: _ => act.event.Requeued id
  | .store (.setRequeue datapointId _) (.error _), _ :: act :: _ =>
      datapointId = id ∧ act.event.Requeued id
  | _, _ => false

/-- The tick did not get to record a requeue of `id`. -/
def losesRequeue (id : String) : Trace -> Bool
  | [] => false
  | e :: older => lostRequeue id e older || losesRequeue id older

def lostRequeues (id : String) (stretch : Trace) : Nat :=
  (ticksOf stretch).countP (losesRequeue id)

/-- The entry of `id` was there before this call and is gone after it. -/
def RemovesBudget (initial : Status) (id : String) (e : Entry) (older : Trace) : Prop :=
  requeuesField.entry id (latestStatus initial older) ≠ none ∧
    requeuesField.entry id e.status = none

/-- No call of the stretch, which follows on `older`, removes the entry. -/
def KeepsBudget (initial : Status) (id : String) (older stretch : Trace) : Prop :=
  Throughout (fun e rest => ¬ RemovesBudget initial id e (rest ++ older)) stretch

/-- The stored count, zero without an entry. -/
def storedCount (initial : Status) (id : String) (trace : Trace) : Int :=
  budgetSpent (latestStatus initial trace).requeues id

/-!
## The law of one budget
-/

def Event.announces : Event -> Bool
  | .emit _ _ _ (.ok _) => true
  | _ => false

/-- The newest entries are a requeue of `id` that waits for its record. -/
def openRequeue (id : String) : Trace -> Bool
  | [] => false
  | [e] => e.event.Requeued id
  | e :: act :: _ => e.event.Requeued id || (e.event.announces && act.event.Requeued id)

/-- What every entry of a run says about the budget of `id`. -/
structure BudgetLaw (initial : Status) (id : String) (maxRequeues : Nat) (e : Entry)
    (older : Trace) : Prop where
  move : Spared (requeuesField.entry id (latestStatus initial older))
      (requeuesField.entry id e.status) ∨
    exists record r, e.event = .store (.setRequeue id record) r ∧
      requeuesField.entry id e.status = some record
  returned : forall record, e.event = .store (.setRequeue id record) (.ok ()) ->
    requeuesField.entry id e.status = some record
  requeue : e.event.Requeues id ->
    (forall x, x ∈ currentTick older -> ¬ x.event.Requeues id) ∧
      exists s, HasRead .getRequeues s older ∧ budgetSpent s.requeues id < maxRequeues
  record : forall record r, e.event = .store (.setRequeue id record) r ->
    exists announced act rest s, older = announced :: act :: rest ∧
      announced.event.announces = true ∧ act.event.Requeued id ∧
      HasRead .getRequeues s rest ∧ record.count = budgetSpent s.requeues id + 1
  answered : forall act rest, older = act :: rest -> act.event.Requeued id ->
    exists type reason message r, e.event = .emit type reason message r
  announced : forall announced act rest, older = announced :: act :: rest ->
    announced.event.announces = true -> act.event.Requeued id ->
    exists record r, e.event = .store (.setRequeue id record) r

section Law

variable {initial : Status} {id k : String} {maxRequeues : Nat}
variable {t : Tick} {w w' w0 : World}

theorem Event.Requeued.requeues {event : Event} (h : event.Requeued id) :
    event.Requeues id := by
  rcases h with hevent | hevent
  · rw [hevent]
    rfl
  · rw [hevent]
    rfl

theorem Event.Requeued.announces {event : Event} (h : event.Requeued id) :
    event.announces = false := by
  rcases h with hevent | hevent
  · rw [hevent]
    rfl
  · rw [hevent]
    rfl

theorem Event.SetsBudget.cases {event : Event} (h : event.SetsBudget id) :
    exists record r, event = .store (.setRequeue id record) r := by
  cases event with
  | store op r =>
      cases op with
      | setRequeue datapointId record =>
          exact ⟨record, r, by rw [show datapointId = id from h]⟩
      | _ => exact absurd h not_false
  | _ => exact absurd h not_false

/-- The law holds so far, and no requeue waits for its record. -/
structure BudgetKept (initial : Status) (id : String) (maxRequeues : Nat) (w : World) :
    Prop where
  law : Throughout (BudgetLaw initial id maxRequeues) w.trace
  settled : openRequeue id w.trace = false

theorem not_requeued_of_settled {act : Entry} {rest : Trace}
    (h : openRequeue id (act :: rest) = false) : ¬ act.event.Requeued id := by
  intro hrequeued
  cases rest with
  | nil =>
      unfold openRequeue at h
      exact of_decide_eq_false h hrequeued
  | cons act' rest =>
      rw [openRequeue, decide_eq_true hrequeued] at h
      cases h

theorem not_announced_of_settled {announced act : Entry} {rest : Trace}
    (h : openRequeue id (announced :: act :: rest) = false)
    (hannounces : announced.event.announces = true) : ¬ act.event.Requeued id := by
  intro hrequeued
  rw [openRequeue, hannounces, decide_eq_true hrequeued, Bool.and_true, Bool.or_true] at h
  cases h

theorem settled_cons {e : Entry} {older : Trace} (h : openRequeue id older = false)
    (he : ¬ e.event.Requeued id) : openRequeue id (e :: older) = false := by
  cases older with
  | nil =>
      unfold openRequeue
      exact decide_eq_false he
  | cons act rest =>
      rw [openRequeue, decide_eq_false he, decide_eq_false (not_requeued_of_settled h), Bool.and_false]
      rfl

/-- The newest entry is no requeue that waits for its Event. -/
theorem BudgetKept.not_requeued {act : Entry} {rest : Trace}
    (h : BudgetKept initial id maxRequeues w) (htrace : w.trace = act :: rest) :
    ¬ act.event.Requeued id := by
  have hsettled := h.settled
  rw [htrace] at hsettled
  exact not_requeued_of_settled hsettled

/-- The newest entry is no Event of a requeue that waits for its record. -/
theorem BudgetKept.not_announced {announced act : Entry} {rest : Trace}
    (h : BudgetKept initial id maxRequeues w) (htrace : w.trace = announced :: act :: rest)
    (hannounces : announced.event.announces = true) : ¬ act.event.Requeued id := by
  have hsettled := h.settled
  rw [htrace] at hsettled
  exact not_announced_of_settled hsettled hannounces

/-- A call that neither requeues `id` nor writes its budget. -/
theorem BudgetKept.cons {e : Entry} (h : BudgetKept initial id maxRequeues w)
    (htrace : w'.trace = e :: w.trace) (hrequeue : ¬ e.event.Requeues id)
    (hbudget : ¬ e.event.SetsBudget id)
    (hspared : Spared (requeuesField.entry id (latestStatus initial w.trace))
      (requeuesField.entry id e.status)) :
    BudgetKept initial id maxRequeues w' := by
  have hset : forall record r, e.event ≠ .store (.setRequeue id record) r := by
    intro record r hevent
    rw [hevent] at hbudget
    exact hbudget rfl
  constructor
  · rw [htrace]
    refine .cons ?_ h.law
    constructor
    · exact Or.inl hspared
    · intro record hevent
      exact absurd hevent (hset _ _)
    · intro hrequeues
      exact absurd hrequeues hrequeue
    · intro record r hevent
      exact absurd hevent (hset _ _)
    · intro act rest holder hrequeued
      exact absurd hrequeued (h.not_requeued holder)
    · intro announced act rest holder hannounces hrequeued
      exact absurd hrequeued (h.not_announced holder hannounces)
  · rw [htrace]
    exact settled_cons h.settled fun hrequeued => hrequeue hrequeued.requeues

theorem BudgetKept.log (h : BudgetKept initial id maxRequeues w)
    (hlatest : latestStatus initial w.trace = w.status) (time : Instant) (event : Event)
    (hrequeue : ¬ event.Requeues id) (hbudget : ¬ event.SetsBudget id) :
    BudgetKept initial id maxRequeues (w.log time event) := by
  apply h.cons rfl hrequeue hbudget
  rw [hlatest]
  exact Spared.refl _

theorem BudgetKept.commit (h : BudgetKept initial id maxRequeues w)
    (hlatest : latestStatus initial w.trace = w.status) (time : Instant) (op : StoreOp)
    (r : Except Exc Unit) {s : Status} (hbudget : ¬ (Event.store op r).SetsBudget id)
    (hspared : Spared (requeuesField.entry id w.status) (requeuesField.entry id s)) :
    BudgetKept initial id maxRequeues (w.commit time op r s) := by
  refine h.cons rfl (fun hrequeues => hrequeues) hbudget ?_
  rw [hlatest]
  exact hspared

/-- The entry of a requeue that was decided. -/
theorem budgetLaw_act {budget : Int} {event : Event}
    (h : BudgetKept initial id maxRequeues w)
    (hlatest : latestStatus initial w.trace = w.status)
    (hmax : t.config.datapointPolicy.maxAutoRequeues = maxRequeues)
    (hdue : Overdue t w id budget) (hevent : event.Requeues id) :
    BudgetLaw initial id maxRequeues ⟨t.env.now, event, w.status⟩ w.trace := by
  have hset : forall record r, event ≠ .store (.setRequeue id record) r := by
    intro record r heq
    rw [heq] at hevent
    exact hevent
  constructor
  · left
    rw [hlatest]
    exact Spared.refl _
  · intro record hrecord
    exact absurd hrecord (hset _ _)
  · intro _
    rcases hdue.budgetRead with ⟨s, hread, hspent⟩
    refine ⟨hdue.untried, s, hread, ?_⟩
    rw [hspent, ← hmax]
    exact hdue.budgetLeft
  · intro record r hrecord
    exact absurd hrecord (hset _ _)
  · intro act rest holder hrequeued
    exact absurd hrequeued (h.not_requeued holder)
  · intro announced act rest holder hannounces hrequeued
    exact absurd hrequeued (h.not_announced holder hannounces)

/-- The entry of the Event that follows a requeue. -/
theorem budgetLaw_emit {act : Event} {type : EventType} {reason message : String}
    {r : Except Exc Unit} (hrequeued : act.Requeued id) :
    BudgetLaw initial id maxRequeues
      ⟨t.env.now, .emit type reason message r, (w.log t.env.now act).status⟩
      (w.log t.env.now act).trace := by
  constructor
  · exact Or.inl (Spared.refl _)
  · intro record hrecord
    cases hrecord
  · intro hrequeues
    exact absurd hrequeues not_false
  · intro record r' hrecord
    cases hrecord
  · intro act' rest _ _
    exact ⟨type, reason, message, r, rfl⟩
  · intro announced act' rest holder hannounces _
    rw [World.log_trace, List.cons.injEq] at holder
    rw [← holder.1, hrequeued.announces] at hannounces
    cases hannounces

/-- The entry of the write that follows the Event. -/
theorem budgetLaw_record {act announced : Event} {budget : Int}
    {r : Except Exc Unit} {s : Status} (hrequeued : act.Requeued id)
    (hannounces : announced.announces = true)
    (hread : exists s, HasRead .getRequeues s w.trace ∧ budgetSpent s.requeues id = budget)
    (hremove : t.env.MayRemove (requeuesField.entry id))
    (hwrite : SparingWrite t.env requeuesField id
      (some (requeuedRecord budget t.env.now)) r w.status s) :
    BudgetLaw initial id maxRequeues
      ⟨t.env.now, .store (.setRequeue id (requeuedRecord budget t.env.now)) r, s⟩
      ((w.log t.env.now act).log t.env.now announced).trace := by
  constructor
  · rcases hwrite.self hremove with hwritten | hspared
    · exact Or.inr ⟨_, r, rfl, hwritten⟩
    · exact Or.inl hspared
  · intro record hrecord
    cases hrecord
    exact hwrite.returned rfl
  · intro hrequeues
    exact absurd hrequeues not_false
  · intro record r' hrecord
    cases hrecord
    rcases hread with ⟨s', hread, hspent⟩
    refine ⟨_, _, w.trace, s', rfl, hannounces, hrequeued, hread, ?_⟩
    rw [hspent]
    rfl
  · intro act' rest holder hrequeued'
    rw [World.log_trace, List.cons.injEq] at holder
    rw [← holder.1] at hrequeued'
    rw [hrequeued'.announces] at hannounces
    cases hannounces
  · intro announced' act' rest _ _ _
    exact ⟨_, r, rfl⟩

theorem requeued_actEvent (config : OperatorConfig) (id : String) :
    (actEvent config (.requeueDatapoint id)).Requeued id :=
  actEvent_cases config (.requeueDatapoint id)

/-- A whole requeue of `id`. -/
theorem BudgetKept.requeue {budget : Int} (h : BudgetKept initial id maxRequeues w)
    (hlatest : latestStatus initial w.trace = w.status)
    (hmax : t.config.datapointPolicy.maxAutoRequeues = maxRequeues)
    (hremove : t.env.MayRemove (requeuesField.entry id))
    (hdue : Overdue t w id budget) (hacts : RequeueActs t id budget w w') :
    BudgetKept initial id maxRequeues w' := by
  have hact := budgetLaw_act h hlatest hmax hdue
    (requeued_actEvent t.config id).requeues
  cases hacts with
  | failed e _ =>
      constructor
      · exact .cons (budgetLaw_act h hlatest hmax hdue rfl) h.law
      · exact settled_cons h.settled (by simp [Event.Requeued])
  | unannounced message e =>
      constructor
      · exact .cons (budgetLaw_emit (requeued_actEvent t.config id)) (.cons hact h.law)
      · rfl
  | recorded message r s hwrite =>
      constructor
      · refine .cons ?_ (.cons (budgetLaw_emit (requeued_actEvent t.config id))
          (.cons hact h.law))
        exact budgetLaw_record (requeued_actEvent t.config id) rfl hdue.budgetRead
          hremove hwrite
      · rfl

/-- A whole requeue of another datapoint. -/
theorem BudgetKept.requeue_other {budget : Int} (h : BudgetKept initial id maxRequeues w)
    (hlatest : latestStatus initial w.trace = w.status) (hne : id ≠ k)
    (hremove : t.env.MayRemove (requeuesField.entry id))
    (hacts : RequeueActs t k budget w w') : BudgetKept initial id maxRequeues w' := by
  have hact : ¬ (actEvent t.config (.requeueDatapoint k)).Requeues id := by
    rcases actEvent_cases t.config (.requeueDatapoint k) with hevent | hevent
    · rw [hevent]
      exact fun heq => hne heq.symm
    · rw [hevent]
      exact fun heq => hne heq.symm
  have hbudget : ¬ (actEvent t.config (.requeueDatapoint k)).SetsBudget id := by
    rcases actEvent_cases t.config (.requeueDatapoint k) with hevent | hevent
    · rw [hevent]
      exact not_false
    · rw [hevent]
      exact not_false
  have hacted := h.log hlatest t.env.now _ hact hbudget
  cases hacts with
  | failed e _ =>
      exact h.log hlatest _ (.mutate _ _) (fun heq => hne heq.symm) not_false
  | unannounced message e => exact hacted.log rfl _ (.emit _ _ _ _) not_false not_false
  | recorded message r s hwrite =>
      have hannounced := hacted.log rfl t.env.now
        (.emit .normal datapointRequeuedEvent message (.ok ())) not_false not_false
      refine hannounced.commit rfl _ _ _ ?_ ?_
      · exact fun heq => hne heq.symm
      · exact hwrite.other id hne hremove

/-- Every step keeps the law. -/
theorem WatchStep.budgetKept (hwithin : Within initial t w0 w)
    (hmax : t.config.datapointPolicy.maxAutoRequeues = maxRequeues)
    (hremove : t.env.MayRemove (requeuesField.entry id))
    (h : BudgetKept initial id maxRequeues w) (hstep : WatchStep t w w') :
    BudgetKept initial id maxRequeues w' := by
  have hspared : forall s, t.env.Spares w.status s ->
      Spared (requeuesField.entry id w.status) (requeuesField.entry id s) :=
    fun s hspares => hspares _ _ hremove (erasable_requeue id)
  cases hstep with
  | restart =>
      have hlogged := h.log hwithin.latest t.env.now .processStart not_false not_false
      exact ⟨hlogged.law, hlogged.settled⟩
  | remember _ => exact ⟨h.law, h.settled⟩
  | protect _ => exact ⟨h.law, h.settled⟩
  | query hquery =>
      refine h.log hwithin.latest _ _ (fun hrequeues => ?_) (fun hsets => ?_)
      · exact hquery.not_tracked hrequeues.tracked
      · rcases hsets.cases with ⟨record, r, hevent⟩
        exact hquery.ne_store _ _ hevent
  | @look op r s hread hspares =>
      refine h.commit hwithin.latest _ op r (fun hsets => ?_) (hspared s hspares)
      rcases hsets.cases with ⟨record, r, hevent⟩
      cases hevent
      exact hread
  | depart hwrite =>
      refine h.commit hwithin.latest _ _ _ not_false ?_
      exact hwrite.frame _ _ hremove fun _ _ => rfl
  | departed _ => exact h.log hwithin.latest _ (.departuresPruned _) not_false not_false
  | clock _ hwrite =>
      refine h.commit hwithin.latest _ _ _ not_false ?_
      exact hwrite.frame _ _ hremove fun _ _ => rfl
  | @requeue _ k budget hdue hacts =>
      rcases eq_or_ne id k with heq | hne
      · subst heq
        exact h.requeue hwithin.latest hmax hremove hdue hacts
      · exact h.requeue_other hwithin.latest hne hremove hacts
  | count _ => exact ⟨h.law, h.settled⟩
  | forget => exact ⟨h.law, h.settled⟩
  | age liveDatapoints liveAnalyses =>
      have hlogged := h.log hwithin.latest t.env.now
        (.heavyCheck liveDatapoints liveAnalyses) not_false not_false
      exact ⟨hlogged.law, hlogged.settled⟩
  | @prune liveDatapoints liveAnalyses r s issued _ hspares _ =>
      have hpruned := h.commit hwithin.latest t.env.now
        (.prune (some (pruneLive liveAnalyses w.memory.anchorPrune.absentAnalyses))
          (some (pruneLive liveDatapoints w.memory.anchorPrune.absentDatapoints)))
        r not_false (hspared s hspares)
      cases issued with
      | none => exact hpruned
      | some attempt => exact hpruned.log rfl _ (.pruned _ _) not_false not_false
  | retire _ _ => exact ⟨h.law, h.settled⟩

end Law

/-- The law of the budget holds throughout every run. -/
theorem runWatchdogTicks_budgetLaw {ticks : List Tick} {initial : Status} {id : String}
    {maxRequeues : Nat}
    (hmax : forall t, t ∈ ticks ->
      t.config.datapointPolicy.maxAutoRequeues = maxRequeues)
    (hremove : forall t, t ∈ ticks -> t.env.MayRemove (requeuesField.entry id)) :
    Throughout (BudgetLaw initial id maxRequeues)
      (runTicks runWatchdogTick ticks { status := initial }).trace := by
  have hkept : BudgetKept initial id maxRequeues
      (runTicks runWatchdogTick ticks { status := initial }) := by
    apply runWatchdogTicks_induction
      (fun t => t.config.datapointPolicy.maxAutoRequeues = maxRequeues ∧
        t.env.MayRemove (requeuesField.entry id))
    · intro t ht
      exact ⟨hmax t ht, hremove t ht⟩
    · intro t w _ hlatest h
      have hopened := h.log hlatest t.env.now (.tickStart t.config) not_false not_false
      exact ⟨hopened.law, hopened.settled⟩
    · intro t w0 w w' hcond hwithin h hstep
      exact hstep.budgetKept hwithin hcond.1 hcond.2 h
    · exact ⟨.nil, rfl⟩
  exact hkept.law

/-!
## The stored count
-/

section Stored

variable {initial : Status} {id : String} {maxRequeues : Nat}
variable {e : Entry} {older : Trace} {s s' : Status}

theorem budgetSpent_of_entry {record : RequeueRecord}
    (h : requeuesField.entry id s = some record) :
    budgetSpent s.requeues id = record.count := by
  unfold budgetSpent
  rw [show s.requeues.get? id = some record from h]

theorem budgetSpent_of_none (h : requeuesField.entry id s = none) :
    budgetSpent s.requeues id = 0 := by
  unfold budgetSpent
  rw [show s.requeues.get? id = none from h]

theorem budgetSpent_congr (h : requeuesField.entry id s = requeuesField.entry id s') :
    budgetSpent s.requeues id = budgetSpent s'.requeues id := by
  unfold budgetSpent
  rw [show s.requeues.get? id = s'.requeues.get? id from h]

/-- An entry that others may only remove stores what it stored, or nothing. -/
theorem budgetSpent_spared
    (h : Spared (requeuesField.entry id s) (requeuesField.entry id s')) :
    budgetSpent s'.requeues id = budgetSpent s.requeues id ∨
      budgetSpent s'.requeues id = 0 := by
  rcases h with hsame | hgone
  · exact Or.inl (budgetSpent_congr hsame)
  · exact Or.inr (budgetSpent_of_none hgone)

theorem mem_of_hasRead {op : StoreOp} {trace : Trace} (h : HasRead op s trace) :
    exists read, read ∈ trace ∧ read.status = s := by
  rcases h with ⟨read, hread, _, hstatus⟩
  exact ⟨read, mem_of_mem_currentTick hread, hstatus⟩

/-- The count never gets negative. -/
theorem counts_nonneg (hinitial : 0 <= budgetSpent initial.requeues id) :
    forall {trace : Trace}, Throughout (BudgetLaw initial id maxRequeues) trace ->
      forall e, e ∈ trace -> 0 <= budgetSpent e.status.requeues id
  | [], _, e, he => absurd he List.not_mem_nil
  | newest :: older, hlaw, e, he => by
      have hbefore := counts_nonneg hinitial hlaw.tail
      rcases List.mem_cons.mp he with hnew | hold
      · rw [hnew]
        have hstored : 0 <= storedCount initial id older := by
          cases older with
          | nil => exact hinitial
          | cons e' rest => exact hbefore e' List.mem_cons_self
        rcases hlaw.head.move with hspared | ⟨record, r, hevent, hentry⟩
        · rcases budgetSpent_spared hspared with hsame | hzero
          · rw [hsame]
            exact hstored
          · exact Int.le_of_eq hzero.symm
        · rw [budgetSpent_of_entry hentry]
          rcases hlaw.head.record record r hevent with
            ⟨announced, act, rest, s, holder, _, _, hread, hcount⟩
          rcases mem_of_hasRead hread with ⟨read, hmem, hstatus⟩
          have hread' := hbefore read (by
            rw [holder]
            exact List.mem_cons_of_mem _ (List.mem_cons_of_mem _ hmem))
          rw [hstatus] at hread'
          rw [hcount]
          omega
      · exact hbefore e hold

theorem storedCount_nonneg (hinitial : 0 <= budgetSpent initial.requeues id)
    {trace : Trace} (hlaw : Throughout (BudgetLaw initial id maxRequeues) trace) :
    0 <= storedCount initial id trace := by
  cases trace with
  | nil => exact hinitial
  | cons e older => exact counts_nonneg hinitial hlaw e List.mem_cons_self

/-- Only a write of the budget raises the count. -/
theorem storedCount_le (hlaw : BudgetLaw initial id maxRequeues e older)
    (hset : ¬ e.event.SetsBudget id) (hnonneg : 0 <= storedCount initial id older) :
    storedCount initial id (e :: older) <= storedCount initial id older := by
  rcases hlaw.move with hspared | ⟨record, r, hevent, _⟩
  · rcases budgetSpent_spared hspared with hsame | hzero
    · exact Int.le_of_eq hsame
    · exact Int.le_trans (Int.le_of_eq hzero) hnonneg
  · rw [hevent] at hset
    exact absurd rfl hset

/-- Where the entry is not removed, only a write of the budget changes it. -/
theorem storedCount_eq
    (hspared : Spared (requeuesField.entry id (latestStatus initial older))
      (requeuesField.entry id e.status))
    (hkept : ¬ RemovesBudget initial id e older) :
    storedCount initial id (e :: older) = storedCount initial id older := by
  rcases hspared with hsame | hgone
  · exact budgetSpent_congr hsame
  · have hbefore : requeuesField.entry id (latestStatus initial older) = none :=
      not_not.mp fun hsome => hkept ⟨hsome, hgone⟩
    exact budgetSpent_congr (hgone.trans hbefore.symm)

/-- A record follows on a requeue of the same tick. -/
theorem mem_currentTick_of_record (hlaw : BudgetLaw initial id maxRequeues e older)
    (hset : e.event.SetsBudget id) :
    exists act, act ∈ currentTick older ∧ act.event.Requeued id := by
  rcases hset.cases with ⟨record, r, hevent⟩
  rcases hlaw.record record r hevent with
    ⟨announced, act, rest, s, holder, hannounces, hrequeued, _, _⟩
  refine ⟨act, ?_, hrequeued⟩
  have hannounced : forall config, announced.event ≠ .tickStart config := by
    intro config heq
    rw [heq] at hannounces
    cases hannounces
  have hact : forall config, act.event ≠ .tickStart config := by
    intro config heq
    have hrequeues := hrequeued.requeues
    rw [heq] at hrequeues
    exact hrequeues
  rw [holder, currentTick_cons hannounced, currentTick_cons hact]
  exact List.mem_cons_of_mem _ List.mem_cons_self

/-- Until its requeue, the tick has read at least what is stored. -/
theorem storedCount_le_read (hinitial : 0 <= budgetSpent initial.requeues id) :
    forall {trace : Trace}, Throughout (BudgetLaw initial id maxRequeues) trace ->
      HasRead .getRequeues s trace ->
      (forall x, x ∈ currentTick trace -> ¬ x.event.Requeues id) ->
      storedCount initial id trace <= budgetSpent s.requeues id
  | [], _, hread, _ => by
      rcases hread with ⟨read, hmem, _⟩
      exact absurd hmem List.not_mem_nil
  | e :: older, hlaw, hread, hquiet => by
      rcases hread with ⟨read, hmem, hevent, hstatus⟩
      have htick := currentTick_cons_of_mem hmem
      rw [htick] at hmem hquiet
      rcases List.mem_cons.mp hmem with hnew | hold
      · rw [← hstatus, hnew]
        exact Int.le_refl _
      · have hquiet' : forall x, x ∈ currentTick older -> ¬ x.event.Requeues id :=
          fun x hx => hquiet x (List.mem_cons_of_mem e hx)
        have hset : ¬ e.event.SetsBudget id := by
          intro hset
          rcases mem_currentTick_of_record hlaw.head hset with ⟨act, hact, hrequeued⟩
          exact hquiet' act hact hrequeued.requeues
        calc storedCount initial id (e :: older)
            <= storedCount initial id older :=
              storedCount_le hlaw.head hset (storedCount_nonneg hinitial hlaw.tail)
          _ <= budgetSpent s.requeues id :=
              storedCount_le_read hinitial hlaw.tail ⟨read, hold, hevent, hstatus⟩ hquiet'

end Stored

/-!
## Every requeue is recorded or lost
-/

section Account

variable {initial : Status} {id : String} {maxRequeues : Nat}
variable {e act announced : Entry} {stretch older : Trace}

theorem losesRequeue_cons {tick : Trace} (h : losesRequeue id tick = true) :
    losesRequeue id (e :: tick) = true := by
  rw [losesRequeue, h]
  exact Bool.or_true _

theorem lostRequeues_le (id : String) (e : Entry) (stretch : Trace) :
    lostRequeues id stretch <= lostRequeues id (e :: stretch) :=
  countP_blocks_le stretch rfl fun _ => losesRequeue_cons

theorem losesRequeue_eq_false {tick : Trace}
    (h : forall x, x ∈ tick -> ¬ x.event.Requeues id) : losesRequeue id tick = false := by
  induction tick with
  | nil => rfl
  | cons e older ih =>
      have hrest : losesRequeue id older = false :=
        ih fun x hx => h x (List.mem_cons_of_mem e hx)
      rw [losesRequeue, hrest, Bool.or_false]
      unfold lostRequeue
      split
      · rename_i act rest _
        exact decide_eq_false fun hact => h act (by simp) hact.requeues
      · rename_i act rest _
        exact decide_eq_false fun hact => h act (by simp) hact.2.requeues
      · rfl

theorem Event.Requeued.opensTick (h : act.event.Requeued id) : act.opensTick = false := by
  apply Entry.opensTick_eq_false
  intro config hevent
  have hrequeues := h.requeues
  rw [hevent] at hrequeues
  exact hrequeues

theorem Event.opensTick_of_announces (h : announced.event.announces = true) :
    announced.opensTick = false := by
  apply Entry.opensTick_eq_false
  intro config hevent
  rw [hevent] at h
  cases h

/-- Up to a first requeue of `id` the tick has lost nothing. -/
theorem losesRequeue_act (hact : act.event.Requeued id)
    (hquiet : forall x, x ∈ currentTick (stretch ++ older) -> ¬ x.event.Requeues id) :
    losesRequeue id (newestBlock Entry.opensTick (act :: stretch)) = false := by
  have hrest : losesRequeue id (newestBlock Entry.opensTick stretch) = false := by
    apply losesRequeue_eq_false
    intro x hx hrequeues
    rcases mem_newestBlock_append hx with hopens | hcurrent
    · unfold Entry.opensTick at hopens
      split at hopens
      · rename_i config hevent
        rw [hevent] at hrequeues
        exact hrequeues
      · cases hopens
    · exact hquiet x hcurrent hrequeues
  rw [newestBlock_cons hact.opensTick, losesRequeue, hrest, Bool.or_false]
  unfold lostRequeue
  rcases hact with hevent | hevent
  · rw [hevent]
  · rw [hevent]

/-- A failed Event after a requeue is a lost tick. -/
theorem lostRequeues_emit {type : EventType} {reason message : String} {error : Exc}
    (hevent : e.event = .emit type reason message (.error error))
    (hact : act.event.Requeued id)
    (hquiet : forall x, x ∈ currentTick (stretch ++ older) -> ¬ x.event.Requeues id) :
    lostRequeues id (e :: act :: stretch) = lostRequeues id (act :: stretch) + 1 := by
  apply countP_blocks_succ _ rfl
  · apply Entry.opensTick_eq_false
    intro config heq
    rw [hevent] at heq
    cases heq
  · exact losesRequeue_act hact hquiet
  · have hlost : lostRequeue id e (act :: newestBlock Entry.opensTick stretch) = true := by
      unfold lostRequeue
      rw [hevent]
      exact decide_eq_true hact
    rw [newestBlock_cons hact.opensTick, losesRequeue, hlost]
    rfl

/-- A failed write after a requeue is a lost tick. -/
theorem lostRequeues_record {record : RequeueRecord} {error : Exc}
    (hevent : e.event = .store (.setRequeue id record) (.error error))
    (hannounces : announced.event.announces = true) (hact : act.event.Requeued id)
    (hquiet : forall x, x ∈ currentTick (stretch ++ older) -> ¬ x.event.Requeues id) :
    lostRequeues id (e :: announced :: act :: stretch) =
      lostRequeues id (announced :: act :: stretch) + 1 := by
  have hopens := Event.opensTick_of_announces hannounces
  apply countP_blocks_succ _ rfl
  · apply Entry.opensTick_eq_false
    intro config heq
    rw [hevent] at heq
    cases heq
  · rw [newestBlock_cons hopens, losesRequeue, losesRequeue_act hact hquiet,
      Bool.or_false]
    unfold lostRequeue
    split
    · rename_i heq _
      rw [heq] at hannounces
      cases hannounces
    · rename_i heq _
      rw [heq] at hannounces
      cases hannounces
    · rfl
  · have hlost : lostRequeue id e
        (announced :: act :: newestBlock Entry.opensTick stretch) = true := by
      unfold lostRequeue
      rw [hevent]
      exact decide_eq_true ⟨rfl, hact⟩
    rw [newestBlock_cons hopens, newestBlock_cons hact.opensTick, losesRequeue, hlost]
    rfl

/-- The requeues of the stretch are stored or lost, but for one that waits for
its record; and they are at most the budget and those that were lost. -/
structure Accounts (initial : Status) (id : String) (maxRequeues : Nat)
    (older stretch : Trace) : Prop where
  spent : (requeuesIn id stretch : Int) <= storedCount initial id (stretch ++ older) +
    lostRequeues id stretch + (openRequeue id stretch).toNat
  bounded : requeuesIn id stretch <= maxRequeues + lostRequeues id stretch

theorem requeuesIn_cons_of_requeued (h : e.event.Requeued id) :
    requeuesIn id (e :: stretch) = requeuesIn id stretch + 1 :=
  List.countP_cons_of_pos (decide_eq_true h)

theorem requeuesIn_cons_of_not (h : ¬ e.event.Requeued id) :
    requeuesIn id (e :: stretch) = requeuesIn id stretch :=
  List.countP_cons_of_neg (by simpa using h)

/-- A call that is not a requeue, but for the part that is open. -/
theorem Accounts.cons (h : Accounts initial id maxRequeues older stretch)
    (hrequeued : ¬ e.event.Requeued id)
    (hspent : (requeuesIn id stretch : Int) <=
      storedCount initial id (e :: stretch ++ older) + lostRequeues id (e :: stretch) +
        (openRequeue id (e :: stretch)).toNat) :
    Accounts initial id maxRequeues older (e :: stretch) := by
  constructor
  · rw [requeuesIn_cons_of_not hrequeued]
    exact hspent
  · rw [requeuesIn_cons_of_not hrequeued]
    exact Nat.le_trans h.bounded (Nat.add_le_add_left (lostRequeues_le id e stretch) _)

theorem openRequeue_cons_of_requeued (h : e.event.Requeued id) :
    openRequeue id (e :: stretch) = true := by
  cases stretch with
  | nil => exact decide_eq_true h
  | cons act rest =>
      rw [openRequeue, decide_eq_true h]
      rfl

/-- What may follow on an open requeue. -/
theorem openRequeue_cases (hlaw : BudgetLaw initial id maxRequeues e (stretch ++ older))
    (hopen : openRequeue id stretch = true) :
    (exists act rest type reason message r, stretch = act :: rest ∧
        act.event.Requeued id ∧ e.event = .emit type reason message r) ∨
      e.event.SetsBudget id := by
  cases stretch with
  | nil => cases hopen
  | cons act rest =>
      by_cases hact : act.event.Requeued id
      · rcases hlaw.answered act (rest ++ older) rfl hact with
          ⟨type, reason, message, r, hevent⟩
        exact Or.inl ⟨act, rest, type, reason, message, r, rfl, hact, hevent⟩
      · cases rest with
        | nil => exact absurd (of_decide_eq_true hopen) hact
        | cons act' rest =>
            rw [openRequeue, decide_eq_false hact, Bool.false_or, Bool.and_eq_true,
              decide_eq_true_iff] at hopen
            rcases hlaw.announced act act' (rest ++ older) rfl hopen.1 hopen.2 with
              ⟨record, r, hevent⟩
            right
            rw [hevent]
            rfl

theorem Accounts.requeue (h : Accounts initial id maxRequeues older stretch)
    (hinitial : 0 <= budgetSpent initial.requeues id)
    (hlaw : Throughout (BudgetLaw initial id maxRequeues) (e :: (stretch ++ older)))
    (hkept : ¬ RemovesBudget initial id e (stretch ++ older))
    (hrequeued : e.event.Requeued id) :
    Accounts initial id maxRequeues older (e :: stretch) := by
  rcases hlaw.head.requeue hrequeued.requeues with ⟨hquiet, s, hread, hleft⟩
  have hstored := storedCount_le_read hinitial hlaw.tail hread hquiet
  have hset : ¬ e.event.SetsBudget id := by
    intro hset
    rcases mem_currentTick_of_record hlaw.head hset with ⟨act, hact, hrequeued'⟩
    exact hquiet act hact hrequeued'.requeues
  have hsettled : openRequeue id stretch = false := by
    rw [Bool.eq_false_iff]
    intro hopen
    rcases openRequeue_cases hlaw.head hopen with ⟨_, _, _, _, _, _, _, _, hevent⟩ | hset'
    · have hrequeues := hrequeued.requeues
      rw [hevent] at hrequeues
      exact hrequeues
    · exact hset hset'
  have hspared : Spared (requeuesField.entry id (latestStatus initial (stretch ++ older)))
      (requeuesField.entry id e.status) := by
    rcases hlaw.head.move with hspared | ⟨record, r, hevent, _⟩
    · exact hspared
    · rw [hevent] at hset
      exact absurd rfl hset
  have hsame := storedCount_eq hspared hkept
  have hlost := lostRequeues_le id e stretch
  have hspent := h.spent
  rw [hsettled, Bool.toNat_false] at hspent
  constructor
  · rw [requeuesIn_cons_of_requeued hrequeued, openRequeue_cons_of_requeued hrequeued,
      List.cons_append, hsame, Bool.toNat_true]
    omega
  · rw [requeuesIn_cons_of_requeued hrequeued]
    omega

/-- The count of a record is one above what was stored. -/
theorem storedCount_lt_record (hinitial : 0 <= budgetSpent initial.requeues id)
    {record : RequeueRecord} {r : Except Exc Unit} {trace : Trace}
    (hlaw : Throughout (BudgetLaw initial id maxRequeues) (e :: trace))
    (hevent : e.event = .store (.setRequeue id record) r) :
    storedCount initial id trace < record.count := by
  rcases hlaw.head.record record r hevent with
    ⟨announced, act, rest, s, htrace, hannounces, hrequeued, hread, hcount⟩
  have hrest := hlaw.tail
  rw [htrace] at hrest ⊢
  have hannounced : storedCount initial id (announced :: act :: rest) <=
      storedCount initial id (act :: rest) := by
    apply storedCount_le hrest.head _ (storedCount_nonneg hinitial hrest.tail)
    intro hset
    rcases hset.cases with ⟨record', r', heq⟩
    rw [heq] at hannounces
    cases hannounces
  have hact : storedCount initial id (act :: rest) <= storedCount initial id rest := by
    apply storedCount_le hrest.tail.head _ (storedCount_nonneg hinitial hrest.tail.tail)
    intro hset
    rcases hset.cases with ⟨record', r', heq⟩
    have hrequeues := hrequeued.requeues
    rw [heq] at hrequeues
    exact hrequeues
  have hquiet := (hrest.tail.head.requeue hrequeued.requeues).1
  have hread' := storedCount_le_read hinitial hrest.tail.tail hread hquiet
  omega

theorem Accounts.record (h : Accounts initial id maxRequeues older stretch)
    (hinitial : 0 <= budgetSpent initial.requeues id)
    (hlaw : Throughout (BudgetLaw initial id maxRequeues) (e :: (stretch ++ older)))
    (hkept : ¬ RemovesBudget initial id e (stretch ++ older)) {record : RequeueRecord}
    {r : Except Exc Unit} (hevent : e.event = .store (.setRequeue id record) r) :
    Accounts initial id maxRequeues older (e :: stretch) := by
  have hrequeued : ¬ e.event.Requeued id := by
    intro hrequeued
    have hrequeues := hrequeued.requeues
    rw [hevent] at hrequeues
    exact hrequeues
  have hspent := h.spent
  have hlost := lostRequeues_le id e stretch
  have hone := Bool.toNat_le (openRequeue id stretch)
  apply h.cons hrequeued
  rw [List.cons_append]
  by_cases hentry : requeuesField.entry id e.status = some record
  · -- the write took effect: the stored count went up
    have hcount : storedCount initial id (e :: (stretch ++ older)) = record.count :=
      budgetSpent_of_entry hentry
    have hbelow := storedCount_lt_record hinitial hlaw hevent
    omega
  · -- the write failed: the tick is lost
    have hspared : Spared
        (requeuesField.entry id (latestStatus initial (stretch ++ older)))
        (requeuesField.entry id e.status) := by
      rcases hlaw.head.move with hspared | ⟨record', r', hevent', hentry'⟩
      · exact hspared
      · rw [hevent] at hevent'
        cases hevent'
        exact absurd hentry' hentry
    have hsame := storedCount_eq hspared hkept
    have hnonneg := storedCount_nonneg hinitial hlaw.tail
    cases r with
    | ok _ => exact absurd (hlaw.head.returned record hevent) hentry
    | error error =>
        rcases hlaw.head.record record _ hevent with
          ⟨announced, act, rest, s, htrace, hannounces, hact, _, _⟩
        cases stretch with
        | nil =>
            have hnone : requeuesIn id [] = 0 := rfl
            omega
        | cons announced' stretch =>
            rw [List.cons_append, List.cons.injEq] at htrace
            have hannounces' : announced'.event.announces = true := by
              rw [htrace.1]
              exact hannounces
            cases stretch with
            | nil =>
                have hnot : ¬ announced'.event.Requeued id := by
                  intro hrequeued'
                  rw [hrequeued'.announces] at hannounces'
                  cases hannounces'
                have hnone : requeuesIn id [announced'] = 0 :=
                  requeuesIn_cons_of_not hnot
                omega
            | cons act' stretch =>
                rw [List.cons_append, List.cons.injEq] at htrace
                have hact' : act'.event.Requeued id := by
                  rw [htrace.2.1]
                  exact hact
                have hquiet := (hlaw.tail.tail.head.requeue hact'.requeues).1
                have hsucc := lostRequeues_record hevent hannounces' hact' hquiet
                omega

theorem Accounts.other (h : Accounts initial id maxRequeues older stretch)
    (hlaw : Throughout (BudgetLaw initial id maxRequeues) (e :: (stretch ++ older)))
    (hkept : ¬ RemovesBudget initial id e (stretch ++ older))
    (hrequeued : ¬ e.event.Requeued id) (hset : ¬ e.event.SetsBudget id) :
    Accounts initial id maxRequeues older (e :: stretch) := by
  have hspared : Spared (requeuesField.entry id (latestStatus initial (stretch ++ older)))
      (requeuesField.entry id e.status) := by
    rcases hlaw.head.move with hspared | ⟨record, r, hevent, _⟩
    · exact hspared
    · rw [hevent] at hset
      exact absurd rfl hset
  have hsame := storedCount_eq hspared hkept
  have hspent := h.spent
  have hlost := lostRequeues_le id e stretch
  apply h.cons hrequeued
  rw [List.cons_append, hsame]
  cases hopen : openRequeue id stretch with
  | false =>
      rw [hopen, Bool.toNat_false] at hspent
      omega
  | true =>
      rw [hopen, Bool.toNat_true] at hspent
      rcases openRequeue_cases hlaw.head hopen with
        ⟨act, rest, type, reason, message, r, hstretch, hact, hevent⟩ | hset'
      · subst hstretch
        cases r with
        | ok _ =>
            have hopen' : openRequeue id (e :: act :: rest) = true := by
              rw [openRequeue, hevent, decide_eq_true hact]
              exact Bool.or_true _
            rw [hopen', Bool.toNat_true]
            omega
        | error error =>
            have hquiet := (hlaw.tail.head.requeue hact.requeues).1
            have hsucc := lostRequeues_emit hevent hact hquiet
            omega
      · exact absurd hset' hset

/-- The account of every stretch that keeps the entry. -/
theorem accounts_of_law (hinitial : 0 <= budgetSpent initial.requeues id) :
    forall {stretch : Trace},
      Throughout (BudgetLaw initial id maxRequeues) (stretch ++ older) ->
      KeepsBudget initial id older stretch ->
      Accounts initial id maxRequeues older stretch
  | [], hlaw, _ => by
      constructor
      · have hnonneg := storedCount_nonneg hinitial hlaw
        show (0 : Int) <= _ + 0 + 0
        rw [Int.add_zero, Int.add_zero]
        exact hnonneg
      · exact Nat.zero_le _
  | e :: stretch, hlaw, hkept => by
      have hbefore := accounts_of_law hinitial hlaw.tail hkept.tail
      by_cases hrequeued : e.event.Requeued id
      · exact hbefore.requeue hinitial hlaw hkept.head hrequeued
      · by_cases hset : e.event.SetsBudget id
        · rcases hset.cases with ⟨record, r, hevent⟩
          exact hbefore.record hinitial hlaw hkept.head hevent
        · exact hbefore.other hlaw hkept.head hrequeued hset

end Account

/-!
## Whole runs
-/

/-- What is promised of a stretch that keeps the entry of `id`. -/
structure BudgetBound (initial : Status) (id : String) (maxRequeues : Nat)
    (older stretch : Trace) : Prop where
  requeues : requeuesIn id stretch <= maxRequeues + lostRequeues id stretch
  /-- A requeue finds that no count of the stretch has reached the maximum. -/
  exhausted : forall newer act later earlier record,
    stretch = newer ++ act :: (later ++ earlier) -> act.event.Requeues id ->
    requeuesField.entry id (latestStatus initial (earlier ++ older)) = some record ->
    record.count < maxRequeues

section Runs

variable {initial : Status} {id : String} {maxRequeues : Nat} {older : Trace}

/-- While the entry is kept its count does not fall. -/
theorem storedCount_mono (hinitial : 0 <= budgetSpent initial.requeues id)
    (earlier : Trace) :
    forall {later : Trace},
      Throughout (BudgetLaw initial id maxRequeues) (later ++ (earlier ++ older)) ->
      Throughout (fun e rest => ¬ RemovesBudget initial id e (rest ++ older))
        (later ++ earlier) ->
      storedCount initial id (earlier ++ older) <=
        storedCount initial id (later ++ (earlier ++ older))
  | [], _, _ => Int.le_refl _
  | e :: later, hlaw, hkept => by
      have hbefore := storedCount_mono hinitial earlier hlaw.tail hkept.tail
      have hhead : ¬ RemovesBudget initial id e (later ++ (earlier ++ older)) := by
        rw [← List.append_assoc]
        exact hkept.head
      apply Int.le_trans hbefore
      rw [List.cons_append] at hlaw ⊢
      rcases hlaw.head.move with hspared | ⟨record, r, hevent, hentry⟩
      · exact Int.le_of_eq (storedCount_eq hspared hhead).symm
      · have hcount : storedCount initial id (e :: (later ++ (earlier ++ older))) =
            record.count := budgetSpent_of_entry hentry
        rw [hcount]
        exact Int.le_of_lt (storedCount_lt_record hinitial hlaw hevent)

theorem budgetBound_of_law (hinitial : 0 <= budgetSpent initial.requeues id)
    {stretch : Trace}
    (hlaw : Throughout (BudgetLaw initial id maxRequeues) (stretch ++ older))
    (hkept : KeepsBudget initial id older stretch) :
    BudgetBound initial id maxRequeues older stretch where
  requeues := (accounts_of_law hinitial hlaw hkept).bounded
  exhausted := by
    intro newer act later earlier record hstretch hact hrecord
    unfold KeepsBudget at hkept
    rw [hstretch] at hlaw hkept
    rw [List.append_assoc, List.cons_append, List.append_assoc] at hlaw
    have hact' := hlaw.of_append newer
    rcases hact'.head.requeue hact with ⟨hquiet, s, hread, hleft⟩
    have hmono := storedCount_mono hinitial earlier hact'.tail
      (hkept.of_append newer).tail
    have hstored := storedCount_le_read hinitial hact'.tail hread hquiet
    have hcount : storedCount initial id (earlier ++ older) = record.count :=
      budgetSpent_of_entry hrecord
    omega

end Runs

/-- In every run, over every stretch in which the entry of a datapoint is not
removed, its requeues are at most the budget and the ticks that lost one; and
none is issued once the budget is stored as spent. -/
theorem watchdog_requeue_bound (ticks : List Tick) (status : Status) (id : String)
    (maxRequeues : Nat)
    (hmax : forall t, t ∈ ticks ->
      t.config.datapointPolicy.maxAutoRequeues = maxRequeues)
    (hremove : forall t, t ∈ ticks -> t.env.MayRemove (requeuesField.entry id))
    (hcounts : forall k record, requeuesField.entry k status = some record ->
      0 <= record.count)
    (newer stretch older : Trace)
    (htrace : (runTicks runWatchdogTick ticks { status := status }).trace =
      newer ++ (stretch ++ older))
    (hkept : KeepsBudget status id older stretch) :
    BudgetBound status id maxRequeues older stretch := by
  have hinitial : 0 <= budgetSpent status.requeues id := by
    cases hentry : requeuesField.entry id status with
    | none => exact Int.le_of_eq (budgetSpent_of_none hentry).symm
    | some record =>
        rw [budgetSpent_of_entry hentry]
        exact hcounts id record hentry
  have hlaw : Throughout (BudgetLaw status id maxRequeues)
      (runTicks runWatchdogTick ticks { status := status }).trace :=
    runWatchdogTicks_budgetLaw hmax hremove
  rw [htrace] at hlaw
  exact budgetBound_of_law hinitial (hlaw.of_append newer) hkept

instance decidableRemovesBudget (initial : Status) (id : String) (e : Entry)
    (older : Trace) : Decidable (RemovesBudget initial id e older) :=
  inferInstanceAs (Decidable (_ ∧ _))

instance decidableKeepsBudget (initial : Status) (id : String) (older stretch : Trace) :
    Decidable (KeepsBudget initial id older stretch) :=
  inferInstanceAs (Decidable (Throughout _ _))

/-- A tick at the given minute that lists the datapoints as started. -/
def startedAt (ids : List String) (minute : Nat) : Tick where
  env := { Env.quiet (minutes minute) with
    listStartedDatapoints := fun _ => .ok (ids.map fun id => { id := some id }) }
  config := {}

theorem startedAt_leaves {part : Type} (view : Status -> part) (ids : List String)
    (minute : Nat) : (startedAt ids minute).env.Leaves view :=
  fun _ _ _ _ => ⟨rfl, rfl⟩

def watchedRun (ids : List String) (minutesOfTicks : List Nat) : Trace :=
  (runTicks runWatchdogTick (minutesOfTicks.map (startedAt ids)) {}).trace

/-- Three requeues, then the budget is spent. -/
theorem watchdog_requeue_bound_default :
    BudgetBound {} "d" 3 [] (watchedRun ["d"] [0, 46, 92, 138, 184, 230]) ∧
      requeuesIn "d" (watchedRun ["d"] [0, 46, 92, 138, 184, 230]) = 3 := by
  have hcount : requeuesIn "d" (watchedRun ["d"] [0, 46, 92, 138, 184, 230]) = 3 := by
    decide +kernel
  have hkept : KeepsBudget {} "d" [] (watchedRun ["d"] [0, 46, 92, 138, 184, 230]) := by
    decide +kernel
  have hmax : forall t, t ∈ [0, 46, 92, 138, 184, 230].map (startedAt ["d"]) ->
      t.config.datapointPolicy.maxAutoRequeues = 3 := by
    intro t ht
    rcases List.mem_map.mp ht with ⟨minute, _, ht⟩
    rw [← ht]
    rfl
  have hremove : forall t, t ∈ [0, 46, 92, 138, 184, 230].map (startedAt ["d"]) ->
      t.env.MayRemove (requeuesField.entry "d") := by
    intro t ht
    rcases List.mem_map.mp ht with ⟨minute, _, ht⟩
    rw [← ht]
    exact (startedAt_leaves _ _ _).mayRemove
  refine ⟨?_, hcount⟩
  apply watchdog_requeue_bound ([0, 46, 92, 138, 184, 230].map (startedAt ["d"])) {} "d" 3
    hmax hremove _ [] _ [] _ hkept
  · intro k record hentry
    cases hentry
  · rw [List.nil_append, List.append_nil]
    unfold watchedRun
    exact Eq.refl _

end OpenStudioOperator
