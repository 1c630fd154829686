import OpenStudioOperator.Actions
import OpenStudioOperator.DatapointWatchdog
import OpenStudioOperator.StatusStoreSparing

/-!
# The datapoint watchdog as a transition system

Every tick is a sequence of steps.  A step carries what the tick read before
it, as facts about the entries the tick has put on the trace: the budget and
the clock a requeue was decided on, and the view under which the departures
were pruned.

What a step says about one entry of a map is conditional on other writers at
most removing that entry.
-/

namespace OpenStudioOperator

open Foundation

/-!
## Kinds of events
-/

/-- The watchdog tries to requeue `id`. -/
def Event.Requeues (id : String) : Event -> Prop
  | .mutate (.requeueDatapoint datapointId) _ => datapointId = id
  | .suppressed (.requeueDatapoint datapointId) => datapointId = id
  | _ => False

/-- The watchdog writes the clock of `id`. -/
def Event.SetsClock (id : String) : Event -> Prop
  | .store (.setStartedSince datapointId _) _ => datapointId = id
  | _ => False

/-- What the bookkeeping of a tick is about. -/
def Event.Tracked : Event -> Prop
  | .mutate (.requeueDatapoint _) _ => True
  | .suppressed (.requeueDatapoint _) => True
  | .store (.setStartedSince _ _) _ => True
  | .departuresPruned _ => True
  | .tickStart _ => True
  | _ => False

/-- What concerns others than `id`. -/
def Event.Others (id : String) (event : Event) : Prop :=
  event.Tracked ∧ ¬ event.Requeues id ∧ ¬ event.SetsClock id

theorem Event.Requeues.cases {id : String} {event : Event} (h : event.Requeues id) :
    (exists r, event = .mutate (.requeueDatapoint id) r) ∨
      event = .suppressed (.requeueDatapoint id) := by
  cases event with
  | mutate m r =>
      cases m with
      | requeueDatapoint datapointId => exact Or.inl ⟨r, by rw [show datapointId = id from h]⟩
      | _ => exact absurd h not_false
  | suppressed m =>
      cases m with
      | requeueDatapoint datapointId => exact Or.inr (by rw [show datapointId = id from h])
      | _ => exact absurd h not_false
  | _ => exact absurd h not_false

theorem Event.SetsClock.cases {id : String} {event : Event} (h : event.SetsClock id) :
    exists at' r, event = .store (.setStartedSince id at') r := by
  cases event with
  | store op r =>
      cases op with
      | setStartedSince datapointId at' => exact ⟨at', r, by rw [show datapointId = id from h]⟩
      | _ => exact absurd h not_false
  | _ => exact absurd h not_false

theorem Event.Requeues.tracked {id : String} {event : Event} (h : event.Requeues id) :
    event.Tracked := by
  rcases h.cases with ⟨r, hevent⟩ | hevent
  · rw [hevent]
    exact trivial
  · rw [hevent]
    exact trivial

theorem Event.SetsClock.tracked {id : String} {event : Event} (h : event.SetsClock id) :
    event.Tracked := by
  rcases h.cases with ⟨at', r, hevent⟩
  rw [hevent]
  exact trivial

/-- Trying to requeue a datapoint concerns no other. -/
theorem Event.Requeues.others {id k : String} {event : Event} (hne : k ≠ id)
    (h : event.Requeues k) : event.Others id := by
  rcases h.cases with ⟨r, hevent⟩ | hevent
  · rw [hevent]
    exact ⟨trivial, hne, not_false⟩
  · rw [hevent]
    exact ⟨trivial, hne, not_false⟩

theorem Event.SetsClock.others {id k : String} {event : Event} (hne : k ≠ id)
    (h : event.SetsClock k) : event.Others id := by
  rcases h.cases with ⟨at', r, hevent⟩
  rw [hevent]
  exact ⟨trivial, not_false, hne⟩

def Event.IsWatchQuery : Event -> Prop
  | .listStartedDatapoints _ => True
  | .listDatapoints _ => True
  | .listAnalyses _ => True
  | .statusMapCapped _ _ _ => True
  | .emit _ _ _ _ => True
  | _ => False

theorem Event.IsWatchQuery.not_tracked {event : Event} (h : event.IsWatchQuery) :
    ¬ event.Tracked := by
  cases event with
  | listStartedDatapoints r => exact not_false
  | listDatapoints r => exact not_false
  | listAnalyses r => exact not_false
  | statusMapCapped field message r => exact not_false
  | emit type reason message r => exact not_false
  | _ => exact absurd h not_false

theorem Event.IsWatchQuery.ne_store {event : Event} (h : event.IsWatchQuery)
    (op : StoreOp) (r : Except Exc Unit) : event ≠ .store op r := by
  intro hevent
  rw [hevent] at h
  exact h

def StoreOp.IsWatchRead : StoreOp -> Prop
  | .getStartedSinceMap => True
  | .getRequeues => True
  | .getSoftStops => True
  | .getArchivedAnalyses => True
  | _ => False

/-!
## What a tick has read
-/

/-- The tick has read this answer to the getter. -/
def HasRead (op : StoreOp) (s : Status) (trace : Trace) : Prop :=
  exists read, read ∈ currentTick trace ∧ read.event = .store op (.ok ()) ∧
    read.status = s

/-- Every view under which this tick pruned departures shows `id`. -/
def SeenStarted (id : String) (trace : Trace) : Prop :=
  forall e startedIds, e ∈ currentTick trace ->
    e.event = .departuresPruned startedIds -> id ∈ startedIds

def maxDatapointRuntimeOf (t : Tick) : Duration :=
  minutes t.config.datapointPolicy.maxDatapointRuntimeMinutes

/-- The requeue of `id` is decided: its clock and its budget as the tick read
them. -/
structure Overdue (t : Tick) (w : World) (id : String) (budget : Int) : Prop where
  seen : SeenStarted id w.trace
  untried : Quiet (Event.Requeues id) w
  unclocked : Quiet (Event.SetsClock id) w
  budgetRead : exists s, HasRead .getRequeues s w.trace ∧
    budgetSpent s.requeues id = budget
  budgetLeft : budget < t.config.datapointPolicy.maxAutoRequeues
  clockRead : exists s since, HasRead .getStartedSinceMap s w.trace ∧
    startedSinceField.entry id s = some since ∧
    maxDatapointRuntimeOf t < t.env.now - since

def requeuedRecord (budget : Int) (now : Instant) : RequeueRecord where
  count := budget + 1
  lastRequeuedAt := now

/-- The requeue of `id`, its Event, and the budget it spends. -/
abbrev RequeueActs (t : Tick) (id : String) (budget : Int) : World -> World -> Prop :=
  Acts t (.requeueDatapoint id) .normal datapointRequeuedEvent
    (.setRequeue id (requeuedRecord budget t.env.now))
    (SparingWrite t.env requeuesField id (some (requeuedRecord budget t.env.now)))

/-!
## What a hygiene pass has read
-/

/-- The status in the newest answer to the getter. -/
def latestRead (op : StoreOp) : Trace -> Option Status
  | [] => none
  | e :: older =>
      if e.event = .store op (.ok ()) then some e.status else latestRead op older

/-- The live views of the newest heavy check. -/
def latestCheck : Trace -> Option (List String × List String)
  | [] => none
  | e :: older =>
      match e.event with
      | .heavyCheck liveDatapoints liveAnalyses => some (liveDatapoints, liveAnalyses)
      | _ => latestCheck older

/-- The datapoint ids of the snapshot of a hygiene pass. -/
def trackedDatapoints (trace : Trace) : List String :=
  match latestRead .getRequeues trace with
  | none => []
  | some s => s.requeues.keys

/-- The analysis ids of the snapshots of a hygiene pass. -/
def trackedAnalyses (trace : Trace) : List String :=
  match latestRead .getSoftStops trace, latestRead .getArchivedAnalyses trace with
  | some s, some s' => setUnion s.softStops.keys s'.archivedAnalyses.keys
  | _, _ => []

theorem nodup_setUnion {a b : List String} (ha : a.Nodup) (hb : b.Nodup) :
    (setUnion a b).Nodup := by
  refine ha.append (hb.filter _) ?_
  intro x hx hfilter
  rw [List.mem_filter] at hfilter
  exact of_decide_eq_true hfilter.2 hx

theorem mem_setUnion {a b : List String} {x : String} :
    x ∈ setUnion a b <-> x ∈ a ∨ x ∈ b := by
  unfold setUnion
  rw [List.mem_append, List.mem_filter, decide_eq_true_iff]
  tauto

theorem nodup_trackedDatapoints (trace : Trace) : (trackedDatapoints trace).Nodup := by
  unfold trackedDatapoints
  split
  · exact List.nodup_nil
  · rename_i s _
    exact s.requeues.nodupKeys

theorem nodup_trackedAnalyses (trace : Trace) : (trackedAnalyses trace).Nodup := by
  unfold trackedAnalyses
  split
  · rename_i s s' _ _
    exact nodup_setUnion s.softStops.nodupKeys s'.archivedAnalyses.nodupKeys
  · exact List.nodup_nil

/-!
## Absence counters
-/

section Counters

variable {tracked live : List String} {k : String}

theorem get?_bump (live : List String) (k : String) :
    forall (tracked : List String) (counters : Dict String Nat), tracked.Nodup ->
      (tracked.foldl
        (fun c key =>
          if key ∈ live then c.erase key else c.set key ((c.get? key).getD 0 + 1))
        counters).get? k =
        if k ∈ tracked then
          if k ∈ live then none else some ((counters.get? k).getD 0 + 1)
        else counters.get? k
  | [], _, _ => rfl
  | key :: tracked, counters, hnodup => by
      rw [List.nodup_cons] at hnodup
      rw [List.foldl_cons, get?_bump live k tracked _ hnodup.2]
      rcases eq_or_ne k key with heq | hne
      · subst heq
        rw [if_neg hnodup.1, if_pos List.mem_cons_self]
        split_ifs
        · exact Dict.get?_erase_self _ _
        · exact Dict.get?_set_self _ _ _
      · have hkept : (if key ∈ live then counters.erase key
            else counters.set key ((counters.get? key).getD 0 + 1)).get? k =
              counters.get? k := by
          split_ifs
          · exact Dict.get?_erase_of_ne _ hne
          · exact Dict.get?_set_of_ne _ _ hne
        have hmem : k ∈ key :: tracked <-> k ∈ tracked := by simp [hne]
        simp only [hkept, hmem]

theorem get?_dropUntracked (tracked : List String) (k : String) :
    forall (keys : List String) (counters : Dict String Nat),
      (keys.foldl (fun c key => if key ∈ tracked then c else c.erase key)
        counters).get? k =
        if k ∈ keys ∧ k ∉ tracked then none else counters.get? k
  | [], _ => by simp
  | key :: keys, counters => by
      rw [List.foldl_cons, get?_dropUntracked tracked k keys]
      rcases eq_or_ne k key with heq | hne
      · subst heq
        split_ifs <;> simp_all
      · have hkept : (if key ∈ tracked then counters else counters.erase key).get? k =
            counters.get? k := by
          split_ifs
          · rfl
          · exact Dict.get?_erase_of_ne _ hne
        have hmem : k ∈ key :: keys <-> k ∈ keys := by simp [hne]
        simp only [hkept, hmem]

/-- A tracked id out of view has one more absence, and nothing else is counted. -/
theorem get?_bumpAbsences (hnodup : tracked.Nodup) (counters : Dict String Nat) :
    (bumpAbsences counters tracked live).get? k =
      if k ∈ tracked ∧ k ∉ live then some ((counters.get? k).getD 0 + 1) else none := by
  have hbump := get?_bump live k tracked counters hnodup
  unfold bumpAbsences
  simp only
  rw [get?_dropUntracked]
  by_cases htracked : k ∈ tracked
  · rw [if_neg (by simp [htracked]), hbump, if_pos htracked]
    simp only [htracked, true_and]
    split_ifs
    · rfl
    · rfl
  · have huncounted : ¬ (k ∈ tracked ∧ k ∉ live) := fun h => htracked h.1
    rw [if_neg huncounted]
    split_ifs with hkey
    · rfl
    · rw [Dict.get?_eq_none_iff]
      exact fun hmem => hkey ⟨hmem, htracked⟩

end Counters

def AnchorPruneState.bump (state : AnchorPruneState)
    (datapoints analyses liveDatapoints liveAnalyses : List String) :
    AnchorPruneState :=
  { state with
    absentDatapoints := bumpAbsences state.absentDatapoints datapoints liveDatapoints
    absentAnalyses := bumpAbsences state.absentAnalyses analyses liveAnalyses }

def World.setAnchorPrune (w : World) (state : AnchorPruneState) : World :=
  { w with memory := { w.memory with anchorPrune := state } }

/-- The absences are counted under the views of the newest heavy check: a
tracked id is in a view or has a counter. -/
structure Counted (w : World) (liveDatapoints liveAnalyses : List String) : Prop where
  views : latestCheck w.trace = some (liveDatapoints, liveAnalyses)
  datapoints : forall k, k ∈ trackedDatapoints w.trace -> k ∉ liveDatapoints ->
    k ∈ w.memory.anchorPrune.absentDatapoints.keys
  analyses : forall k, k ∈ trackedAnalyses w.trace -> k ∉ liveAnalyses ->
    k ∈ w.memory.anchorPrune.absentAnalyses.keys

/-!
## Steps
-/

/-- One step of the tick `t`. -/
inductive WatchStep (t : Tick) : World -> World -> Prop where
  | restart {w : World} :
      WatchStep t w { w.log t.env.now .processStart with memory := {} }
  | remember {w : World} (ids : List String) :
      WatchStep t w { w with memory := { w.memory with exhaustedSeen := ids } }
  | protect {w : World} (keys : StatusField -> List String) :
      WatchStep t w { w with protectedKeys := keys }
  | query {w : World} {event : Event} : event.IsWatchQuery ->
      WatchStep t w (w.log t.env.now event)
  | look {w : World} {op : StoreOp} {r : Except Exc Unit} {s : Status} :
      op.IsWatchRead -> t.env.Spares w.status s ->
      WatchStep t w (w.commit t.env.now op r s)
  | depart {w : World} {id : String} {r : Except Exc Unit} {s : Status} :
      SparingWrite t.env startedSinceField id none r w.status s ->
      WatchStep t w (w.commit t.env.now (.clearStartedSince id) r s)
  | departed {w : World} {startedIds : List String} :
      (forall k, k ∉ startedIds -> t.env.MayRemove (startedSinceField.entry k) ->
        startedSinceField.entry k w.status = none) ->
      WatchStep t w (w.log t.env.now (.departuresPruned startedIds))
  | clock {w : World} {id : String} {r : Except Exc Unit} {s : Status} :
      SeenStarted id w.trace ->
      SparingWrite t.env startedSinceField id (some t.env.now) r w.status s ->
      WatchStep t w (w.commit t.env.now (.setStartedSince id t.env.now) r s)
  | requeue {w w' : World} {id : String} {budget : Int} :
      Overdue t w id budget -> RequeueActs t id budget w w' -> WatchStep t w w'
  | count {w : World} (n : Nat) :
      WatchStep t w (w.setAnchorPrune { w.memory.anchorPrune with ticks := n })
  | forget {w : World} :
      WatchStep t w (w.setAnchorPrune { ticks := w.memory.anchorPrune.ticks })
  | age {w : World} (liveDatapoints liveAnalyses : List String) :
      WatchStep t w ((w.log t.env.now
        (.heavyCheck liveDatapoints liveAnalyses)).setAnchorPrune
          (w.memory.anchorPrune.bump (trackedDatapoints w.trace)
            (trackedAnalyses w.trace) liveDatapoints liveAnalyses))
  | prune {w : World} {liveDatapoints liveAnalyses : List String}
      (r : Except Exc Unit) {s : Status}
      {issued : Option (Attempt Status (List (StatusField × List String)) Exc)} :
      Counted w liveDatapoints liveAnalyses -> t.env.Spares w.status s ->
      PruneSent
        (some (pruneLive liveAnalyses w.memory.anchorPrune.absentAnalyses))
        (some (pruneLive liveDatapoints w.memory.anchorPrune.absentDatapoints))
        issued ->
      WatchStep t w ((w.commit t.env.now
        (.prune (some (pruneLive liveAnalyses w.memory.anchorPrune.absentAnalyses))
          (some (pruneLive liveDatapoints w.memory.anchorPrune.absentDatapoints)))
        r s).notePruned t.env.now issued)
  | retire {w : World} (datapoints analyses : List String) :
      WatchStep t w (w.setAnchorPrune { w.memory.anchorPrune with
        absentDatapoints := eraseAll datapoints w.memory.anchorPrune.absentDatapoints
        absentAnalyses := eraseAll analyses w.memory.anchorPrune.absentAnalyses })

/-- A sequence of steps of one tick. -/
def WatchSteps (t : Tick) : World -> World -> Prop :=
  Relation.ReflTransGen (WatchStep t)

section Steps

variable {t : Tick} {w w' w'' : World} {id : String}

theorem WatchSteps.refl (t : Tick) (w : World) : WatchSteps t w w :=
  Relation.ReflTransGen.refl

theorem WatchSteps.snoc (h : WatchSteps t w w') (h' : WatchStep t w' w'') :
    WatchSteps t w w'' :=
  Relation.ReflTransGen.tail h h'

theorem WatchSteps.query (h : WatchSteps t w w') (event : Event)
    (hquery : event.IsWatchQuery) : WatchSteps t w (w'.log t.env.now event) :=
  h.snoc (.query hquery)

theorem WatchSteps.append (h : WatchSteps t w w') (h' : WatchSteps t w' w'') :
    WatchSteps t w w'' :=
  Relation.ReflTransGen.trans h h'

/-!
## What a step appends
-/

theorem Appends.of_trace (h : w'.trace = w.trace) : Appends t w w' :=
  ⟨[], h, fun _ he => absurd he List.not_mem_nil⟩

theorem Appends.notePruned (h : Appends t w w')
    (issued : Option (Attempt Status (List (StatusField × List String)) Exc)) :
    Appends t w (w'.notePruned t.env.now issued) := by
  cases issued with
  | none => exact h
  | some attempt => exact h.log (by simp)

theorem Event.IsWatchQuery.ne_tickStart {event : Event} (h : event.IsWatchQuery)
    (config : OperatorConfig) : event ≠ .tickStart config := by
  intro hevent
  rw [hevent] at h
  exact h

theorem WatchStep.appends (h : WatchStep t w w') : Appends t w w' := by
  have hstart := Appends.refl t w
  cases h with
  | restart => exact hstart.log (by simp)
  | remember _ => exact Appends.of_trace rfl
  | protect _ => exact Appends.of_trace rfl
  | query hquery => exact hstart.log hquery.ne_tickStart
  | look _ _ => exact hstart.commit
  | depart _ => exact hstart.commit
  | departed _ => exact hstart.log (by simp)
  | clock _ _ => exact hstart.commit
  | requeue _ hacts => exact hacts.appends
  | count _ => exact Appends.of_trace rfl
  | forget => exact Appends.of_trace rfl
  | age _ _ => exact hstart.log (by simp)
  | prune _ _ _ _ => exact hstart.commit.notePruned _
  | retire _ _ => exact Appends.of_trace rfl

theorem WatchStep.within {initial : Status} {w0 : World} (h : Within initial t w0 w)
    (hstep : WatchStep t w w') : Within initial t w0 w' := by
  apply h.appends hstep.appends
  cases hstep with
  | restart => rfl
  | remember _ => exact h.latest
  | protect _ => exact h.latest
  | query _ => rfl
  | look _ _ => rfl
  | depart _ => rfl
  | departed _ => rfl
  | clock _ _ => rfl
  | requeue _ hacts => cases hacts <;> rfl
  | count _ => exact h.latest
  | forget => exact h.latest
  | age _ _ => rfl
  | @prune _ _ _ _ issued _ _ _ => cases issued <;> rfl
  | retire _ _ => exact h.latest

end Steps

end OpenStudioOperator
