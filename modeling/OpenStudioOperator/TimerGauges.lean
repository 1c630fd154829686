import OpenStudioOperator.TimerTicks

/-!
# What the metrics of the timers tell

Over every run of calls, watch events and a SIGTERM: the heartbeats and the gauges of the
posture follow the calls that the gate lets pass, the counters count every call once, and
the dry-run gauge, which the audit writes as well, keeps to the value last watched.
-/

namespace OpenStudioOperator
namespace TimerTicks

open Foundation OscmHandlers
open DryRunAudit (AuditState CrKey dryRunToggleAudit)
open SingletonGuard (ClusterManager)

/-!
## Gauges over a run
-/

section Gauges

variable {unicode : UnicodeData}

theorem stopped_cons {s : Step} {older : List Step} :
    Stopped (s :: older) <-> s.isSigterm = true ∨ Stopped older := by
  unfold Stopped
  rw [List.any_cons, Bool.or_eq_true]

theorem shutdownRequested_stateAfter (history : List Step) :
    (stateAfter unicode history).shutdownRequested = decide (Stopped history) := by
  induction history with
  | nil => rfl
  | cons s older ih =>
      cases s with
      | sigterm => exact (decide_eq_true (stopped_cons.mpr (Or.inl rfl))).symm
      | watch e =>
          have hsame : Stopped (.watch e :: older) <-> Stopped older :=
            stopped_cons.trans (or_iff_right Bool.false_ne_true)
          rw [decide_eq_decide.mpr hsame, ← ih]
          rfl
      | timer inv =>
          have hsame : Stopped (.timer inv :: older) <-> Stopped older :=
            stopped_cons.trans (or_iff_right Bool.false_ne_true)
          rw [decide_eq_decide.mpr hsame, ← ih]
          show (gatedTick unicode inv _).2.shutdownRequested = _
          rw [gatedTick_state]
          cases verdict unicode inv with
          | pass =>
              simp only [servedState]
              split
              · rfl
              · cases postureOf unicode inv.spec <;> rfl
          | _ => rfl

/-- What a call stamps for its resource. -/
def stampedPosture (unicode : UnicodeData) (inv : Invocation) (older : List Step) :
    Option Posture :=
  if Served unicode inv older then postureOf unicode inv.spec else none

section OneCall

variable {inv : Invocation} {older : List Step}

/-- The gauges of the process. -/
def gaugesOf (p : TimerProcess) :
    Dict String Instant × AuditState × Dict CrKey Bool × Dict CrKey Bool × Dict CrKey Bool :=
  (p.lastTickTimestamp, p.audit, p.serverUrlSet, p.redisUrlSet, p.autoSoftStopEnabled)

theorem gaugesOf_timer : gaugesOf (stateAfter unicode (.timer inv :: older)) =
    match stampedPosture unicode inv older with
    | none => gaugesOf (stateAfter unicode older)
    | some posture => gaugesOf (stampTick inv.timer.module inv.endedAt
        (stampConfigPostureGauges inv.key posture (stateAfter unicode older))) := by
  have hstopped := @shutdownRequested_stateAfter unicode older
  show gaugesOf (gatedTick unicode inv _).2 = _
  rw [gatedTick_state]
  unfold stampedPosture
  by_cases hserved : Served unicode inv older
  · rw [if_pos hserved, hserved.1]
    simp only [hstopped, decide_eq_false hserved.2, Bool.false_eq_true, if_false, servedState]
    cases postureOf unicode inv.spec <;> rfl
  · rw [if_neg hserved]
    cases hverdict : verdict unicode inv with
    | pass =>
        have hstop : Stopped older := by
          by_contra h
          exact hserved ⟨hverdict, h⟩
        simp only [hstopped, decide_eq_true hstop, if_true]
        rfl
    | _ => rfl

end OneCall

theorem module_injective {timer timer' : Timer} (h : timer.module = timer'.module) :
    timer = timer' := by
  revert h
  cases timer <;> cases timer' <;> decide

/-- The specs of the calls have passed the schema. -/
def Accepted (history : List Step) : Prop :=
  forall inv, .timer inv ∈ history -> Spec.specSchema (.obj inv.spec) = true

theorem stampedPosture_of_accepted {inv : Invocation} {older : List Step}
    (h : Spec.specSchema (.obj inv.spec) = true) :
    stampedPosture unicode inv older =
      if Served unicode inv older then some (shown inv.spec) else none := by
  unfold stampedPosture
  rw [postureOf_accepted h]

/-- The last call of a kind that was served. -/
def lastServed (unicode : UnicodeData) (kind : Invocation -> Bool) (history : List Step) :
    Option Invocation :=
  lastSet (fun s older =>
    match s with
    | .timer inv => if Served unicode inv older ∧ kind inv = true then some inv else none
    | _ => none) history

/-- A gauge that only stamping sets shows the last call served of its kind. -/
theorem gauge_eq_lastServed {value : Type} (gauge : TimerProcess -> Option value)
    {kind : Invocation -> Bool} {own : Invocation -> value} (hnil : gauge {} = none)
    (hstamp : forall inv p, gauge (stampTick inv.timer.module inv.endedAt
      (stampConfigPostureGauges inv.key (shown inv.spec) p)) =
        if kind inv then some (own inv) else gauge p)
    (hgauges : forall p q, gaugesOf p = gaugesOf q -> gauge p = gauge q)
    (hwatch : forall e p, gauge (step unicode (.watch e) p) = gauge p) :
    forall history, Accepted history ->
      gauge (stateAfter unicode history) = (lastServed unicode kind history).map own := by
  intro history
  induction history with
  | nil => exact fun _ => hnil
  | cons s older ih =>
      intro haccepted
      have hold := ih fun inv hinv => haccepted inv (List.mem_cons_of_mem s hinv)
      unfold lastServed at hold ⊢
      cases s with
      | sigterm =>
          rw [lastSet_cons_of_none rfl, ← hold]
          exact hgauges _ _ rfl
      | watch e =>
          rw [lastSet_cons_of_none rfl, ← hold]
          exact hwatch e _
      | timer inv =>
          have hstep := @gaugesOf_timer unicode inv older
          rw [stampedPosture_of_accepted (haccepted inv List.mem_cons_self)] at hstep
          by_cases hserved : Served unicode inv older
          · rw [if_pos hserved] at hstep
            rw [hgauges _ _ hstep, hstamp]
            by_cases hkind : kind inv = true
            · rw [if_pos hkind, lastSet_cons_of_some (if_pos ⟨hserved, hkind⟩)]
              rfl
            · rw [if_neg hkind, lastSet_cons_of_none (if_neg fun h => hkind h.2), hold]
          · rw [if_neg hserved] at hstep
            rw [hgauges _ _ hstep, lastSet_cons_of_none (if_neg fun h => hserved h.1), hold]

/-- The heartbeat of a module is the end of the last call of its timer that the gate let
pass before a SIGTERM, whatever the tick came to. -/
theorem heartbeat_last_served (history : List Step) (haccepted : Accepted history)
    (timer : Timer) :
    (stateAfter unicode history).lastTickTimestamp.get? timer.module =
      (lastServed unicode (fun inv => inv.timer = timer) history).map Invocation.endedAt := by
  refine gauge_eq_lastServed (fun p => p.lastTickTimestamp.get? timer.module) rfl ?_ ?_
    (fun _ _ => rfl) history haccepted
  · intro inv p
    show (p.lastTickTimestamp.set inv.timer.module inv.endedAt).get? timer.module = _
    by_cases htimer : inv.timer = timer
    · rw [if_pos (decide_eq_true htimer), htimer, Dict.get?_set_self]
    · have hmodule : timer.module ≠ inv.timer.module :=
        fun h => htimer (module_injective h).symm
      rw [if_neg (by rw [decide_eq_false htimer]; exact Bool.false_ne_true),
        Dict.get?_set_of_ne _ _ hmodule]
  · intro p q h
    have hfirst : p.lastTickTimestamp = q.lastTickTimestamp := congrArg Prod.fst h
    rw [hfirst]

theorem get?_set_key {value : Type} (d : Dict CrKey value) (key key' : CrKey) (v : value) :
    (d.set key v).get? key' = if decide (key = key') = true then some v else d.get? key' := by
  by_cases h : key = key'
  · rw [if_pos (decide_eq_true h), h, Dict.get?_set_self]
  · rw [if_neg (by rw [decide_eq_false h]; exact Bool.false_ne_true),
      Dict.get?_set_of_ne _ _ (Ne.symm h)]

/-- The gauges of a resource show the spec of the last call that was served for it. -/
theorem posture_last_served (history : List Step) (haccepted : Accepted history) (key : CrKey) :
    let last := lastServed unicode (fun inv => inv.key = key) history
    let p := stateAfter unicode history
    p.serverUrlSet.get? key = last.map (fun inv => truthyAt inv.spec "serverUrl" false) ∧
      p.autoSoftStopEnabled.get? key = last.map (fun inv => (declared inv.spec).autoSoftStop) ∧
      p.redisUrlSet.get? key = last.map fun inv =>
        if truthyAt inv.spec "serverUrl" false then (declared inv.spec).redisUrlSet
        else truthyAt inv.spec "redisUrl" false := by
  refine ⟨?_, ?_, ?_⟩
  · refine gauge_eq_lastServed (fun p => p.serverUrlSet.get? key) rfl
      (fun inv p => get?_set_key p.serverUrlSet inv.key key _) ?_ (fun _ _ => rfl) history
      haccepted
    intro p q h
    have hserver : p.serverUrlSet = q.serverUrlSet := congrArg (fun g => g.2.2.1) h
    rw [hserver]
  · refine gauge_eq_lastServed (fun p => p.autoSoftStopEnabled.get? key) rfl
      (fun inv p => get?_set_key p.autoSoftStopEnabled inv.key key _) ?_ (fun _ _ => rfl) history
      haccepted
    intro p q h
    have hauto : p.autoSoftStopEnabled = q.autoSoftStopEnabled := congrArg (fun g => g.2.2.2.2) h
    rw [hauto]
  · have hshown : forall spec, (shown spec).redisUrlSet =
        if truthyAt spec "serverUrl" false then (declared spec).redisUrlSet
        else truthyAt spec "redisUrl" false := by
      intro spec
      unfold shown declared
      cases truthyAt spec "serverUrl" false with
      | true => simp only [Bool.true_and, if_true]
      | false => simp only [Bool.false_and, Bool.or_false, Bool.false_eq_true, if_false]
    have hgauge := @gauge_eq_lastServed unicode _ (fun p => p.redisUrlSet.get? key) _ _ rfl
      (fun inv p => get?_set_key p.redisUrlSet inv.key key _) (by
        intro p q h
        have hredis : p.redisUrlSet = q.redisUrlSet := congrArg (fun g => g.2.2.2.1) h
        rw [hredis]) (fun _ _ => rfl) history haccepted
    rw [hgauge]
    exact congrArg (fun f => Option.map f _) (funext fun inv => hshown inv.spec)

/-- The one resource of a namespace. -/
def servedCr : ClusterManager where
  metadata :=
    { crNamespace := some "energy"
      name := some "oscm"
      uid := some "u1"
      creationTimestamp := some "2026-08-19T00:00:00Z" }

def servedSpec : List (String × Json) :=
  [("dryRun", .bool true), ("redisUrl", .str ""),
    ("serverUrl", .str "http://web.openstudio.svc:8080")]

/-- A call for the resource, with what the gate is answered. -/
def callAt (timer : Timer) (minute : Nat)
    (listing : Except ListFailure (List ClusterManager)) : Invocation where
  timer := timer
  body := some servedCr
  crNamespace := "energy"
  name := "oscm"
  spec := servedSpec
  listing := listing
  guarded := fun _ => .skipped { errorType := "RedisClientError", redisClientError := true }
  failedAt := minutes minute
  endedAt := minutes minute

/-- The recycler is served, and then the listing fails. -/
def sampleRun : List Step :=
  [.timer (callAt .workerRecycler 3 (.error (.caught "ApiException"))),
    .timer (callAt .workerRecycler 2 (.ok [servedCr]))]

theorem sampleRun_accepted : Accepted sampleRun := by
  intro inv hinv
  have hspec : inv.spec = servedSpec := by
    simp only [sampleRun, List.mem_cons, Step.timer.injEq, List.not_mem_nil, or_false] at hinv
    rcases hinv with heq | heq <;> rw [heq] <;> rfl
  rw [hspec]
  decide +kernel

theorem heartbeat_last_served_sampleRun :
    (stateAfter UnicodeData.ascii sampleRun).lastTickTimestamp.get? "worker_recycler" =
      some (minutes 2) := by
  have h := @heartbeat_last_served UnicodeData.ascii sampleRun sampleRun_accepted .workerRecycler
  exact h.trans (by decide +kernel)

theorem posture_last_served_sampleRun :
    (stateAfter UnicodeData.ascii sampleRun).redisUrlSet.get? ("energy", "oscm") =
      some false := by
  have h := @posture_last_served UnicodeData.ascii sampleRun sampleRun_accepted ("energy", "oscm")
  exact h.2.2.trans (by decide +kernel)

end Gauges

/-!
## Counters over a run
-/

section Counters

variable (unicode : UnicodeData) (inv : Invocation) (older : List Step)

/-- The labels under which a call counts as a failed tick: the gate could not tell the
oldest resource, or the guarded part of a served call raised. -/
def failureLabels : Option (String × String × String × String) :=
  match verdict unicode inv with
  | .failed errorType => some (inv.crNamespace, inv.name, inv.timer.fnName, errorType)
  | .pass =>
      if Stopped older then none
      else
        match attempted unicode inv with
        | some (.skipped exc) =>
            some (inv.crNamespace, inv.name, inv.timer.module, exc.errorType)
        | _ => none
  | _ => none

/-- The resource for which a call found Redis unreachable. -/
def unreachableLabels : Option (String × String) :=
  match verdict unicode inv with
  | .pass =>
      if Stopped older then none
      else
        match attempted unicode inv with
        | some (.skipped exc) => if exc.redisClientError then some inv.key else none
        | _ => none
  | _ => none

/-- The labels under which a call counts as one for another resource than the oldest. -/
def loserSkipLabels : Option (String × String × String) :=
  match verdict unicode inv with
  | .loser => some (loserLabels inv)
  | _ => none

/-- The module whose duration a call adds to. -/
def durationLabels : Option String :=
  match verdict unicode inv with
  | .pass => some inv.timer.module
  | _ => none

/-- A counter with labels goes up under some label, or under none. -/
def counted {labels : Type} [DecidableEq labels] (counter : Dict labels Nat) :
    Option labels -> Dict labels Nat
  | none => counter
  | some l => counter.increment l

/-- How often a run counts under a label. -/
def timesCounted {labels : Type} [DecidableEq labels]
    (labelsOf : Invocation -> List Step -> Option labels) (l : labels) : List Step -> Nat :=
  occurrences fun s older =>
    match s with
    | .timer inv => decide (labelsOf inv older = some l)
    | _ => false

variable {unicode inv older}

theorem attempted_of_postureOf (h : postureOf unicode inv.spec = none) :
    attempted unicode inv = none := by
  unfold postureOf at h
  unfold attempted
  split at h
  · rename_i hserver
    rw [if_pos hserver]
  · rename_i hserver
    rw [if_neg hserver]
    split at h
    · cases h
    · rfl

theorem oscm_servedState (p : TimerProcess) :
    (servedState unicode inv p).oscm = oscmAfter unicode inv p.oscm := by
  unfold servedState
  cases hposture : postureOf unicode inv.spec with
  | some posture => rfl
  | none =>
      unfold oscmAfter
      rw [attempted_of_postureOf hposture]

theorem counters_timer :
    let p := stateAfter unicode older
    let q := stateAfter unicode (.timer inv :: older)
    q.oscm.metrics.tickFailures =
        counted p.oscm.metrics.tickFailures (failureLabels unicode inv older) ∧
      q.oscm.metrics.redisUnreachable =
        counted p.oscm.metrics.redisUnreachable (unreachableLabels unicode inv older) ∧
      q.loserSkips = counted p.loserSkips (loserSkipLabels unicode inv) ∧
      q.tickDurations = counted p.tickDurations (durationLabels unicode inv) := by
  have hstopped := @shutdownRequested_stateAfter unicode older
  intro p q
  have hq : q = (gatedTick unicode inv p).2 := rfl
  rw [hq, gatedTick_state]
  unfold failureLabels unreachableLabels loserSkipLabels durationLabels
  cases verdict unicode inv with
  | pass =>
      simp only
      by_cases hstop : Stopped older
      · simp only [p, hstopped, decide_eq_true hstop, if_true, if_pos hstop]
        exact ⟨rfl, rfl, rfl, rfl⟩
      · have hskips : (servedState unicode inv p).loserSkips = p.loserSkips := by
          unfold servedState
          cases postureOf unicode inv.spec <;> rfl
        have hdurations : (servedState unicode inv p).tickDurations = p.tickDurations := by
          unfold servedState
          cases postureOf unicode inv.spec <;> rfl
        simp only [p, hstopped, decide_eq_false hstop, Bool.false_eq_true, if_false, if_neg hstop]
        rw [hskips, hdurations, oscm_servedState]
        unfold oscmAfter
        refine ⟨?_, ?_, rfl, rfl⟩
        · rcases attempted unicode inv with _ | guarded
          · rfl
          · cases guarded <;> rfl
        · rcases attempted unicode inv with _ | guarded
          · rfl
          · cases guarded with
            | skipped exc =>
                simp only [skipTick]
                split <;> rfl
            | _ => rfl
  | _ => exact ⟨rfl, rfl, rfl, rfl⟩

theorem getD_counted {labels : Type} [DecidableEq labels] (counter : Dict labels Nat)
    (found : Option labels) (l : labels) :
    ((counted counter found).get? l).getD 0 =
      (counter.get? l).getD 0 + (decide (found = some l)).toNat := by
  cases found with
  | none => rw [decide_eq_false (Option.some_ne_none l).symm, Bool.toNat_false]; rfl
  | some k =>
      by_cases h : k = l
      · rw [h, decide_eq_true rfl, counted, Dict.increment, Dict.get?_set_self]
        rfl
      · have hne : some k ≠ some l := fun heq => h (Option.some.inj heq)
        rw [decide_eq_false hne, counted, Dict.increment, Dict.get?_set_of_ne _ _ (Ne.symm h)]
        rfl

theorem counter_eq_timesCounted {labels : Type} [DecidableEq labels]
    (counter : TimerProcess -> Dict labels Nat)
    (labelsOf : Invocation -> List Step -> Option labels) (hnil : counter {} = .empty)
    (hother : forall e p, counter (step unicode (.watch e) p) = counter p ∧
      counter (step unicode .sigterm p) = counter p)
    (htimer : forall inv older, counter (stateAfter unicode (.timer inv :: older)) =
      counted (counter (stateAfter unicode older)) (labelsOf inv older))
    (history : List Step) (l : labels) :
    ((counter (stateAfter unicode history)).get? l).getD 0 = timesCounted labelsOf l history := by
  refine @counter_eq_occurrences _ _
    (fun history => ((counter (stateAfter unicode history)).get? l).getD 0) ?_ ?_ history
  · show ((counter {}).get? l).getD 0 = 0
    rw [hnil]
    rfl
  · intro s older
    cases s with
    | timer inv => rw [htimer, getD_counted]
    | watch e =>
        show ((counter (step unicode (.watch e) _)).get? l).getD 0 = _
        rw [(hother e _).1]
        rfl
    | sigterm =>
        show ((counter (step unicode .sigterm _)).get? l).getD 0 = _
        rw [(hother ⟨none, "", "", .null, false⟩ _).2]
        rfl

/-- The counters have counted every call of a run once under its labels: the ticks that
failed at the gate or in the handler, the reads that Redis did not answer, the calls for
other resources than the oldest, and the calls let pass. -/
theorem tick_counters_exact (history : List Step) :
    (forall l, ((stateAfter unicode history).oscm.metrics.tickFailures.get? l).getD 0 =
      timesCounted (failureLabels unicode) l history) ∧
      (forall l, ((stateAfter unicode history).oscm.metrics.redisUnreachable.get? l).getD 0 =
        timesCounted (unreachableLabels unicode) l history) ∧
      (forall l, ((stateAfter unicode history).loserSkips.get? l).getD 0 =
        timesCounted (fun inv _ => loserSkipLabels unicode inv) l history) ∧
      forall l, ((stateAfter unicode history).tickDurations.get? l).getD 0 =
        timesCounted (fun inv _ => durationLabels unicode inv) l history :=
  ⟨fun l => counter_eq_timesCounted (fun p => p.oscm.metrics.tickFailures) _ rfl
      (fun _ _ => ⟨rfl, rfl⟩) (fun _ _ => counters_timer.1) history l,
    fun l => counter_eq_timesCounted (fun p => p.oscm.metrics.redisUnreachable) _ rfl
      (fun _ _ => ⟨rfl, rfl⟩) (fun _ _ => counters_timer.2.1) history l,
    fun l => counter_eq_timesCounted (fun p => p.loserSkips) _ rfl
      (fun _ _ => ⟨rfl, rfl⟩) (fun _ _ => counters_timer.2.2.1) history l,
    fun l => counter_eq_timesCounted (fun p => p.tickDurations) _ rfl
      (fun _ _ => ⟨rfl, rfl⟩) (fun _ _ => counters_timer.2.2.2) history l⟩

end Counters

/-!
## The gauge that two handlers write

The audit sets the dry-run gauge at a change, and only after its event has been emitted.
-/

section DryRunGauge

variable {unicode : UnicodeData} {key : CrKey}

open DryRunAudit (lastShown lastShown_cons_of_shows lastShown_cons_of_not_shows
  lastDryRun_of_shows get?_of_not_shows audit_of_shows)

def watchEvents (history : List Step) : List DryRunAudit.WatchEvent :=
  history.filterMap fun s =>
    match s with
    | .watch e => some e
    | _ => none

/-- The value of the resource at its last watch event. -/
def lastWatched (unicode : UnicodeData) (key : CrKey) (history : List Step) : Option Bool :=
  lastShown unicode key (watchEvents history)

theorem dryRunActive_of_shows {e : DryRunAudit.WatchEvent} {v : Bool} (state : AuditState)
    (h : e.Shows unicode key v) :
    (dryRunToggleAudit unicode e state).2.dryRunActive.get? key =
      if state.lastDryRun.get? key = some (!v) ∧ e.emitRaises = false then some v
      else state.dryRunActive.get? key := by
  rw [audit_of_shows h]
  simp only [DryRunAudit.recordDryRunTransition, h.2.1, h.2.2]
  cases state.lastDryRun.get? key with
  | none => rfl
  | some previous =>
      cases e.emitRaises with
      | true => cases previous <;> cases v <;> rfl
      | false =>
          cases previous <;> cases v
          · rfl
          · exact Dict.get?_set_self _ _ _
          · exact Dict.get?_set_self _ _ _
          · rfl

theorem dryRunActive_of_not_shows {e : DryRunAudit.WatchEvent} (state : AuditState)
    (h : forall v, ¬ e.Shows unicode key v) :
    (dryRunToggleAudit unicode e state).2.dryRunActive.get? key =
      state.dryRunActive.get? key := by
  by_cases htype : e.type = some "DELETED"
  · unfold dryRunToggleAudit
    rw [if_pos htype]
  · cases hkey : DryRunAudit.keyOf unicode e.body with
    | none => simp only [dryRunToggleAudit, if_neg htype, DryRunAudit.recordDryRunTransition, hkey]
    | some key' =>
        have hne : key ≠ key' := by
          intro heq
          rw [← heq] at hkey
          exact h _ ⟨htype, hkey, rfl⟩
        simp only [dryRunToggleAudit, if_neg htype, DryRunAudit.recordDryRunTransition, hkey]
        cases state.lastDryRun.get? key' with
        | none => rfl
        | some previous =>
            simp only
            split
            · rfl
            · split
              · rfl
              · exact Dict.get?_set_of_ne _ _ hne

/-- A call that is served for the resource carries the value last watched; the watch does
not lose the resource, and the event of a change is emitted. -/
def InStep (unicode : UnicodeData) (key : CrKey) (s : Step) (older : List Step) : Prop :=
  match s with
  | .timer inv => inv.key = key -> Served unicode inv older ->
      lastWatched unicode key older = some (truthyAt inv.spec "dryRun" false)
  | .watch e => ¬ e.deletes key ∧ DryRunAudit.Emits unicode key e (watchEvents older)
  | .sigterm => True

/-- What the process knows of the resource is the value last watched. -/
structure Knows (unicode : UnicodeData) (key : CrKey) (history : List Step) : Prop where
  last : (stateAfter unicode history).audit.lastDryRun.get? key = lastWatched unicode key history
  gauge : forall v, (stateAfter unicode history).audit.dryRunActive.get? key = some v ->
    lastWatched unicode key history = some v
  stamped : (lastServed unicode (fun inv => inv.key = key) history).isSome = true ->
    ((stateAfter unicode history).audit.dryRunActive.get? key).isSome = true

theorem knows_watch {e : DryRunAudit.WatchEvent} {older : List Step}
    (h : Knows unicode key older) (hdeletes : ¬ e.deletes key)
    (hemits : DryRunAudit.Emits unicode key e (watchEvents older)) :
    Knows unicode key (.watch e :: older) := by
  have hserved : lastServed unicode (fun inv => inv.key = key) (.watch e :: older) =
      lastServed unicode (fun inv => inv.key = key) older := lastSet_cons_of_none rfl
  by_cases hshows : exists v, e.Shows unicode key v
  · rcases hshows with ⟨v, hv⟩
    have hlast : lastWatched unicode key (.watch e :: older) = some v :=
      lastShown_cons_of_shows hv
    have hactive := dryRunActive_of_shows (stateAfter unicode older).audit hv
    refine ⟨?_, ?_, ?_⟩
    · rw [hlast]
      show (dryRunToggleAudit unicode e _).2.lastDryRun.get? key = _
      rw [lastDryRun_of_shows hv, Dict.get?_set_self]
    · intro w hw
      rw [hlast]
      have hw' : (dryRunToggleAudit unicode e (stateAfter unicode older).audit).2.dryRunActive.get?
          key = some w := hw
      rw [hactive] at hw'
      split at hw'
      · exact hw'
      · rename_i hsame
        -- the value has not changed, as a change would have been emitted
        have hold := h.gauge w hw'
        by_cases hvw : w = v
        · rw [hvw]
        · have hflip : w = !v := by
            revert hvw
            cases w <;> cases v <;> decide
          rw [hflip] at hold
          exact absurd ⟨h.last.trans hold, hemits v hv hold⟩ hsame
    · intro hsome
      rw [hserved] at hsome
      show ((dryRunToggleAudit unicode e _).2.dryRunActive.get? key).isSome = true
      rw [hactive]
      split
      · rfl
      · exact h.stamped hsome
  · have hnone : forall v, ¬ e.Shows unicode key v := fun v hv => hshows ⟨v, hv⟩
    have hlast : lastWatched unicode key (.watch e :: older) = lastWatched unicode key older :=
      lastShown_cons_of_not_shows hnone
    have hactive := dryRunActive_of_not_shows (stateAfter unicode older).audit hnone
    refine ⟨?_, ?_, ?_⟩
    · rw [hlast, ← h.last]
      exact get?_of_not_shows hnone hdeletes
    · intro w hw
      rw [hlast]
      exact h.gauge w (hactive.symm.trans hw)
    · intro hsome
      rw [hserved] at hsome
      show ((dryRunToggleAudit unicode e _).2.dryRunActive.get? key).isSome = true
      rw [hactive]
      exact h.stamped hsome

theorem knows_timer {inv : Invocation} {older : List Step} (h : Knows unicode key older)
    (haccepted : Spec.specSchema (.obj inv.spec) = true)
    (hcarries : inv.key = key -> Served unicode inv older ->
      lastWatched unicode key older = some (truthyAt inv.spec "dryRun" false)) :
    Knows unicode key (.timer inv :: older) := by
  have hlast : lastWatched unicode key (.timer inv :: older) = lastWatched unicode key older := rfl
  have hstep := @gaugesOf_timer unicode inv older
  rw [stampedPosture_of_accepted haccepted] at hstep
  by_cases hserved : Served unicode inv older
  · rw [if_pos hserved] at hstep
    have haudit : (stateAfter unicode (.timer inv :: older)).audit =
        { (stateAfter unicode older).audit with
          dryRunActive := (stateAfter unicode older).audit.dryRunActive.set inv.key
            (truthyAt inv.spec "dryRun" false) } := congrArg (fun g => g.2.1) hstep
    have hactive : (stateAfter unicode (.timer inv :: older)).audit.dryRunActive.get? key =
        if decide (inv.key = key) = true then some (truthyAt inv.spec "dryRun" false)
        else (stateAfter unicode older).audit.dryRunActive.get? key := by
      rw [haudit]
      exact get?_set_key _ _ _ _
    refine ⟨?_, ?_, ?_⟩
    · rw [hlast, haudit]
      exact h.last
    · intro w hw
      rw [hactive] at hw
      rw [hlast]
      by_cases hkey : inv.key = key
      · rw [if_pos (decide_eq_true hkey)] at hw
        rw [hcarries hkey hserved, hw]
      · rw [if_neg (by rw [decide_eq_false hkey]; exact Bool.false_ne_true)] at hw
        exact h.gauge w hw
    · intro hsome
      rw [hactive]
      by_cases hkey : inv.key = key
      · rw [if_pos (decide_eq_true hkey)]
        rfl
      · rw [if_neg (by rw [decide_eq_false hkey]; exact Bool.false_ne_true)]
        apply h.stamped
        unfold lastServed at hsome ⊢
        rw [lastSet_cons_of_none (if_neg fun hand => hkey (of_decide_eq_true hand.2))] at hsome
        exact hsome
  · rw [if_neg hserved] at hstep
    have haudit : (stateAfter unicode (.timer inv :: older)).audit =
        (stateAfter unicode older).audit := congrArg (fun g => g.2.1) hstep
    refine ⟨?_, ?_, ?_⟩
    · rw [hlast, haudit]
      exact h.last
    · rw [hlast, haudit]
      exact h.gauge
    · intro hsome
      rw [haudit]
      apply h.stamped
      unfold lastServed at hsome ⊢
      rw [lastSet_cons_of_none (if_neg fun hand => hserved hand.1)] at hsome
      exact hsome

/-- Calls and watch events of a resource leave the dry-run gauge at the value that was
watched last, in whatever order they come. -/
theorem dry_run_gauge_truthful (history : List Step) (haccepted : Accepted history)
    (hinstep : Throughout (InStep unicode key) history) :
    (forall v, (stateAfter unicode history).audit.dryRunActive.get? key = some v ->
      lastWatched unicode key history = some v) ∧
      ((lastServed unicode (fun inv => inv.key = key) history).isSome = true ->
        (stateAfter unicode history).audit.dryRunActive.get? key =
          lastWatched unicode key history) := by
  have hknows : Knows unicode key history := by
    induction hinstep with
    | nil => exact ⟨rfl, fun _ h => (nomatch h), fun h => (nomatch h)⟩
    | @cons s older hs _ ih =>
        have hold := ih fun inv hinv => haccepted inv (List.mem_cons_of_mem s hinv)
        cases s with
        | sigterm => exact ⟨hold.last, hold.gauge, hold.stamped⟩
        | watch e => exact knows_watch hold hs.1 hs.2
        | timer inv => exact knows_timer hold (haccepted inv List.mem_cons_self) hs
  refine ⟨hknows.gauge, ?_⟩
  intro hserved
  rcases Option.isSome_iff_exists.mp (hknows.stamped hserved) with ⟨v, hv⟩
  rw [hv, hknows.gauge v hv]

/-- A watch event that shows the dry run. -/
def watchedDryRun (dryRun : Bool) : DryRunAudit.WatchEvent where
  type := some "MODIFIED"
  crNamespace := "energy"
  name := "oscm"
  body := .obj [("metadata", .obj [("name", .str "oscm"), ("namespace", .str "energy")]),
    ("spec", .obj [("dryRun", .bool dryRun)])]
  emitRaises := false

/-- The dry run is switched on, and the recycler is called. -/
def switchedRun : List Step :=
  .timer (callAt .workerRecycler 4 (.ok [servedCr])) :: .watch (watchedDryRun true) ::
    [.watch (watchedDryRun false)]

theorem dry_run_gauge_truthful_switchedRun :
    (stateAfter UnicodeData.ascii switchedRun).audit.dryRunActive.get? ("energy", "oscm") =
      lastWatched UnicodeData.ascii ("energy", "oscm") switchedRun := by
  have haccepted : Accepted switchedRun := by
    intro inv hinv
    have hspec : inv.spec = servedSpec := by
      simp only [switchedRun, List.mem_cons, Step.timer.injEq, List.not_mem_nil, or_false,
        reduceCtorEq] at hinv
      rw [hinv]
      rfl
    rw [hspec]
    decide +kernel
  have hinstep : Throughout (InStep UnicodeData.ascii ("energy", "oscm")) switchedRun := by
    refine .cons ?_ (.cons ⟨?_, ?_⟩ (.cons ⟨?_, ?_⟩ .nil))
    · intro _ _
      decide +kernel
    · exact fun h => nomatch h.1
    · exact fun _ _ _ => rfl
    · exact fun h => nomatch h.1
    · exact fun _ _ _ => rfl
  exact (dry_run_gauge_truthful switchedRun haccepted hinstep).2 (by decide +kernel)

end DryRunGauge

end TimerTicks
end OpenStudioOperator
