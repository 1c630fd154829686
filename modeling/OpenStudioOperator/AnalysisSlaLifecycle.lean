import OpenStudioOperator.AnalysisSlaLaw

/-!
# The lifecycle of a soft-stop anchor

In which order an anchor goes through its stages, and how old it is when its
analysis is soft-stopped and escalated.
-/

namespace OpenStudioOperator

open Foundation

/-!
## Order of the stages
-/

inductive Stage where
  | watching
  | softStopped
  | escalated
deriving DecidableEq, Repr

def SoftStopRecord.stage (record : SoftStopRecord) : Stage :=
  if record.escalatedAt.isSome then .escalated
  else if record.outcome = .watching then .watching
  else .softStopped

/-- The moves of a stored anchor that keep the order of the stages. -/
inductive Stage.Next : Stage -> Stage -> Prop where
  | stay (stage : Stage) : Stage.Next stage stage
  | softStop : Stage.Next .watching .softStopped
  | escalate : Stage.Next .softStopped .escalated

/-- The call stored a soft stop of `id`. -/
def StoresSoftStop (id : String) (e : Entry) : Prop :=
  e.event.RecordsSoftStop id ∧ Present id e

/-- What the order of the lifecycle asks of one call and its history. -/
structure LifecycleOrder (initial : Status) (id : String) (e : Entry)
    (older : Trace) : Prop where
  ordered : forall record record', anchorAt initial id older = some record ->
    softStopsField.entry id e.status = some record' ->
      Stage.Next record.stage record'.stage
  /-- An escalation finds a soft-stopped anchor when its tick opens: the soft
  stop was stored on an earlier tick and the anchor has been there since. -/
  escalation : e.event.Escalates id ->
    exists record, anchorAt initial id (beforeTick older) = some record ∧
      (record.outcome = .issued ∨ record.outcome = .dryRun) ∧
      Since (Present id) (StoresSoftStop id) (beforeTick older)
  /-- A soft stop is stored right after it was issued, or withheld, and
  announced. -/
  recorded : e.event.RecordsSoftStop id ->
    exists announced act rest, older = announced :: act :: rest ∧
      (act.event = .mutate (.softStopAnalysis id) (.ok ()) ∨
        act.event = .suppressed (.softStopAnalysis id))

theorem throughout_beforeTick {p : Entry -> Trace -> Prop} :
    forall {trace : Trace}, Throughout p trace -> Throughout p (beforeTick trace)
  | [], h => h
  | e :: older, h => by
      unfold beforeTick
      split
      · exact h.tail
      · exact throughout_beforeTick h.tail

theorem ne_watching_of_softStopped {record : SoftStopRecord}
    (h : record.outcome = .issued ∨ record.outcome = .dryRun) : record.outcome ≠ .watching := by
  rcases h with hissued | hdry
  · rw [hissued]
    exact SoftStopOutcome.noConfusion
  · rw [hdry]
    exact SoftStopOutcome.noConfusion

section Order

variable {R : SoftStopRecord -> Prop} {initial : Status} {id : String}

/-- A stored anchor is watching, or a soft stop of it was stored and it has
been there since. -/
theorem softStop_stored_of_law (hnew : softStopsField.entry id initial = none) :
    forall {trace : Trace}, Throughout (AnchorLaw R initial id) trace ->
      forall record, anchorAt initial id trace = some record ->
        record.outcome = .watching ∨
          ((record.outcome = .issued ∨ record.outcome = .dryRun) ∧
            Since (Present id) (StoresSoftStop id) trace) := by
  intro trace
  induction trace with
  | nil =>
      intro _ record hget
      unfold anchorAt latestStatus at hget
      rw [hnew] at hget
      exact absurd hget (by simp)
  | cons e older ih =>
      intro hlaw record hget
      have hpresent : Present id e := by
        unfold Present
        rw [show softStopsField.entry id e.status = some record from hget]
        rfl
      have hmove := hlaw.head.move
      have holder := ih hlaw.tail
      rw [show softStopsField.entry id e.status = some record from hget] at hmove
      generalize hevent : e.event = event at hmove
      generalize hbefore : anchorAt initial id older = before at hmove holder
      cases hmove with
      | same _ _ =>
          rcases holder record rfl with hwatching | ⟨hsoft, hsince⟩
          · exact Or.inl hwatching
          · exact Or.inr ⟨hsoft, .later hpresent hsince⟩
      | created _ now => exact Or.inl rfl
      | softStopped r old new hwatching _ houtcome =>
          refine Or.inr ⟨houtcome, .here ⟨?_, hpresent⟩⟩
          rw [hevent]
          exact ⟨rfl, ne_watching_of_softStopped houtcome⟩
      | restored r new houtcome _ =>
          refine Or.inr ⟨houtcome, .here ⟨?_, hpresent⟩⟩
          rw [hevent]
          exact ⟨rfl, ne_watching_of_softStopped houtcome⟩
      | escalated r old now outcome _ _ =>
          rcases holder old rfl with hwatching | ⟨hsoft, hsince⟩
          · exact Or.inl hwatching
          · exact Or.inr ⟨hsoft, .later hpresent hsince⟩

theorem stage_next_of_move {event : Event} {record record' : SoftStopRecord}
    (hR : forall record, R record -> record.outcome ≠ .watching)
    (h : AnchorMove R id event (some record) (some record')) :
    Stage.Next record.stage record'.stage := by
  cases h with
  | same _ _ => exact .stay _
  | softStopped r _ new hwatching hunescalated houtcome =>
      have hbefore : record.stage = .watching := by
        simp [SoftStopRecord.stage, hunescalated, hwatching]
      have hafter : SoftStopRecord.stage { record with outcome := new.outcome } =
          .softStopped := by
        rcases houtcome with hissued | hdry
        · simp [SoftStopRecord.stage, hunescalated, hissued]
        · simp [SoftStopRecord.stage, hunescalated, hdry]
      rw [hbefore, hafter]
      exact .softStop
  | escalated r _ now outcome hunescalated hrecord =>
      have hbefore : record.stage = .softStopped := by
        simp [SoftStopRecord.stage, hunescalated, hR record hrecord]
      have hafter : (record.stamp now outcome).stage = .escalated := rfl
      rw [hbefore, hafter]
      exact .escalate

theorem lifecycleOrder_of_law (hnew : softStopsField.entry id initial = none)
    (hR : forall record, R record -> record.outcome ≠ .watching) :
    forall {trace : Trace}, Throughout (AnchorLaw R initial id) trace ->
      Throughout (LifecycleOrder initial id) trace := by
  intro trace
  induction trace with
  | nil =>
      intro _
      exact .nil
  | cons e older ih =>
      intro hlaw
      refine .cons ?_ (ih hlaw.tail)
      constructor
      · intro record record' hbefore hafter
        have hmove := hlaw.head.move
        rw [hbefore, hafter] at hmove
        exact stage_next_of_move hR hmove
      · intro hescalates
        rcases hlaw.head.escalation hescalates with ⟨config, record, hacts, hrecord, _⟩
        have hopened := softStop_stored_of_law hnew (throughout_beforeTick hlaw.tail) record
          hacts.opening
        rcases hopened with hwatching | ⟨hsoft, hsince⟩
        · exact absurd hwatching (hR record hrecord)
        · exact ⟨record, hacts.opening, hsoft, hsince⟩
      · exact hlaw.head.recorded

end Order

/-- The tick finds a merely watched anchor of `id` past the grace but within
the runtime limit. -/
def WatchedPastGrace (id : String) (t : Tick) (w : World) : Prop :=
  exists record, record ∈ softStopsField.entry id w.status ∧
    record.outcome = .watching ∧ record.escalatedAt = none ∧
    t.config.analysisPolicy.autoSoftStop = true ∧
    graceOf t < t.env.now - record.issuedAt ∧
    t.env.now - record.issuedAt <= maxRuntimeOf t

instance (id : String) (t : Tick) (w : World) : Decidable (WatchedPastGrace id t w) :=
  inferInstanceAs (Decidable (exists record, record ∈ _ ∧ _))

/-- The tick sees such an anchor's analysis still started. -/
def EscalatesWatched (id : String) (t : Tick) (w : World) : Prop :=
  WatchedPastGrace id t w ∧ t.env.MayReportStarted id

theorem escalatesOnly_of_not_escalatesWatched {id : String} {t : Tick} {w : World}
    (hleaves : t.env.Leaves (softStopsField.entry id))
    (h : ¬ EscalatesWatched id t w) :
    EscalatesOnly (fun record => record.outcome ≠ .watching) id t w := by
  refine ⟨hleaves, ?_⟩
  intro record hentry hactive hreported hunescalated hgrace hnotDue hwatching
  apply h
  refine ⟨⟨record, hentry, hwatching, hunescalated, hactive, hgrace, ?_⟩, hreported⟩
  exact Int.not_lt.mp fun hover => hnotDue ⟨hwatching, hover⟩

/-- In every run in which no tick escalates a merely watched anchor of `id`,
the stages of its anchor come in order and an escalation always follows a soft
stop of an earlier tick. -/
theorem sla_lifecycle_ordered (ticks : List Tick) (status : Status) (id : String)
    (hnew : softStopsField.entry id status = none)
    (hleaves : forall t, t ∈ ticks -> t.env.Leaves (softStopsField.entry id))
    (hnever : EveryTick runSlaTick (fun t w => ¬ EscalatesWatched id t w) ticks
      { status := status }) :
    Throughout (LifecycleOrder status id)
      (runTicks runSlaTick ticks { status := status }).trace := by
  apply lifecycleOrder_of_law hnew
  · intro record hrecord
    exact hrecord
  · apply runSlaTicks_anchorLaw
    apply hnever.mono
    intro t w ht hcond
    exact escalatesOnly_of_not_escalatesWatched (hleaves t ht) hcond

/-- A tick that sees the analysis `a` started, worked on by `pod-1`. -/
def startedTick (policy : AnalysisPolicy) (minute : Nat) : Tick where
  env :=
    { Env.quiet (minutes minute) with
      listAnalyses := fun _ => .ok [{ id := some "a" }]
      getAnalysisStatus := fun _ _ =>
        .ok (some { analysis := some { status := some "started" } })
      workersForAnalysis := fun _ _ => .ok ["pod-1:7:simulations"]
      listPods := fun _ => .ok [some "pod-1"] }
  config := { analysisPolicy := policy }

def startedRun (policy : AnalysisPolicy) (minutesOfTicks : List Nat) : Trace :=
  (runTicks runSlaTick (minutesOfTicks.map (startedTick policy)) {}).trace

theorem startedTick_leaves {part : Type} (view : Status -> part)
    (policy : AnalysisPolicy) (minutesOfTicks : List Nat) :
    forall t, t ∈ minutesOfTicks.map (startedTick policy) -> t.env.Leaves view := by
  intro t ht trace op n s
  rw [List.mem_map] at ht
  rcases ht with ⟨minute, _, hminute⟩
  rw [← hminute]
  exact ⟨rfl, rfl⟩

/-- First sight, soft stop past the limit, escalation. -/
theorem sla_lifecycle_ordered_default :
    Throughout (LifecycleOrder {} "a") (startedRun {} [0, 181, 200]) := by
  have hwindow : EveryTick runSlaTick (fun t w => ¬ WatchedPastGrace "a" t w)
      ([0, 181, 200].map (startedTick {})) {} := by decide +kernel
  have hnever : EveryTick runSlaTick (fun t w => ¬ EscalatesWatched "a" t w)
      ([0, 181, 200].map (startedTick {})) {} :=
    hwindow.mono fun t w _ hnot hescalates => hnot hescalates.1
  unfold startedRun
  exact sla_lifecycle_ordered ([0, 181, 200].map (startedTick {})) {} "a" rfl
    (startedTick_leaves _ {} [0, 181, 200]) hnever

def shortPolicy : AnalysisPolicy where
  maxDurationMinutes := 3
  gracefulStopTimeoutMinutes := 1

/-- Two minutes after its first sight, within the limit of three, the analysis
loses its worker pod although no soft stop was ever issued. -/
theorem sla_escalates_watched_anchor :
    shortPolicy.Admitted ∧
    (exists newer e older,
      startedRun shortPolicy [0, 2] = newer ++ e :: older ∧
      e.event = .mutate (.deletePod "a" "pod-1" none) (.ok ()) ∧
      anchorAt {} "a" (beforeTick older) = some (freshAnchor 0)) ∧
    ¬ Throughout (LifecycleOrder {} "a") (startedRun shortPolicy [0, 2]) := by
  have hevent : ((startedRun shortPolicy [0, 2])[2]?).map Entry.event =
      some (.mutate (.deletePod "a" "pod-1" none) (.ok ())) := by decide +kernel
  have hopening : anchorAt {} "a"
      (beforeTick ((startedRun shortPolicy [0, 2]).drop 3)) =
        some (freshAnchor 0) := by decide +kernel
  rw [Option.map_eq_some_iff] at hevent
  rcases hevent with ⟨e, he, hevent⟩
  have hsplit := eq_take_cons_drop he
  refine ⟨by decide, ⟨_, e, _, hsplit, hevent, hopening⟩, ?_⟩
  intro hordered
  rw [hsplit] at hordered
  have hescalates : e.event.Escalates "a" := by
    rw [hevent]
    rfl
  rcases (hordered.of_split _).escalation hescalates with ⟨record, hrecord, hsoft, _⟩
  rw [hopening, Option.some.injEq] at hrecord
  rw [← hrecord] at hsoft
  exact absurd hsoft (by decide)

/-!
## Where the grace is counted from
-/

section Grace

variable {R : SoftStopRecord -> Prop} {K : OperatorConfig -> Prop}
variable {initial : Status} {id : String} {e act : Entry} {between rest : Trace}

/-- The anchor that a soft stop acts on is the one still stored after it. -/
theorem softStop_acts_on_stored (hlaw : AnchorLaw R initial id act rest)
    (hact : act.event.SoftStops id) (hpresent : Present id act) :
    exists config record, ActsOn initial id rest config record ∧
      softStopsField.entry id act.status = some record ∧
      record.outcome = .watching ∧
      minutes config.analysisPolicy.maxDurationMinutes < act.time - record.issuedAt := by
  rcases hlaw.softStop hact with ⟨config, record, hacts, hwatching, hover⟩
  rcases Option.isSome_iff_exists.mp hpresent with ⟨stored, hstored⟩
  have hmove := hlaw.move
  rw [hstored] at hmove
  have hkept : anchorAt initial id rest = some stored := by
    apply hmove.kept
    · intro new r hevent
      rw [hevent] at hact
      exact hact
    · intro now outcome r hevent
      rw [hevent] at hact
      exact hact
  have hsame : stored = record := by
    rcases hacts.now with hnow | hnow
    · rw [hkept] at hnow
      exact Option.some.inj hnow
    · rw [hkept] at hnow
      cases hnow
  rw [hsame] at hstored
  exact ⟨config, record, hacts, hstored, hwatching, hover⟩

/-- The tick that soft-stops an anchor does not escalate it too. -/
theorem softStop_on_earlier_tick
    (htick : Throughout (TickLaw K) (e :: (between ++ act :: rest)))
    (hlaw : Throughout (AnchorLaw R initial id) (e :: (between ++ act :: rest)))
    (hescalates : e.event.Escalates id) (hact : act.event.SoftStops id) :
    exists earlier, beforeTick (between ++ act :: rest) = earlier ++ act :: rest ∧
      forall x, x ∈ earlier -> x ∈ between := by
  rcases beforeTick_block (act :: rest) between with hsame | hearlier
  · exfalso
    have hactEvent : forall config, act.event ≠ .tickStart config := by
      intro config hevent
      rw [hevent] at hact
      exact hact
    have hescEvent : forall config, e.event ≠ .tickStart config := by
      intro config hevent
      rw [hevent] at hescalates
      exact hescalates
    have hactTick := htick.tail.of_split between
    have hactLaw := hlaw.tail.of_split between
    rcases hactLaw.softStop hact with ⟨config, record, hacts, hwatching, hover⟩
    rcases hlaw.head.escalation hescalates with
      ⟨config', record', hacts', _, _, hnotDue⟩
    have hconfig : config' = config := by
      have hcurrent := hacts'.config
      rw [currentConfig_append hsame, currentConfig_cons hactEvent, hacts.config] at hcurrent
      exact (Option.some.inj hcurrent).symm
    have hrecord : record' = record := by
      have hopening := hacts'.opening
      rw [beforeTick_append hsame, beforeTick_cons hactEvent, hacts.opening] at hopening
      exact (Option.some.inj hopening).symm
    have htime : e.time = act.time := by
      have hnow := htick.head.time hescEvent
      rw [tickTime_append hsame, tickTime_cons hactEvent,
        hactTick.time hactEvent] at hnow
      exact (Option.some.inj hnow).symm
    apply hnotDue
    rw [hrecord, hconfig, htime]
    exact ⟨hwatching, hover⟩
  · exact hearlier

end Grace

/-- Within one lifetime of the anchor of `id`, an escalation after a soft stop
comes on a later tick, and both the limit and the grace are counted from the
one instant that the anchor stores. -/
theorem sla_grace_counts_from_first_sight (ticks : List Tick) (status : Status)
    (id : String) (policy : AnalysisPolicy)
    (hpolicy : forall t, t ∈ ticks -> t.config.analysisPolicy = policy)
    (hleaves : forall t, t ∈ ticks -> t.env.Leaves (softStopsField.entry id))
    (newer between rest : Trace) (e act : Entry)
    (htrace : (runTicks runSlaTick ticks { status := status }).trace =
      newer ++ e :: (between ++ act :: rest))
    (hescalates : e.event.Escalates id) (hact : act.event.SoftStops id)
    (hlife : forall x, x ∈ act :: between -> Present id x) :
    (exists earlier, beforeTick (between ++ act :: rest) = earlier ++ act :: rest) ∧
      exists record, softStopsField.entry id act.status = some record ∧
        minutes policy.maxDurationMinutes < act.time - record.issuedAt ∧
        minutes policy.gracefulStopTimeoutMinutes < e.time - record.issuedAt := by
  have hlaw : Throughout (AnchorLaw (fun _ => True) status id)
      (runTicks runSlaTick ticks { status := status }).trace :=
    runSlaTicks_anchorLaw (escalatesOnly_of_leaves hleaves)
  have htick : Throughout (TickLaw fun config => config.analysisPolicy = policy)
      (runTicks runSlaTick ticks { status := status }).trace :=
    runSlaTicks_tickLaw hpolicy
  rw [htrace] at hlaw htick
  have hlaw := hlaw.of_append newer
  have htick := htick.of_append newer
  rcases softStop_on_earlier_tick htick hlaw hescalates hact with
    ⟨earlier, hearlier, hbetween⟩
  refine ⟨⟨earlier, hearlier⟩, ?_⟩
  have hactLaw := hlaw.tail.of_append between
  rcases softStop_acts_on_stored hactLaw.head hact (hlife act List.mem_cons_self) with
    ⟨config, record, hacts, hstored, _, hover⟩
  rcases hlaw.head.escalation hescalates with ⟨config', opened, hacts', _, hgrace, _⟩
  have hclock : opened.issuedAt = record.issuedAt := by
    have hopening := hacts'.opening
    have hlawOpening := throughout_beforeTick hlaw.tail
    rw [hearlier] at hopening hlawOpening
    have hanchor : anchorAt status id (act :: rest) = some record := hstored
    rcases issuedAt_of_present hanchor earlier hlawOpening
      (fun x hx => hlife x (List.mem_cons_of_mem act (hbetween x hx))) with
      ⟨kept, hkept, hclock⟩
    rw [hopening] at hkept
    rw [Option.some.inj hkept]
    exact hclock
  have hpolicyAct : config.analysisPolicy = policy :=
    TickLaw.currentConfig (htick.tail.of_append between).tail hacts.config
  have hpolicyEsc : config'.analysisPolicy = policy :=
    TickLaw.currentConfig htick.tail hacts'.config
  rw [hpolicyAct] at hover
  rw [hpolicyEsc, hclock] at hgrace
  exact ⟨record, hstored, hover, hgrace⟩

/-- Under the default policy (limit 180, grace 15) the analysis is soft-stopped
at minute 181 and loses its pod at minute 182. -/
theorem startedRun_softStop_then_escalation :
    exists newer e between act rest,
      startedRun {} [0, 181, 182] = newer ++ e :: (between ++ act :: rest) ∧
      (e.event, e.time) =
        (.mutate (.deletePod "a" "pod-1" none) (.ok ()), minutes 182) ∧
      (act.event, act.time) =
        (.mutate (.softStopAnalysis "a") (.ok ()), minutes 181) ∧
      (forall x, x ∈ act :: between -> Present "a" x) := by
  have hescalation : ((startedRun {} [0, 181, 182])[2]?).map
      (fun e => (e.event, e.time)) =
        some (.mutate (.deletePod "a" "pod-1" none) (.ok ()), minutes 182) := by
    decide +kernel
  have hsoftStop : (((startedRun {} [0, 181, 182]).drop 3)[15]?).map
      (fun e => (e.event, e.time)) =
        some (.mutate (.softStopAnalysis "a") (.ok ()), minutes 181) := by
    decide +kernel
  have hpresent : (((startedRun {} [0, 181, 182]).drop 3).take 16).all
      (fun x => (softStopsField.entry "a" x.status).isSome) = true := by
    decide +kernel
  rw [Option.map_eq_some_iff] at hescalation hsoftStop
  rcases hescalation with ⟨e, he, hescalation⟩
  rcases hsoftStop with ⟨act, hact, hsoftStop⟩
  have hsplit := eq_take_cons_drop he
  rw [eq_take_cons_drop hact] at hsplit
  refine ⟨_, e, _, act, _, hsplit, hescalation, hsoftStop, ?_⟩
  intro x hx
  rw [List.all_eq_true] at hpresent
  apply hpresent x
  rw [List.take_add_one, hact, List.mem_append]
  rcases List.mem_cons.mp hx with heq | hbetween
  · rw [heq]
    exact Or.inr (List.mem_singleton_self act)
  · exact Or.inl hbetween

theorem sla_grace_counts_from_first_sight_default :
    exists newer e between act rest,
      startedRun {} [0, 181, 182] = newer ++ e :: (between ++ act :: rest) ∧
      (exists earlier, beforeTick (between ++ act :: rest) = earlier ++ act :: rest) ∧
      exists record, softStopsField.entry "a" act.status = some record ∧
        minutes 180 < act.time - record.issuedAt ∧
        minutes 15 < e.time - record.issuedAt := by
  rcases startedRun_softStop_then_escalation with
    ⟨newer, e, between, act, rest, htrace, he, hact, hlife⟩
  rw [Prod.mk.injEq] at he hact
  have hpolicy : forall t, t ∈ [0, 181, 182].map (startedTick {}) ->
      t.config.analysisPolicy = {} := by
    intro t ht
    rw [List.mem_map] at ht
    rcases ht with ⟨minute, _, hminute⟩
    rw [← hminute]
    rfl
  have hescalates : e.event.Escalates "a" := by
    rw [he.1]
    rfl
  have hsoftStops : act.event.SoftStops "a" := by
    rw [hact.1]
    rfl
  refine ⟨newer, e, between, act, rest, htrace, ?_⟩
  unfold startedRun at htrace
  exact sla_grace_counts_from_first_sight ([0, 181, 182].map (startedTick {})) {} "a" {}
    hpolicy (startedTick_leaves _ {} [0, 181, 182]) newer between rest e act htrace
    hescalates hsoftStops hlife

/-- The pod goes one minute after the soft stop, in the same lifetime of the
anchor, although the grace is a quarter of an hour. -/
theorem sla_escalates_within_grace_of_softStop :
    exists newer e between act rest,
      startedRun {} [0, 181, 182] = newer ++ e :: (between ++ act :: rest) ∧
      e.event = .mutate (.deletePod "a" "pod-1" none) (.ok ()) ∧
      act.event = .mutate (.softStopAnalysis "a") (.ok ()) ∧
      (forall x, x ∈ act :: between -> Present "a" x) ∧
      ¬ minutes ({} : AnalysisPolicy).gracefulStopTimeoutMinutes < e.time - act.time := by
  rcases startedRun_softStop_then_escalation with
    ⟨newer, e, between, act, rest, htrace, he, hact, hlife⟩
  rw [Prod.mk.injEq] at he hact
  refine ⟨newer, e, between, act, rest, htrace, he.1, hact.1, hlife, ?_⟩
  rw [he.2, hact.2]
  decide

end OpenStudioOperator
