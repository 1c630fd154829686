import OpenStudioOperator.AnalysisSlaOneShot

/-!
# Stop records and their anchors

The stop record is a second memory beside the soft-stop anchor: it keeps
`stop_analysis` from being called again, and should go when the anchor goes.
-/

namespace OpenStudioOperator

open Foundation

/-!
## What a step does to the stop records
-/

section Records

variable {t : Tick} {w0 w w' : World} {id k : String}

theorem not_stops_of_query {event : Event} (h : event.IsSlaQuery) : ¬ event.Stops id := by
  cases event with
  | mutate m r => exact absurd h not_false
  | _ => exact not_false

theorem not_stops_of_resolves {event : Event} (h : event.Resolves k) :
    ¬ event.Stops id := by
  cases event with
  | mutate m r => exact absurd h not_false
  | _ => exact not_false

/-- Only the soft-stop anchors are written. -/
theorem stopEntry_of_softStopsWrite {encoded : Option SoftStopRecord}
    {r : Except Exc Unit} {s : Status}
    (hleaves : t.env.Leaves (stoppedAnalysesField.entry id))
    (h : MapWrite t.env softStopsField k encoded r w.status s) :
    stoppedAnalysesField.entry id s = stoppedAnalysesField.entry id w.status :=
  h.frame.entry (fun _ _ => rfl) hleaves

/-- Below the cap a write of one stop record leaves the others. -/
theorem stopEntry_of_other {encoded : Option StopRecord} {r : Except Exc Unit}
    {s : Status} (hleaves : t.env.Leaves stoppedAnalysesField.read)
    (hroom : (stoppedAnalysesField.read w.status).size < statusMapMaxEntries)
    (hne : id ≠ k) (h : MapWrite t.env stoppedAnalysesField k encoded r w.status s) :
    stoppedAnalysesField.entry id s = stoppedAnalysesField.entry id w.status := by
  rcases h.other id hne (hleaves.entry id) with hsame | ⟨_, _, hfull⟩
  · exact hsame
  · exact absurd (hfull hleaves) (Nat.not_le.mpr hroom)

/-- A step calls no stop for `id` and keeps its stop record, or it issues the
stop of `id`, or it drops the record. -/
theorem SlaStep.stops (h : SlaStep t w0 k w w')
    (hleaves : t.env.Leaves stoppedAnalysesField.read)
    (hroom : (stoppedAnalysesField.read w.status).size < statusMapMaxEntries) :
    (Idle (Event.Stops id) w w' ∧ ((stoppedAnalysesField.entry id w.status).isSome ->
      (stoppedAnalysesField.entry id w'.status).isSome)) ∨
    (stoppedAnalysesField.entry id w.status = none ∧
      Acts t (.stopAnalysis id) .warning analysisStoppedEvent
        (.setStopRecord id (stopIssuedRecord t.config t.env.now))
        (MapWrite t.env stoppedAnalysesField id
          (some (stopIssuedRecord t.config t.env.now))) w w') ∨
    (exists record stop, AwaitsStop t w0 w id record stop ∧ stop.stoppedAt.isSome) := by
  have hrefl := Idle.refl (Event.Stops id) w
  have hkept : forall s, stoppedAnalysesField.entry id s =
      stoppedAnalysesField.entry id w.status ->
      (stoppedAnalysesField.entry id w.status).isSome ->
        (stoppedAnalysesField.entry id s).isSome := by
    intro s hsame hsome
    rw [hsame]
    exact hsome
  cases h with
  | query hquery => exact Or.inl ⟨hrefl.log _ (not_stops_of_query hquery), fun h => h⟩
  | look _ hkeeps =>
      exact Or.inl ⟨hrefl.commit _ _ not_false,
        hkept _ (hkeeps _ _ (hleaves.entry id))⟩
  | anchor _ _ hwrite =>
      exact Or.inl ⟨hrefl.commit _ _ not_false,
        hkept _ (stopEntry_of_softStopsWrite (hleaves.entry id) hwrite)⟩
  | retire _ _ _ hwrite =>
      exact Or.inl ⟨hrefl.commit _ _ not_false,
        hkept _ (stopEntry_of_softStopsWrite (hleaves.entry id) hwrite)⟩
  | softStop _ _ _ _ hacts =>
      refine Or.inl ⟨hacts.idle (fun _ => not_false) not_false (fun _ _ => not_false)
        (fun _ => not_false), ?_⟩
      rcases hacts.status_cases with hsame | ⟨r, hwrite⟩
      · rw [hsame]
        exact fun h => h
      · exact hkept _ (stopEntry_of_softStopsWrite (hleaves.entry id) hwrite)
  | stop _ _ _ _ hnone hacts =>
      rcases eq_or_ne id k with heq | hne
      · subst heq
        exact Or.inr (Or.inl ⟨hnone, hacts⟩)
      · refine Or.inl ⟨hacts.idle (fun _ hstop => hne hstop.symm) not_false
          (fun _ _ => not_false) (fun _ => not_false), ?_⟩
        rcases hacts.status_cases with hsame | ⟨r, hwrite⟩
        · rw [hsame]
          exact fun h => h
        · exact hkept _ (stopEntry_of_other hleaves hroom hne hwrite)
  | stopSettled _ hwrite =>
      refine Or.inl ⟨hrefl.commit _ _ not_false, ?_⟩
      rcases eq_or_ne id k with heq | hne
      · subst heq
        intro hsome
        rcases hwrite.self (hleaves.entry id) with hnew | ⟨_, hsame⟩
        · rw [World.commit_status, hnew]
          rfl
        · rw [World.commit_status, hsame]
          exact hsome
      · exact hkept _ (stopEntry_of_other hleaves hroom hne hwrite)
  | stopPruned hawaits hstopped hwrite =>
      rcases eq_or_ne id k with heq | hne
      · subst heq
        exact Or.inr (Or.inr ⟨_, _, hawaits, hstopped⟩)
      · exact Or.inl ⟨hrefl.commit _ _ not_false,
          hkept _ (stopEntry_of_other hleaves hroom hne hwrite)⟩
  | resolve _ hresolves =>
      exact Or.inl ⟨hrefl.log _ (not_stops_of_resolves hresolves), fun h => h⟩
  | pass _ _ hpass =>
      refine Or.inl ⟨hpass.idle not_false not_false (fun _ _ _ => not_false)
        (fun _ _ => not_false) (fun _ _ => not_false), ?_⟩
      rcases hpass.status_cases with hsame | ⟨outcome, r, hmark⟩
      · rw [hsame]
        exact fun h => h
      · exact hkept _ (hmark.frame.entry (fun _ _ => rfl) (hleaves.entry id))

end Records

/-!
## One stop per lifetime
-/

def Event.isStop (id : String) : Event -> Bool
  | .mutate (.stopAnalysis analysisId) _ => analysisId = id
  | _ => false

/-- The calls of `stop_analysis` for `id`, whatever their answer. -/
def stopCalls (id : String) (stretch : Trace) : Nat :=
  stretch.countP fun e => e.event.isStop id

/-- The call loses the record of a stop of `id`: a failed status call, a failed
stop, or a failed Event right after the stop. -/
def losesStopRecord (id : String) (e : Entry) (older : Trace) : Bool :=
  match e.event, older with
  | .store _ (.error _), _ => true
  | .mutate (.stopAnalysis analysisId) (.error _), _ => analysisId = id
  | .emit _ _ _ (.error _), act :: _ =>
      act.event = .mutate (.stopAnalysis id) (.ok ())
  | _, _ => false

structure KeepsStopRecord (id : String) (e : Entry) (older : Trace) : Prop where
  kept : losesStopRecord id e older = false
  room : (stoppedAnalysesField.read e.status).size < statusMapMaxEntries

instance (id : String) (e : Entry) (older : Trace) :
    Decidable (KeepsStopRecord id e older) :=
  decidable_of_iff (losesStopRecord id e older = false ∧
      (stoppedAnalysesField.read e.status).size < statusMapMaxEntries)
    ⟨fun h => ⟨h.1, h.2⟩, fun h => ⟨h.kept, h.room⟩⟩

/-- The tick finds an issued, unescalated anchor of `id` past its grace whose
stop record carries a `stoppedAt`. -/
def FindsSettledStop (id : String) (t : Tick) (w : World) : Prop :=
  exists record, record ∈ softStopsField.entry id w.status ∧
    (exists stop, stop ∈ stoppedAnalysesField.entry id w.status ∧
      stop.stoppedAt.isSome) ∧
    record.outcome = .issued ∧ record.escalatedAt = none ∧
    t.config.analysisPolicy.autoSoftStop = true ∧
    graceOf t < t.env.now - record.issuedAt

instance (id : String) (t : Tick) (w : World) : Decidable (FindsSettledStop id t w) :=
  inferInstanceAs (Decidable (exists record, record ∈ _ ∧ _))

/-- The tick sees the analysis of such an anchor still started. -/
def DropsStopRecord (id : String) (t : Tick) (w : World) : Prop :=
  FindsSettledStop id t w ∧ t.env.MayReportStarted id

section Once

variable {initial : Status} {t : Tick} {w0 w w' : World} {id : String}

theorem isStop_eq_false {event : Event} (h : ¬ event.Stops id) :
    event.isStop id = false := by
  cases event with
  | mutate m r =>
      cases m with
      | stopAnalysis analysisId => exact decide_eq_false h
      | _ => rfl
  | _ => rfl

theorem stopCalls_cons (id : String) (e : Entry) (older : Trace) :
    stopCalls id (lifetime id (e :: older)) <=
      stopCalls id (lifetime id older) + (e.event.isStop id).toNat := by
  cases hentry : softStopsField.entry id e.status with
  | none =>
      rw [lifetime_cons_of_absent hentry]
      exact Nat.zero_le _
  | some record =>
      have hpresent : Present id e := by
        unfold Present
        rw [hentry]
        rfl
      rw [lifetime_cons_of_present hpresent]
      unfold stopCalls
      rw [List.countP_cons]
      cases e.event.isStop id with
      | true => exact Nat.le_refl _
      | false => exact Nat.le_refl _

/-- Every stage has seen at most `n` calls in its lifetime. -/
def CallsStop (id : String) (n : Nat) (trace : Trace) : Prop :=
  Throughout (fun e older => stopCalls id (lifetime id (e :: older)) <= n) trace

theorem stopCalls_idle_block {n : Nat} {older : Trace}
    (h : stopCalls id (lifetime id older) <= n) (hn : n <= 1)
    (hstages : CallsStop id 1 older) :
    forall block : Trace, (forall e, e ∈ block -> ¬ e.event.Stops id) ->
      stopCalls id (lifetime id (block ++ older)) <= n ∧
        CallsStop id 1 (block ++ older)
  | [], _ => ⟨h, hstages⟩
  | e :: block, hidle => by
      have hrest := stopCalls_idle_block h hn hstages block
        fun x hx => hidle x (List.mem_cons_of_mem e hx)
      have hcons := stopCalls_cons id e (block ++ older)
      rw [isStop_eq_false (hidle e List.mem_cons_self)] at hcons
      have hnow : stopCalls id (lifetime id (e :: (block ++ older))) <= n :=
        Nat.le_trans hcons hrest.1
      exact ⟨hnow, .cons (Nat.le_trans hnow hn) hrest.2⟩

/-- A stop that is kept is remembered by its record. -/
theorem stopCalls_acts (hleaves : t.env.Leaves stoppedAnalysesField.read)
    (hacts : Acts t (.stopAnalysis id) .warning analysisStoppedEvent
      (.setStopRecord id (stopIssuedRecord t.config t.env.now))
      (MapWrite t.env stoppedAnalysesField id
        (some (stopIssuedRecord t.config t.env.now))) w w')
    (hkeeps : Throughout (KeepsStopRecord id) w'.trace)
    (h : stopCalls id (lifetime id w.trace) <= 0) (hstages : CallsStop id 1 w.trace) :
    stopCalls id (lifetime id w'.trace) <=
        (stoppedAnalysesField.entry id w'.status).isSome.toNat ∧
      CallsStop id 1 w'.trace := by
  have hact : stopCalls id (lifetime id
      (w.log t.env.now (actEvent t.config (.stopAnalysis id))).trace) <= 1 := by
    refine Nat.le_trans (stopCalls_cons id _ _) ?_
    exact Nat.add_le_add h (Bool.toNat_le _)
  have hactStages := Throughout.cons hact hstages
  cases hacts with
  | failed e _ =>
      have hkept := hkeeps.head.kept
      simp [losesStopRecord] at hkept
  | unannounced message e =>
      have hsuppressed : actEvent t.config (.stopAnalysis id) =
          .suppressed (.stopAnalysis id) := by
        rcases actEvent_cases t.config (.stopAnalysis id) with hcall | hmark
        · have hkept := hkeeps.head.kept
          simp [losesStopRecord, hcall] at hkept
        · exact hmark
      have hblock := stopCalls_idle_block h (Nat.zero_le _) hstages
        [⟨t.env.now, .emit .warning analysisStoppedEvent message (.error e), w.status⟩,
          ⟨t.env.now, actEvent t.config (.stopAnalysis id), w.status⟩]
        (by
          intro x hx
          rw [hsuppressed] at hx
          rcases List.mem_cons.mp hx with heq | hrest
          · rw [heq]
            exact not_false
          · rw [List.mem_singleton.mp hrest]
            exact not_false)
      exact ⟨Nat.le_trans hblock.1 (Nat.zero_le _), hblock.2⟩
  | recorded message r s hwrite =>
      cases r with
      | error e => exact absurd hkeeps.head.kept Bool.noConfusion
      | ok _ =>
          have hrecorded : (stoppedAnalysesField.entry id s).isSome.toNat = 1 := by
            rcases hwrite.self (hleaves.entry id) with hnew | ⟨hraised, _⟩
            · rw [hnew]
              rfl
            · exact absurd rfl hraised
          have hblock := stopCalls_idle_block hact (Nat.le_refl _) hactStages
            [⟨t.env.now, .store (.setStopRecord id (stopIssuedRecord t.config t.env.now))
                (.ok ()), s⟩,
              ⟨t.env.now, .emit .warning analysisStoppedEvent message (.ok ()), w.status⟩]
            (by
              intro x hx
              rcases List.mem_cons.mp hx with heq | hrest
              · rw [heq]
                exact not_false
              · rw [List.mem_singleton.mp hrest]
                exact not_false)
          exact ⟨Nat.le_trans hblock.1 (Nat.le_of_eq hrecorded.symm), hblock.2⟩

theorem SlaStep.stopCalls_le {subject : String} (hwithin : Within initial t w0 w)
    (hanchor : t.env.Leaves (softStopsField.entry id))
    (hleaves : t.env.Leaves stoppedAnalysesField.read)
    (hcond : ¬ DropsStopRecord id t w0)
    (hstep : SlaStep t (w0.openTick t) subject w w')
    (hkeeps : Throughout (KeepsStopRecord id) w.trace)
    (hkeeps' : Throughout (KeepsStopRecord id) w'.trace)
    (h : stopCalls id (lifetime id w.trace) <=
      (stoppedAnalysesField.entry id w.status).isSome.toNat)
    (hstages : CallsStop id 1 w.trace) :
    stopCalls id (lifetime id w'.trace) <=
        (stoppedAnalysesField.entry id w'.status).isSome.toNat ∧
      CallsStop id 1 w'.trace := by
  have hroom : (stoppedAnalysesField.read w.status).size < statusMapMaxEntries := by
    rcases hwithin.newest with ⟨e, older, htrace, hstatus⟩
    rw [htrace] at hkeeps
    rw [← hstatus]
    exact hkeeps.head.room
  rcases hstep.stops hleaves hroom with
    ⟨⟨block, htrace, hidle⟩, hkept⟩ | ⟨hnone, hacts⟩ | ⟨record, stop, hawaits, hstopped⟩
  · have hblock := stopCalls_idle_block h (Bool.toNat_le _) hstages block hidle
    rw [htrace]
    refine ⟨Nat.le_trans hblock.1 ?_, hblock.2⟩
    cases hbefore : (stoppedAnalysesField.entry id w.status).isSome with
    | false => exact Nat.zero_le _
    | true => exact Nat.le_of_eq (by rw [hkept hbefore])
  · rw [hnone] at h
    exact stopCalls_acts hleaves hacts hkeeps' h hstages
  · exfalso
    apply hcond
    refine ⟨⟨record, hawaits.atStart hanchor, ⟨stop, ?_, hstopped⟩, hawaits.issued,
      hawaits.unescalated, hawaits.active, hawaits.pastGrace⟩, hawaits.reported⟩
    exact hawaits.stopAtStart (hleaves.entry id)

end Once

/-- In every run in which the stop record of `id` is kept and no tick drops it
under a waiting anchor, `stop_analysis` is called at most once in each lifetime
of the anchor. -/
theorem sla_stop_once (ticks : List Tick) (status : Status) (id : String)
    (hanchor : forall t, t ∈ ticks -> t.env.Leaves (softStopsField.entry id))
    (hleaves : forall t, t ∈ ticks -> t.env.Leaves stoppedAnalysesField.read)
    (hkeeps : Throughout (KeepsStopRecord id)
      (runTicks runSlaTick ticks { status := status }).trace)
    (hnever : EveryTick runSlaTick (fun t w => ¬ DropsStopRecord id t w) ticks
      { status := status })
    (stage : Trace)
    (hstage : stage <:+ (runTicks runSlaTick ticks { status := status }).trace) :
    stopCalls id (lifetime id stage) <= 1 := by
  have hrun : Throughout (KeepsStopRecord id)
        (runTicks runSlaTick ticks { status := status }).trace ->
      stopCalls id (lifetime id (runTicks runSlaTick ticks { status := status }).trace) <=
          (stoppedAnalysesField.entry id
            (runTicks runSlaTick ticks { status := status }).status).isSome.toNat ∧
        CallsStop id 1 (runTicks runSlaTick ticks { status := status }).trace := by
    apply runSlaTicks_induction
      (fun t w => t ∈ ticks ∧ ¬ DropsStopRecord id t w)
      (fun w => Throughout (KeepsStopRecord id) w.trace ->
        stopCalls id (lifetime id w.trace) <=
            (stoppedAnalysesField.entry id w.status).isSome.toNat ∧
          CallsStop id 1 w.trace)
    · intro t w _ hw hopened
      have h := hw hopened.tail
      exact stopCalls_idle_block h.1 (Bool.toNat_le _) h.2 [_] (by simp [Event.Stops])
    · intro t w0 w w' subject hcond _ hrun hw hstep hkeeps'
      have hwithin : Within status t w0 w := SlaRun.within hrun
      have hkeepsBefore : Throughout (KeepsStopRecord id) w.trace := by
        rcases hstep.appends with ⟨block, htrace, _⟩
        rw [htrace] at hkeeps'
        exact hkeeps'.of_append block
      have h := hw hkeepsBefore
      exact hstep.stopCalls_le hwithin (hanchor t hcond.1) (hleaves t hcond.1) hcond.2
        hkeepsBefore hkeeps' h.1 h.2
    · exact hnever.mono fun t w ht hnot => ⟨ht, hnot⟩
    · intro _
      exact ⟨Nat.zero_le _, .nil⟩
  rcases hstage with ⟨newer, htrace⟩
  have hstages := (hrun hkeeps).2
  rw [← htrace] at hstages
  cases stage with
  | nil => exact Nat.zero_le _
  | cons e older => exact hstages.of_split newer

/-- First sight, soft stop, then the stop together with the escalation. -/
theorem sla_stop_once_default :
    stopCalls "a" (lifetime "a" (startedRun {} [0, 181, 182, 190])) <= 1 ∧
      stopCalls "a" (lifetime "a" (startedRun {} [0, 181, 182, 190])) = 1 := by
  have hkeeps : Throughout (KeepsStopRecord "a")
      (startedRun {} [0, 181, 182, 190]) := by decide +kernel
  have hsettled : EveryTick runSlaTick (fun t w => ¬ FindsSettledStop "a" t w)
      ([0, 181, 182, 190].map (startedTick {})) {} := by decide +kernel
  have hnever : EveryTick runSlaTick (fun t w => ¬ DropsStopRecord "a" t w)
      ([0, 181, 182, 190].map (startedTick {})) {} :=
    hsettled.mono fun t w _ hnot hdrops => hnot hdrops.1
  refine ⟨?_, by decide +kernel⟩
  unfold startedRun at hkeeps ⊢
  exact sla_stop_once ([0, 181, 182, 190].map (startedTick {})) {} "a"
    (startedTick_leaves _ {} _) (startedTick_leaves _ {} _) hkeeps hnever _ List.suffix_rfl

/-- The same tick with an unreachable Redis. -/
def unresolvedTick (minute : Nat) : Tick :=
  let t := startedTick {} minute
  { t with env := { t.env with workersForAnalysis := fun _ _ => .error .redisClientError } }

/-- The escalation fails four times in a row: the stop is issued, times out, its
record is dropped, and the stop is issued again. -/
def unresolvedRun : Trace :=
  (runTicks runSlaTick
    ([0, 181].map (startedTick {}) ++ [182, 184, 185, 186].map unresolvedTick) {}).trace

theorem sla_stop_repeated :
    Throughout (KeepsStopRecord "a") unresolvedRun ∧
      stopCalls "a" (lifetime "a" unresolvedRun) = 2 := by
  constructor
  · decide +kernel
  · decide +kernel

/-!
## Stop records without an anchor
-/

/-- Every stop record belongs to an anchor. -/
def StopsAnchored (s : Status) : Prop :=
  forall id, (stoppedAnalysesField.entry id s).isSome ->
    (softStopsField.entry id s).isSome

/-- The tick sees every analysis with a stop record still started. -/
def SeesStopsStarted (t : Tick) (w : World) : Prop :=
  t.config.analysisPolicy.autoSoftStop = true ->
    forall id, (stoppedAnalysesField.entry id w.status).isSome ->
      t.env.AlwaysReportsStarted id

section Anchored

variable {initial : Status} {t : Tick} {w0 w w' : World} {id k : String}

/-- Below the cap a write of one anchor leaves the others. -/
theorem anchorEntry_of_other {encoded : Option SoftStopRecord} {r : Except Exc Unit}
    {s : Status} (hleaves : t.env.Leaves softStopsField.read)
    (hroom : (softStopsField.read w.status).size < statusMapMaxEntries)
    (hne : id ≠ k) (h : MapWrite t.env softStopsField k encoded r w.status s) :
    softStopsField.entry id s = softStopsField.entry id w.status := by
  rcases h.other id hne (hleaves.entry id) with hsame | ⟨_, _, hfull⟩
  · exact hsame
  · exact absurd (hfull hleaves) (Nat.not_le.mpr hroom)

/-- An anchor that is written is there, and no other goes. -/
theorem anchors_of_write {new : SoftStopRecord} {r : Except Exc Unit} {s : Status}
    (hleaves : t.env.Leaves softStopsField.read)
    (hroom : (softStopsField.read w.status).size < statusMapMaxEntries)
    (h : MapWrite t.env softStopsField k (some new) r w.status s)
    (hsome : (softStopsField.entry id w.status).isSome) :
    (softStopsField.entry id s).isSome := by
  rcases eq_or_ne id k with heq | hne
  · subst heq
    rcases h.self (hleaves.entry id) with hnew | ⟨_, hsame⟩
    · rw [hnew]
      rfl
    · rw [hsame]
      exact hsome
  · rw [anchorEntry_of_other hleaves hroom hne h]
    exact hsome

/-- Of another analysis no stop record appears. -/
theorem stops_of_other {encoded : Option StopRecord} {r : Except Exc Unit} {s : Status}
    (hleaves : t.env.Leaves stoppedAnalysesField.read) (hne : id ≠ k)
    (h : MapWrite t.env stoppedAnalysesField k encoded r w.status s)
    (hsome : (stoppedAnalysesField.entry id s).isSome) :
    (stoppedAnalysesField.entry id w.status).isSome := by
  rcases h.other id hne (hleaves.entry id) with hsame | ⟨hnone, _⟩
  · rw [hsame] at hsome
    exact hsome
  · rw [hnone] at hsome
    exact absurd hsome Bool.false_ne_true

/-- What a step does to the two maps: no anchor goes unless it is retired, and
no stop record appears unless the walk writes one for its subject. -/
inductive MapsStep (t : Tick) (w0 : World) (k : String) (w w' : World) : Prop where
  | kept :
      (forall id, (softStopsField.entry id w.status).isSome ->
        (softStopsField.entry id w'.status).isSome) ->
      (forall id, (stoppedAnalysesField.entry id w'.status).isSome ->
        (stoppedAnalysesField.entry id w.status).isSome) ->
      MapsStep t w0 k w w'
  | retired {record : SoftStopRecord} : Holds t w0 w k record ->
      ¬ t.env.AlwaysReportsStarted k -> Unvisited k w -> ¬ Unvisited k w' ->
      (forall id, id ≠ k -> (softStopsField.entry id w.status).isSome ->
        (softStopsField.entry id w'.status).isSome) ->
      (forall id, (stoppedAnalysesField.entry id w'.status).isSome ->
        (stoppedAnalysesField.entry id w.status).isSome) ->
      MapsStep t w0 k w w'
  | recorded {record : SoftStopRecord} : Holds t w0 w k record ->
      (Unvisited k w ∧ ¬ Unvisited k w' ∨
        (stoppedAnalysesField.entry k w0.status).isSome) ->
      (forall id, (softStopsField.entry id w.status).isSome ->
        (softStopsField.entry id w'.status).isSome) ->
      (forall id, id ≠ k -> (stoppedAnalysesField.entry id w'.status).isSome ->
        (stoppedAnalysesField.entry id w.status).isSome) ->
      MapsStep t w0 k w w'

theorem not_unvisited_of_head {e : Entry} {older : Trace} (htrace : w.trace = e :: older)
    (hevent : forall config, e.event ≠ .tickStart config) (hvisits : e.event.Visits k) :
    ¬ Unvisited k w := by
  intro hunvisited
  apply hunvisited e
  · rw [htrace, currentTick_cons hevent]
    exact List.mem_cons_self
  · exact hvisits

theorem MapsStep.of_status (h : w'.status = w.status) : MapsStep t w0 k w w' := by
  apply MapsStep.kept
  · rw [h]
    exact fun _ hsome => hsome
  · rw [h]
    exact fun _ hsome => hsome

/-- A write of one anchor. -/
theorem MapsStep.of_write {new : SoftStopRecord} {r : Except Exc Unit}
    (hsoft : t.env.Leaves softStopsField.read)
    (hstops : t.env.Leaves stoppedAnalysesField.read)
    (hroom : (softStopsField.read w.status).size < statusMapMaxEntries)
    (h : MapWrite t.env softStopsField k (some new) r w.status w'.status) :
    MapsStep t w0 k w w' := by
  apply MapsStep.kept
  · exact fun id hsome => anchors_of_write hsoft hroom h hsome
  · intro id hsome
    rw [stopEntry_of_softStopsWrite (hstops.entry id) h] at hsome
    exact hsome

/-- The stop records are written, the anchors stay. -/
theorem anchors_of_stopsWrite {encoded : Option StopRecord} {r : Except Exc Unit}
    {s : Status} (hsoft : t.env.Leaves softStopsField.read)
    (h : MapWrite t.env stoppedAnalysesField k encoded r w.status s)
    (hsome : (softStopsField.entry id w.status).isSome) :
    (softStopsField.entry id s).isSome := by
  rw [h.frame.entry (fun _ _ => rfl) (hsoft.entry id)]
  exact hsome

theorem SlaStep.maps (h : SlaStep t w0 k w w')
    (hsoft : t.env.Leaves softStopsField.read)
    (hstops : t.env.Leaves stoppedAnalysesField.read)
    (hroom : (softStopsField.read w.status).size < statusMapMaxEntries) :
    MapsStep t w0 k w w' := by
  cases h with
  | query _ => exact MapsStep.of_status rfl
  | look _ hkeeps =>
      apply MapsStep.kept
      · intro id hsome
        rw [World.commit_status, hkeeps _ _ (hsoft.entry id)]
        exact hsome
      · intro id hsome
        rw [World.commit_status, hkeeps _ _ (hstops.entry id)] at hsome
        exact hsome
  | anchor _ _ hwrite => exact MapsStep.of_write hsoft hstops hroom hwrite
  | retire hholds hleft hunvisited hwrite =>
      refine MapsStep.retired hholds hleft hunvisited ?_ ?_ ?_
      · exact not_unvisited_of_head rfl (by simp) rfl
      · intro id hne hsome
        rw [World.commit_status, anchorEntry_of_other hsoft hroom hne hwrite]
        exact hsome
      · intro id hsome
        rw [World.commit_status,
          stopEntry_of_softStopsWrite (hstops.entry id) hwrite] at hsome
        exact hsome
  | softStop _ _ _ _ hacts =>
      rcases hacts.status_cases with hsame | ⟨r, hwrite⟩
      · exact MapsStep.of_status hsame
      · exact MapsStep.of_write hsoft hstops hroom hwrite
  | stop hwatches _ _ hunvisited _ hacts =>
      cases hacts with
      | failed e _ => exact MapsStep.of_status rfl
      | unannounced message e => exact MapsStep.of_status rfl
      | recorded message r s hwrite =>
          refine MapsStep.recorded hwatches.toHolds (Or.inl ⟨hunvisited, ?_⟩) ?_ ?_
          · exact not_unvisited_of_head rfl (by simp) rfl
          · exact fun id hsome => anchors_of_stopsWrite hsoft hwrite hsome
          · exact fun id hne hsome => stops_of_other hstops hne hwrite hsome
  | stopSettled hawaits hwrite =>
      refine MapsStep.recorded hawaits.toHolds (Or.inr ?_) ?_ ?_
      · rw [hawaits.stopAtStart (hstops.entry k)]
        rfl
      · exact fun id hsome => anchors_of_stopsWrite hsoft hwrite hsome
      · exact fun id hne hsome => stops_of_other hstops hne hwrite hsome
  | stopPruned _ _ hwrite =>
      apply MapsStep.kept
      · exact fun id hsome => anchors_of_stopsWrite hsoft hwrite hsome
      · intro id hsome
        rcases hwrite.entry_cases (hstops.entry id)
          (Option.some_get hsome).symm with ⟨_, new, hnew, _⟩ | hbefore
        · cases hnew
        · rw [hbefore]
          rfl
  | resolve _ _ => exact MapsStep.of_status rfl
  | pass _ _ hpass =>
      rcases hpass.status_cases with hsame | ⟨outcome, r, hmark⟩
      · exact MapsStep.of_status hsame
      · apply MapsStep.kept
        · intro id hsome
          rcases eq_or_ne id k with heq | hne
          · subst heq
            rcases hmark.self (hsoft.entry id) with ⟨record, _, hafter⟩ | ⟨_, hkept⟩
            · rw [hafter]
              rfl
            · rw [hkept]
              exact hsome
          · rw [hmark.other id hne (hsoft.entry id)]
            exact hsome
        · intro id hsome
          rw [hmark.frame.entry (fun _ _ => rfl) (hstops.entry id)] at hsome
          exact hsome

/-- Where the two maps stand in the middle of a tick: an anchor goes only after
a visit, and a stop record is old or written by a visit. -/
structure MapsInTick (t : Tick) (w0 w : World) : Prop where
  anchors : forall id, (softStopsField.entry id w0.status).isSome ->
    (softStopsField.entry id w.status).isSome ∨
      (¬ t.env.AlwaysReportsStarted id ∧ ¬ Unvisited id w)
  stops : forall id, (stoppedAnalysesField.entry id w.status).isSome ->
    (softStopsField.entry id w.status).isSome ∧
      ((stoppedAnalysesField.entry id w0.status).isSome ∨ ¬ Unvisited id w)

theorem MapsInTick.step (h : MapsInTick t w0 w) (happends : Appends t w w')
    (hsoft : t.env.Leaves softStopsField.read)
    (hcond : SeesStopsStarted t w0) (hstep : MapsStep t w0 k w w') :
    MapsInTick t w0 w' := by
  have hvisited : forall id, ¬ Unvisited id w -> ¬ Unvisited id w' :=
    fun id hnot hunvisited => hnot (Quiet.of_appends happends hunvisited)
  cases hstep with
  | kept hanchors hstops =>
      constructor
      · intro id hstart
        rcases h.anchors id hstart with hsome | ⟨hleft, hnot⟩
        · exact Or.inl (hanchors id hsome)
        · exact Or.inr ⟨hleft, hvisited id hnot⟩
      · intro id hsome
        rcases h.stops id (hstops id hsome) with ⟨hanchor, horigin⟩
        exact ⟨hanchors id hanchor, horigin.imp_right (hvisited id)⟩
  | retired hholds hleft hunvisited hnow hanchors hstops =>
      constructor
      · intro id hstart
        rcases eq_or_ne id k with heq | hne
        · subst heq
          exact Or.inr ⟨hleft, hnow⟩
        · rcases h.anchors id hstart with hsome | ⟨hleft', hnot⟩
          · exact Or.inl (hanchors id hne hsome)
          · exact Or.inr ⟨hleft', hvisited id hnot⟩
      · intro id hsome
        rcases h.stops id (hstops id hsome) with ⟨hanchor, horigin⟩
        rcases eq_or_ne id k with heq | hne
        · -- a record of the retired analysis would have been seen started
          subst heq
          rcases horigin with hstart | hnot
          · exact absurd (hcond hholds.active id hstart) hleft
          · exact absurd hunvisited hnot
        · exact ⟨hanchors id hne hanchor, horigin.imp_right (hvisited id)⟩
  | recorded hholds horigin' hanchors hstops =>
      have hstart : (softStopsField.entry k w0.status).isSome := by
        rw [hholds.atStart (hsoft.entry k)]
        rfl
      have hanchored : (softStopsField.entry k w.status).isSome := by
        rcases h.anchors k hstart with hsome | ⟨hleft, hnot⟩
        · exact hsome
        · rcases horigin' with ⟨hunvisited, _⟩ | hold
          · exact absurd hunvisited hnot
          · exact absurd (hcond hholds.active k hold) hleft
      constructor
      · intro id hstart'
        rcases h.anchors id hstart' with hsome | ⟨hleft, hnot⟩
        · exact Or.inl (hanchors id hsome)
        · exact Or.inr ⟨hleft, hvisited id hnot⟩
      · intro id hsome
        rcases eq_or_ne id k with heq | hne
        · subst heq
          refine ⟨hanchors id hanchored, ?_⟩
          rcases horigin' with ⟨_, hnow⟩ | hold
          · exact Or.inr hnow
          · exact Or.inl hold
        · rcases h.stops id (hstops id hne hsome) with ⟨hanchor, horigin⟩
          exact ⟨hanchors id hanchor, horigin.imp_right (hvisited id)⟩

theorem World.logAll_mem (time : Instant) {e : Entry} :
    forall {events : List Event} {w : World}, e ∈ (w.logAll time events).trace ->
      e ∈ w.trace ∨ e.status = w.status
  | [], _, h => Or.inl h
  | event :: events, w, h => by
      have hrest : e ∈ (w.log time event).trace ∨ e.status = (w.log time event).status :=
        World.logAll_mem time h
      rcases hrest with hmem | hstatus
      · rcases List.mem_cons.mp hmem with hnew | hold
        · rw [hnew]
          exact Or.inr rfl
        · exact Or.inl hold
      · exact Or.inr hstatus

/-- The statuses along a step are those of its two ends. -/
theorem Acts.statuses {m : Mutation} {type : EventType} {reason : String}
    {op : StoreOp} {Wrote : Except Exc Unit -> Status -> Status -> Prop}
    (h : Acts t m type reason op Wrote w w') {e : Entry} (he : e ∈ w'.trace) :
    e ∈ w.trace ∨ e.status = w.status ∨ e.status = w'.status := by
  cases h with
  | failed error _ =>
      rcases List.mem_cons.mp he with hnew | hold
      · rw [hnew]
        exact Or.inr (Or.inl rfl)
      · exact Or.inl hold
  | unannounced message error =>
      rcases List.mem_cons.mp he with hnew | hold
      · rw [hnew]
        exact Or.inr (Or.inl rfl)
      · rcases List.mem_cons.mp hold with hact | holder
        · rw [hact]
          exact Or.inr (Or.inl rfl)
        · exact Or.inl holder
  | recorded message r s _ =>
      rcases List.mem_cons.mp he with hnew | hold
      · rw [hnew]
        exact Or.inr (Or.inr rfl)
      · rcases List.mem_cons.mp hold with hemit | holder
        · rw [hemit]
          exact Or.inr (Or.inl rfl)
        · rcases List.mem_cons.mp holder with hact | holdest
          · rw [hact]
            exact Or.inr (Or.inl rfl)
          · exact Or.inl holdest

theorem Pass.statuses (h : Pass t k w w') {e : Entry} (he : e ∈ w'.trace) :
    e ∈ w.trace ∨ e.status = w.status ∨ e.status = w'.status := by
  have hloop : forall deletes,
      e ∈ ((w.log t.env.now (.escalationPass k)).logAll t.env.now deletes).trace ->
        e ∈ w.trace ∨ e.status = w.status := by
    intro deletes hmem
    rcases World.logAll_mem t.env.now hmem with hold | hstatus
    · rcases List.mem_cons.mp hold with hnew | holder
      · rw [hnew]
        exact Or.inr rfl
      · exact Or.inl holder
    · exact Or.inr hstatus
  have hdone : forall deletes,
      e ∈ ((w.log t.env.now (.escalationPass k)).logAll t.env.now deletes).trace ->
        e ∈ w.trace ∨ e.status = w.status ∨ e.status = w'.status :=
    fun deletes hmem => (hloop deletes hmem).imp_right Or.inl
  have hstatus : forall deletes,
      ((w.log t.env.now (.escalationPass k)).logAll t.env.now deletes).status =
        w.status := by
    intro deletes
    rw [World.logAll_status, World.log_status]
  cases h with
  | raised deletes _ =>
      rcases List.mem_cons.mp he with hnew | hold
      · rw [hnew]
        exact Or.inr (Or.inl (hstatus deletes))
      · exact hdone deletes hold
  | unannounced deletes message error _ =>
      rcases List.mem_cons.mp he with hnew | hold
      · rw [hnew]
        exact Or.inr (Or.inl (hstatus deletes))
      · rcases List.mem_cons.mp hold with hemit | holder
        · rw [hemit]
          exact Or.inr (Or.inl (hstatus deletes))
        · exact hdone deletes holder
  | unmarked deletes message error outcome s _ _ =>
      rcases List.mem_cons.mp he with hnew | hold
      · rw [hnew]
        exact Or.inr (Or.inr rfl)
      · rcases List.mem_cons.mp hold with hmark | holder
        · rw [hmark]
          exact Or.inr (Or.inr rfl)
        · rcases List.mem_cons.mp holder with hemit | holdest
          · rw [hemit]
            exact Or.inr (Or.inl (hstatus deletes))
          · exact hdone deletes holdest
  | marked deletes message outcome s _ _ =>
      rcases List.mem_cons.mp he with hnew | hold
      · rw [hnew]
        exact Or.inr (Or.inr rfl)
      · rcases List.mem_cons.mp hold with hemit | holder
        · rw [hemit]
          exact Or.inr (Or.inl (hstatus deletes))
        · exact hdone deletes holder

theorem SlaStep.statuses (h : SlaStep t w0 k w w') {e : Entry} (he : e ∈ w'.trace) :
    e ∈ w.trace ∨ e.status = w.status ∨ e.status = w'.status := by
  have hone : forall new : Entry, w'.trace = new :: w.trace -> new.status = w'.status ->
      e ∈ w.trace ∨ e.status = w.status ∨ e.status = w'.status := by
    intro new htrace hnew
    rw [htrace] at he
    rcases List.mem_cons.mp he with heq | hold
    · rw [heq]
      exact Or.inr (Or.inr hnew)
    · exact Or.inl hold
  cases h with
  | query _ => exact hone _ rfl rfl
  | look _ _ => exact hone _ rfl rfl
  | anchor _ _ _ => exact hone _ rfl rfl
  | retire _ _ _ _ => exact hone _ rfl rfl
  | softStop _ _ _ _ hacts => exact hacts.statuses he
  | stop _ _ _ _ _ hacts => exact hacts.statuses he
  | stopSettled _ _ => exact hone _ rfl rfl
  | stopPruned _ _ _ => exact hone _ rfl rfl
  | resolve _ _ => exact hone _ rfl rfl
  | pass _ _ hpass => exact hpass.statuses he

/-- Within one tick, from a status whose stop records are all anchored. -/
theorem SlaRun.mapsInTick (hrun : SlaRun t (w0.openTick t) (w0.openTick t) w)
    (hsoft : t.env.Leaves softStopsField.read)
    (hstops : t.env.Leaves stoppedAnalysesField.read)
    (hcond : SeesStopsStarted t w0) (hanchored : StopsAnchored w0.status)
    (hroom : forall e, e ∈ w.trace ->
      (softStopsField.read e.status).size < statusMapMaxEntries) :
    MapsInTick t (w0.openTick t) w := by
  induction hrun with
  | refl =>
      constructor
      · exact fun id hstart => Or.inl hstart
      · exact fun id hsome => ⟨hanchored id hsome, Or.inl hsome⟩
  | tail hbefore hstep ih =>
      rename_i w1 w2
      rcases hstep with ⟨subject, hstep⟩
      have happends := hstep.appends
      have hroomBefore : forall e, e ∈ w1.trace ->
          (softStopsField.read e.status).size < statusMapMaxEntries := by
        intro e he
        rcases happends with ⟨block, htrace, _⟩
        apply hroom
        rw [htrace]
        exact List.mem_append_right block he
      have hwithin : Within w0.status t w0 w1 := SlaRun.within hbefore
      rcases hwithin.newest with ⟨newest, older, htrace, hstatus⟩
      have hroomNow : (softStopsField.read w1.status).size < statusMapMaxEntries := by
        rw [← hstatus]
        apply hroomBefore
        rw [htrace]
        exact List.mem_cons_self
      exact (ih hroomBefore).step happends hsoft hcond
        (hstep.maps hsoft hstops hroomNow)

end Anchored

/-- In every run in which each tick sees the analyses with a stop record still
started, and the anchors stay below the cap, no stop record is ever without its
anchor. -/
theorem sla_stop_records_anchored (ticks : List Tick) (status : Status)
    (hanchored : StopsAnchored status)
    (hsoft : forall t, t ∈ ticks -> t.env.Leaves softStopsField.read)
    (hstops : forall t, t ∈ ticks -> t.env.Leaves stoppedAnalysesField.read)
    (hroom : forall e, e ∈ (runTicks runSlaTick ticks { status := status }).trace ->
      (softStopsField.read e.status).size < statusMapMaxEntries)
    (hseen : EveryTick runSlaTick SeesStopsStarted ticks { status := status }) :
    forall e, e ∈ (runTicks runSlaTick ticks { status := status }).trace ->
      StopsAnchored e.status := by
  have hrun : (forall e, e ∈ (runTicks runSlaTick ticks { status := status }).trace ->
        (softStopsField.read e.status).size < statusMapMaxEntries) ->
      StopsAnchored (runTicks runSlaTick ticks { status := status }).status ∧
        forall e, e ∈ (runTicks runSlaTick ticks { status := status }).trace ->
          StopsAnchored e.status := by
    apply runSlaTicks_induction (fun t w => t ∈ ticks ∧ SeesStopsStarted t w)
      (fun w => (forall e, e ∈ w.trace ->
          (softStopsField.read e.status).size < statusMapMaxEntries) ->
        StopsAnchored w.status ∧ forall e, e ∈ w.trace -> StopsAnchored e.status)
    · intro t w _ hw hroom'
      have h := hw fun e he => hroom' e (List.mem_cons_of_mem _ he)
      refine ⟨h.1, ?_⟩
      intro e he
      rcases List.mem_cons.mp he with hnew | hold
      · rw [hnew]
        exact h.1
      · exact h.2 e hold
    · intro t w0 w w' subject hcond hopening hbefore hw hstep hroom'
      have hwithin : Within status t w0 w := SlaRun.within hbefore
      have hgrows : forall e, e ∈ w.trace -> e ∈ w'.trace := by
        intro e he
        rcases hstep.appends with ⟨block, htrace, _⟩
        rw [htrace]
        exact List.mem_append_right block he
      have hstart : StopsAnchored w0.status := by
        refine (hopening fun e he => ?_).1
        apply hroom' e (hgrows e (mem_of_mem_beforeTick _))
        rw [hwithin.before]
        exact he
      have h := hw fun e he => hroom' e (hgrows e he)
      have hnow : StopsAnchored w'.status := by
        have htick := SlaRun.mapsInTick (hbefore.tail ⟨subject, hstep⟩)
          (hsoft t hcond.1) (hstops t hcond.1) hcond.2 hstart hroom'
        exact fun id hsome => (htick.stops id hsome).1
      refine ⟨hnow, ?_⟩
      intro e he
      rcases hstep.statuses he with hold | hbeforeStep | hafterStep
      · exact h.2 e hold
      · rw [hbeforeStep]
        exact h.1
      · rw [hafterStep]
        exact hnow
    · exact hseen.mono fun t w ht hcond => ⟨ht, hcond⟩
    · intro _
      exact ⟨hanchored, fun e he => absurd he List.not_mem_nil⟩
  exact (hrun hroom).2

theorem startedTick_always (policy : AnalysisPolicy) (minute : Nat) :
    (startedTick policy minute).env.AlwaysReportsStarted "a" where
  named := by decide +kernel
  listed := by
    intro trace docs hdocs
    cases hdocs
    exact ⟨{ id := some "a" }, List.mem_cons_self, rfl⟩
  started := by
    intro trace payload answer hpayload hanswer
    cases hpayload
    have hstarted : payloadIsStarted
        (some { analysis := some { status := some "started" } }) = .ok true := by decide
    rw [hstarted] at hanswer
    exact (Except.ok.inj hanswer).symm

/-- From first sight to the escalation of a stopped analysis. -/
theorem sla_stop_records_anchored_default :
    (forall e, e ∈ startedRun {} [0, 181, 182, 190] -> StopsAnchored e.status) ∧
      exists e, e ∈ startedRun {} [0, 181, 182, 190] ∧
        (stoppedAnalysesField.entry "a" e.status).isSome := by
  have hrecorded : (startedRun {} [0, 181, 182, 190]).any
      (fun e => (stoppedAnalysesField.entry "a" e.status).isSome) = true := by
    decide +kernel
  have hroom : (startedRun {} [0, 181, 182, 190]).all
      (fun e => (softStopsField.read e.status).size < statusMapMaxEntries) = true := by
    decide +kernel
  have hkeys : EveryTick runSlaTick
      (fun _ w => forall id, id ∈ (stoppedAnalysesField.read w.status).keys -> id = "a")
      ([0, 181, 182, 190].map (startedTick {})) {} := by decide +kernel
  have hseen : EveryTick runSlaTick SeesStopsStarted
      ([0, 181, 182, 190].map (startedTick {})) {} := by
    apply hkeys.mono
    intro t w ht hid _ id hsome
    rw [List.mem_map] at ht
    rcases ht with ⟨minute, _, hminute⟩
    rw [← hminute, hid id ?_]
    · exact startedTick_always {} minute
    · rw [Dict.mem_keys_iff_get?]
      exact Option.isSome_iff_exists.mp hsome
  rw [List.any_eq_true] at hrecorded
  rw [List.all_eq_true] at hroom
  refine ⟨?_, hrecorded⟩
  unfold startedRun at hroom ⊢
  exact sla_stop_records_anchored ([0, 181, 182, 190].map (startedTick {})) {}
    (fun _ hsome => absurd hsome Bool.false_ne_true) (startedTick_leaves _ {} _)
    (startedTick_leaves _ {} _) (fun e he => of_decide_eq_true (hroom e he)) hseen

/-- A tick that sees the analysis `a` completed. -/
def completedTick (minute : Nat) : Tick :=
  let t := startedTick {} minute
  { t with
    env := { t.env with
      getAnalysisStatus := fun _ _ =>
        .ok (some { analysis := some { status := some "completed" } }) } }

/-- The analysis is stopped and then completes: its anchor is retired, its stop
record stays. -/
def stoppedThenCompleted : World :=
  runTicks runSlaTick ([0, 181, 182].map (startedTick {}) ++ [completedTick 183]) {}

theorem sla_stop_record_outlives_anchor :
    stoppedThenCompleted.trace.all (fun e =>
        match e.event with
        | .store _ (.error _) => false
        | _ => true) = true ∧
      (completedTick 183).config.analysisPolicy.autoSoftStop = true ∧
      ¬ StopsAnchored stoppedThenCompleted.status := by
  have hstop : (stoppedAnalysesField.entry "a" stoppedThenCompleted.status).isSome =
      true := by decide +kernel
  have hanchor : (softStopsField.entry "a" stoppedThenCompleted.status).isSome =
      false := by decide +kernel
  refine ⟨by decide +kernel, rfl, ?_⟩
  intro hanchored
  rw [hanchored "a" hstop] at hanchor
  cases hanchor

end OpenStudioOperator
