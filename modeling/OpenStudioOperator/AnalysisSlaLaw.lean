import OpenStudioOperator.AnalysisSlaRefinement

/-!
# The law of a soft-stop anchor

The law of one anchor over a whole history: how its stored record moves, and
what the tick found when it soft-stopped, stopped or escalated the analysis.
-/

namespace OpenStudioOperator

open Foundation

/-!
## Events of one analysis
-/

/-- A soft stop of `id` is issued or withheld, whatever its answer. -/
def Event.SoftStops (id : String) : Event -> Prop
  | .mutate (.softStopAnalysis analysisId) _ => analysisId = id
  | .suppressed (.softStopAnalysis analysisId) => analysisId = id
  | _ => False

/-- A stop of `id` is issued. -/
def Event.Stops (id : String) : Event -> Prop
  | .mutate (.stopAnalysis analysisId) _ => analysisId = id
  | _ => False

/-- The escalation of `id` runs, deletes a pod or stamps the marker. -/
def Event.Escalates (id : String) : Event -> Prop
  | .workersForAnalysis analysisId _ => analysisId = id
  | .escalationPass analysisId => analysisId = id
  | .mutate (.deletePod analysisId _ _) _ => analysisId = id
  | .store (.markSoftStopEscalated analysisId _ _) _ => analysisId = id
  | _ => False

/-- The write that records a soft stop of `id`. -/
def Event.RecordsSoftStop (id : String) : Event -> Prop
  | .store (.setSoftStop analysisId record) _ =>
      analysisId = id ∧ record.outcome ≠ .watching
  | _ => False

/-- The events that the law of an anchor speaks of. -/
def Event.Concerns (id : String) (event : Event) : Prop :=
  event.SoftStops id ∨ event.Stops id ∨ event.Escalates id ∨
    event.RecordsSoftStop id

/-!
## Moves of the stored record
-/

/-- How one call can change the stored anchor of `id`.  `R` holds of every
record that the marker is stamped on. -/
inductive AnchorMove (R : SoftStopRecord -> Prop) (id : String) :
    Event -> Option SoftStopRecord -> Option SoftStopRecord -> Prop where
  | same (event : Event) (anchor : Option SoftStopRecord) :
      AnchorMove R id event anchor anchor
  | removed (event : Event) (anchor : Option SoftStopRecord) :
      AnchorMove R id event anchor none
  | created (r : Except Exc Unit) (now : Instant) :
      AnchorMove R id (.store (.setSoftStop id (freshAnchor now)) r) none
        (some (freshAnchor now))
  | softStopped (r : Except Exc Unit) (record new : SoftStopRecord) :
      record.outcome = .watching -> record.escalatedAt = none ->
      (new.outcome = .issued ∨ new.outcome = .dryRun) ->
      AnchorMove R id (.store (.setSoftStop id new) r) (some record)
        (some { record with outcome := new.outcome })
  /-- The cap dropped the anchor between the walk's read and its write. -/
  | restored (r : Except Exc Unit) (new : SoftStopRecord) :
      (new.outcome = .issued ∨ new.outcome = .dryRun) ->
      new.escalatedAt = none ->
      AnchorMove R id (.store (.setSoftStop id new) r) none (some new)
  | escalated (r : Except Exc Unit) (record : SoftStopRecord) (now : Instant)
      (outcome : EscalationOutcome) :
      record.escalatedAt = none -> R record ->
      AnchorMove R id (.store (.markSoftStopEscalated id now outcome) r)
        (some record) (some (record.stamp now outcome))

/-!
## The law
-/

/-- The stored anchor of `id` after a history. -/
def anchorAt (initial : Status) (id : String) (trace : Trace) :
    Option SoftStopRecord :=
  softStopsField.entry id (latestStatus initial trace)

/-- The tick at hand, under `config`, acts on the anchor that it found when it
opened; since then only the cap can have dropped it. -/
structure ActsOn (initial : Status) (id : String) (older : Trace)
    (config : OperatorConfig) (record : SoftStopRecord) : Prop where
  config : currentConfig older = some config
  opening : anchorAt initial id (beforeTick older) = some record
  unescalated : record.escalatedAt = none
  now : anchorAt initial id older = some record ∨ anchorAt initial id older = none

structure AnchorLaw (R : SoftStopRecord -> Prop) (initial : Status) (id : String)
    (e : Entry) (older : Trace) : Prop where
  move : AnchorMove R id e.event (anchorAt initial id older)
    (softStopsField.entry id e.status)
  softStop : e.event.SoftStops id ->
    exists config record, ActsOn initial id older config record ∧
      record.outcome = .watching ∧
      minutes config.analysisPolicy.maxDurationMinutes < e.time - record.issuedAt
  stop : e.event.Stops id ->
    exists config record, ActsOn initial id older config record
  escalation : e.event.Escalates id ->
    exists config record, ActsOn initial id older config record ∧ R record ∧
      minutes config.analysisPolicy.gracefulStopTimeoutMinutes <
        e.time - record.issuedAt ∧
      ¬ (record.outcome = .watching ∧
        minutes config.analysisPolicy.maxDurationMinutes < e.time - record.issuedAt)
  recorded : e.event.RecordsSoftStop id ->
    exists announced act rest, older = announced :: act :: rest ∧
      (act.event = .mutate (.softStopAnalysis id) (.ok ()) ∨
        act.event = .suppressed (.softStopAnalysis id))

section Law

variable {R : SoftStopRecord -> Prop} {initial : Status} {id k : String}
variable {t : Tick} {w0 w w' : World}

theorem Within.anchor (h : Within initial t w0 w) :
    anchorAt initial k w.trace = softStopsField.entry k w.status := by
  unfold anchorAt
  rw [h.latest]

/-- A call that does not concern `k` and leaves its anchor. -/
theorem anchorLaw_of_not_concerns {e : Entry} {older : Trace}
    (hconcerns : ¬ e.event.Concerns k)
    (hmove : AnchorMove R k e.event (anchorAt initial k older)
      (softStopsField.entry k e.status)) :
    AnchorLaw R initial k e older where
  move := hmove
  softStop := fun h => absurd (Or.inl h) hconcerns
  stop := fun h => absurd (Or.inr (Or.inl h)) hconcerns
  escalation := fun h => absurd (Or.inr (Or.inr (Or.inl h))) hconcerns
  recorded := fun h => absurd (Or.inr (Or.inr (Or.inr h))) hconcerns

theorem anchorLaw_log (h : Within initial t w0 w) {event : Event}
    (hconcerns : ¬ event.Concerns k) :
    AnchorLaw R initial k ⟨t.env.now, event, w.status⟩ w.trace := by
  apply anchorLaw_of_not_concerns hconcerns
  rw [h.anchor]
  exact .same _ _

/-- What the walk holds, read off the history. -/
theorem Watches.actsOn {record : SoftStopRecord} (h : Watches t (w0.openTick t) w id record)
    (hwithin : Within initial t w0 w) (hopening : latestStatus initial w0.trace = w0.status)
    (hleaves : t.env.Leaves (softStopsField.entry id)) :
    ActsOn initial id w.trace t.config record where
  config := hwithin.config
  opening := by
    unfold anchorAt
    rw [hwithin.before, hopening]
    exact h.atStart hleaves
  unescalated := h.unescalated
  now := by
    rw [hwithin.anchor]
    exact h.now hleaves

theorem SlaStep.within {w1 : World} (h : Within initial t w0 w)
    (hstep : SlaStep t w1 id w w') : Within initial t w0 w' := by
  apply h.appends hstep.appends
  cases hstep with
  | query _ => rfl
  | look _ _ => rfl
  | anchor _ _ _ => rfl
  | retire _ _ _ _ => rfl
  | softStop _ _ _ _ hacts => cases hacts <;> rfl
  | stop _ _ _ _ _ hacts => cases hacts <;> rfl
  | stopSettled _ _ => rfl
  | stopPruned _ _ _ => rfl
  | resolve _ _ => rfl
  | pass _ _ hpass => cases hpass <;> rfl

theorem SlaRun.within (hrun : SlaRun t (w0.openTick t) (w0.openTick t) w) :
    Within initial t w0 w := by
  induction hrun with
  | refl => exact Within.openTick w0
  | tail _ hstep ih =>
      rcases hstep with ⟨id, hstep⟩
      exact hstep.within ih

theorem Within.logAll (h : Within initial t w0 w) (deletes : List Event)
    (hdeletes : DeletesPodsOf id deletes) :
    Within initial t w0 (w.logAll t.env.now deletes) := by
  apply h.appends ((Appends.refl t w).logAll deletes hdeletes)
  exact World.logAll_latest _ _ _ h.latest

/-!
## The law is kept by every step
-/

theorem anchorMove_other {event : Event} {encoded : Option SoftStopRecord}
    {r : Except Exc Unit} {s : Status} (h : Within initial t w0 w)
    (hleaves : t.env.Leaves (softStopsField.entry k)) (hne : k ≠ id)
    (hwrite : MapWrite t.env softStopsField id encoded r w.status s) :
    AnchorMove R k event (anchorAt initial k w.trace) (softStopsField.entry k s) := by
  rw [h.anchor]
  rcases hwrite.other k hne hleaves with hsame | ⟨hnone, _⟩
  · rw [hsame]
    exact .same _ _
  · rw [hnone]
    exact .removed _ _

/-- A status call that does not concern `k`. -/
theorem anchorLaw_commit {op : StoreOp} {r : Except Exc Unit} {s : Status}
    (hop : forall new, op = .setSoftStop k new -> new.outcome = .watching)
    (hmark : forall now outcome, op ≠ .markSoftStopEscalated k now outcome)
    (hmove : AnchorMove R k (.store op r) (anchorAt initial k w.trace)
      (softStopsField.entry k s)) :
    AnchorLaw R initial k ⟨t.env.now, .store op r, s⟩ w.trace := by
  apply anchorLaw_of_not_concerns _ hmove
  intro hconcerns
  rcases hconcerns with h | h | h | h
  · exact h
  · exact h
  · cases op with
    | markSoftStopEscalated analysisId now outcome =>
        have hid : analysisId = k := h
        rw [hid] at hmark
        exact hmark now outcome rfl
    | _ => exact h
  · cases op with
    | setSoftStop analysisId new =>
        have hid : analysisId = k ∧ new.outcome ≠ .watching := h
        exact hid.2 (hop new (by rw [hid.1]))
    | _ => exact h

theorem anchorLaw_stopsWrite {op : StoreOp} {encoded : Option StopRecord}
    {r : Except Exc Unit} {s : Status} (h : Within initial t w0 w)
    (hleaves : t.env.Leaves (softStopsField.entry k))
    (hop : (exists new, op = .setStopRecord id new) ∨ op = .pruneStopRecord id)
    (hwrite : MapWrite t.env stoppedAnalysesField id encoded r w.status s) :
    AnchorLaw R initial k ⟨t.env.now, .store op r, s⟩ w.trace := by
  apply anchorLaw_commit
  · intro new heq
    rcases hop with ⟨stop, hset⟩ | hprune
    · rw [hset] at heq
      cases heq
    · rw [hprune] at heq
      cases heq
  · intro now outcome heq
    rcases hop with ⟨stop, hset⟩ | hprune
    · rw [hset] at heq
      cases heq
    · rw [hprune] at heq
      cases heq
  · have hsame : softStopsField.entry k s = softStopsField.entry k w.status :=
      hwrite.frame.entry (fun _ _ => rfl) hleaves
    rw [h.anchor, hsame]
    exact .same _ _

theorem anchorLaw_anchor {r : Except Exc Unit} {s : Status}
    (h : Within initial t w0 w) (hleaves : t.env.Leaves (softStopsField.entry k))
    (hfresh : t.env.Leaves (softStopsField.entry id) ->
      softStopsField.entry id w.status = none ∨
        softStopsField.entry id w.status = some (freshAnchor t.env.now))
    (hwrite : MapWrite t.env softStopsField id (some (freshAnchor t.env.now)) r
      w.status s) :
    AnchorLaw R initial k
      ⟨t.env.now, .store (.setSoftStop id (freshAnchor t.env.now)) r, s⟩ w.trace := by
  apply anchorLaw_commit
  · intro new heq
    cases heq
    rfl
  · intro now outcome heq
    cases heq
  · rcases eq_or_ne k id with hk | hk
    · subst hk
      rw [h.anchor]
      rcases hwrite.self hleaves with hnew | ⟨_, hold⟩
      · rw [hnew]
        rcases hfresh hleaves with hnone | hsome
        · rw [hnone]
          exact .created _ _
        · rw [hsome]
          exact .same _ _
      · rw [hold]
        exact .same _ _
    · exact anchorMove_other h hleaves hk hwrite

theorem anchorLaw_retire {r : Except Exc Unit} {s : Status}
    (h : Within initial t w0 w) (hleaves : t.env.Leaves (softStopsField.entry k))
    (hwrite : MapWrite t.env softStopsField id none r w.status s) :
    AnchorLaw R initial k ⟨t.env.now, .store (.clearSoftStop id) r, s⟩ w.trace := by
  apply anchorLaw_commit
  · intro new heq
    cases heq
  · intro now outcome heq
    cases heq
  · rcases eq_or_ne k id with hk | hk
    · subst hk
      rw [h.anchor]
      rcases hwrite.self hleaves with hnew | ⟨_, hold⟩
      · rw [hnew]
        exact .removed _ _
      · rw [hold]
        exact .same _ _
    · exact anchorMove_other h hleaves hk hwrite

/-- A soft-stop call or its dry-run mark. -/
theorem anchorLaw_softStop {event : Event} {record : SoftStopRecord}
    (h : Within initial t w0 w) (hopening : latestStatus initial w0.trace = w0.status)
    (hleaves : t.env.Leaves (softStopsField.entry k))
    (hwatches : Watches t (w0.openTick t) w id record)
    (hwatching : record.outcome = .watching)
    (hover : maxRuntimeOf t < t.env.now - record.issuedAt)
    (hevent : (exists r, event = .mutate (.softStopAnalysis id) r) ∨
      event = .suppressed (.softStopAnalysis id)) :
    AnchorLaw R initial k ⟨t.env.now, event, w.status⟩ w.trace := by
  have hsubject : event.SoftStops k -> id = k := by
    intro hsoft
    rcases hevent with ⟨r, hcall⟩ | hmark
    · rw [hcall] at hsoft
      exact hsoft
    · rw [hmark] at hsoft
      exact hsoft
  constructor
  · rw [h.anchor]
    exact .same _ _
  · intro hsoft
    have hid := hsubject hsoft
    subst hid
    exact ⟨t.config, record, hwatches.actsOn h hopening hleaves, hwatching, hover⟩
  · intro hstop
    rcases hevent with ⟨r, hcall⟩ | hmark
    · rw [hcall] at hstop
      exact absurd hstop not_false
    · rw [hmark] at hstop
      exact absurd hstop not_false
  · intro hescalates
    rcases hevent with ⟨r, hcall⟩ | hmark
    · rw [hcall] at hescalates
      exact absurd hescalates not_false
    · rw [hmark] at hescalates
      exact absurd hescalates not_false
  · intro hrecords
    rcases hevent with ⟨r, hcall⟩ | hmark
    · rw [hcall] at hrecords
      exact absurd hrecords not_false
    · rw [hmark] at hrecords
      exact absurd hrecords not_false

theorem softStoppedRecord_outcome (config : OperatorConfig) (record : SoftStopRecord) :
    (softStoppedRecord config record).outcome = .issued ∨
      (softStoppedRecord config record).outcome = .dryRun := by
  unfold softStoppedRecord
  cases config.dryRun with
  | true => exact Or.inr rfl
  | false => exact Or.inl rfl

/-- The write that records a soft stop, after its call and its Event. -/
theorem anchorLaw_softStopRecorded {record : SoftStopRecord} {announced act : Entry}
    {rest : Trace} {r : Except Exc Unit} {s : Status} (h : Within initial t w0 w)
    (hleaves : t.env.Leaves (softStopsField.entry k))
    (hwatches : Watches t (w0.openTick t) w id record)
    (hwatching : record.outcome = .watching)
    (htrace : w.trace = announced :: act :: rest)
    (hact : act.event = .mutate (.softStopAnalysis id) (.ok ()) ∨
      act.event = .suppressed (.softStopAnalysis id))
    (hwrite : MapWrite t.env softStopsField id
      (some (softStoppedRecord t.config record)) r w.status s) :
    AnchorLaw R initial k
      ⟨t.env.now, .store (.setSoftStop id (softStoppedRecord t.config record)) r, s⟩
      w.trace := by
  have houtcome := softStoppedRecord_outcome t.config record
  constructor
  · rcases eq_or_ne k id with hk | hk
    · subst hk
      rw [h.anchor]
      rcases hwrite.self hleaves with hnew | ⟨_, hold⟩
      · rcases hwatches.now hleaves with hsome | hnone
        · have hmerged : softStopsField.entry k s = some { record with
              outcome := (softStoppedRecord t.config record).outcome } := by
            rw [hnew, hsome]
            rfl
          rw [hsome, hmerged]
          exact .softStopped r record _ hwatching hwatches.unescalated houtcome
        · have hcreated : softStopsField.entry k s =
              some (softStoppedRecord t.config record) := by
            rw [hnew, hnone]
            rfl
          rw [hnone, hcreated]
          exact .restored r _ houtcome rfl
      · rw [hold]
        exact .same _ _
    · exact anchorMove_other h hleaves hk hwrite
  · intro hsoft
    exact absurd hsoft not_false
  · intro hstop
    exact absurd hstop not_false
  · intro hescalates
    exact absurd hescalates not_false
  · intro hrecords
    have hid : id = k := hrecords.1
    subst hid
    exact ⟨announced, act, rest, htrace, hact⟩

/-- An event of an escalation that is not a write. -/
theorem anchorLaw_escalation {event : Event} {record : SoftStopRecord}
    (h : Within initial t w0 w) (hopening : latestStatus initial w0.trace = w0.status)
    (hleaves : t.env.Leaves (softStopsField.entry k))
    (hescalates : Escalates t (w0.openTick t) w id record)
    (hR : id = k -> R record)
    (hevent : event.Resolves id ∨ event = .escalationPass id ∨
      exists podName grace r, event = .mutate (.deletePod id podName grace) r) :
    AnchorLaw R initial k ⟨t.env.now, event, w.status⟩ w.trace := by
  have hsubject : event.Escalates k -> id = k := by
    intro hsub
    rcases hevent with hresolves | hpass | ⟨podName, grace, r, hpod⟩
    · cases event with
      | workersForAnalysis analysisId r =>
          have hid : analysisId = id := hresolves
          have hk : analysisId = k := hsub
          rw [← hid, hk]
      | listPods r => exact absurd hsub not_false
      | _ => exact absurd hresolves not_false
    · rw [hpass] at hsub
      exact hsub
    · rw [hpod] at hsub
      exact hsub
  have hnothing : ¬ event.SoftStops k ∧ ¬ event.Stops k ∧ ¬ event.RecordsSoftStop k := by
    rcases hevent with hresolves | hpass | ⟨podName, grace, r, hpod⟩
    · cases event with
      | workersForAnalysis analysisId r => exact ⟨not_false, not_false, not_false⟩
      | listPods r => exact ⟨not_false, not_false, not_false⟩
      | _ => exact absurd hresolves not_false
    · rw [hpass]
      exact ⟨not_false, not_false, not_false⟩
    · rw [hpod]
      exact ⟨not_false, not_false, not_false⟩
  constructor
  · rw [h.anchor]
    exact .same _ _
  · intro hsoft
    exact absurd hsoft hnothing.1
  · intro hstop
    exact absurd hstop hnothing.2.1
  · intro hsub
    have hid := hsubject hsub
    subst hid
    exact ⟨t.config, record, hescalates.toWatches.actsOn h hopening hleaves, hR rfl,
      hescalates.pastGrace, hescalates.notDue⟩
  · intro hrecords
    exact absurd hrecords hnothing.2.2

theorem anchorLaw_mark {record : SoftStopRecord} {outcome : EscalationOutcome}
    {r : Except Exc Unit} {s : Status}
    (h : Within initial t w0 w) (hopening : latestStatus initial w0.trace = w0.status)
    (hleaves : t.env.Leaves (softStopsField.entry k))
    (hescalates : Escalates t (w0.openTick t) w id record)
    (hR : id = k -> R record)
    (hmark : MarkWrite t.env id t.env.now outcome r w.status s) :
    AnchorLaw R initial k
      ⟨t.env.now, .store (.markSoftStopEscalated id t.env.now outcome) r, s⟩
      w.trace := by
  constructor
  · rw [h.anchor]
    rcases eq_or_ne k id with hk | hk
    · subst hk
      rcases hmark.self hleaves with ⟨current, hbefore, hafter⟩ | ⟨_, hsame⟩
      · have hcurrent : current = record := by
          rcases hescalates.now hleaves with hsome | hnone
          · rw [hsome] at hbefore
            exact (Option.some.inj hbefore).symm
          · rw [hnone] at hbefore
            exact absurd hbefore (by simp)
        rw [hcurrent] at hbefore hafter
        rw [hbefore, hafter]
        exact .escalated r record _ _ hescalates.unescalated (hR rfl)
      · rw [hsame]
        exact .same _ _
    · rw [hmark.other k hk hleaves]
      exact .same _ _
  · intro hsoft
    exact absurd hsoft not_false
  · intro hstop
    exact absurd hstop not_false
  · intro hsub
    have hid : id = k := hsub
    subst hid
    exact ⟨t.config, record, hescalates.toWatches.actsOn h hopening hleaves, hR rfl,
      hescalates.pastGrace, hescalates.notDue⟩
  · intro hrecords
    exact absurd hrecords not_false

/-- A stop call or its dry-run mark. -/
theorem anchorLaw_stop {event : Event} {record : SoftStopRecord}
    (h : Within initial t w0 w) (hopening : latestStatus initial w0.trace = w0.status)
    (hleaves : t.env.Leaves (softStopsField.entry k))
    (hwatches : Watches t (w0.openTick t) w id record)
    (hevent : (exists r, event = .mutate (.stopAnalysis id) r) ∨
      event = .suppressed (.stopAnalysis id)) :
    AnchorLaw R initial k ⟨t.env.now, event, w.status⟩ w.trace := by
  rcases hevent with ⟨r, hcall⟩ | hmark
  · subst hcall
    constructor
    · rw [h.anchor]
      exact .same _ _
    · intro hsoft
      exact absurd hsoft not_false
    · intro hstop
      have hid : id = k := hstop
      subst hid
      exact ⟨t.config, record, hwatches.actsOn h hopening hleaves⟩
    · intro hescalates
      exact absurd hescalates not_false
    · intro hrecords
      exact absurd hrecords not_false
  · subst hmark
    apply anchorLaw_log h
    intro hconcerns
    rcases hconcerns with hsoft | hstop | hescalates | hrecords
    · exact hsoft
    · exact hstop
    · exact hescalates
    · exact hrecords

theorem not_concerns_emit {type : EventType} {reason message : String}
    {r : Except Exc Unit} : ¬ (Event.emit type reason message r).Concerns k := by
  intro hconcerns
  rcases hconcerns with h | h | h | h <;> exact h

theorem not_concerns_raised : ¬ (Event.escalationRaised id).Concerns k := by
  intro hconcerns
  rcases hconcerns with h | h | h | h <;> exact h

theorem not_concerns_query {event : Event} (hquery : event.IsSlaQuery) :
    ¬ event.Concerns k := by
  intro hconcerns
  cases event with
  | listAnalyses r => rcases hconcerns with h | h | h | h <;> exact h
  | getAnalysisStatus analysisId r => rcases hconcerns with h | h | h | h <;> exact h
  | statusMapCapped field message r => rcases hconcerns with h | h | h | h <;> exact h
  | _ => exact hquery

theorem anchorLaw_look {op : StoreOp} {r : Except Exc Unit} {s : Status}
    (h : Within initial t w0 w) (hleaves : t.env.Leaves (softStopsField.entry k))
    (hop : op.IsSlaRead) (hkeeps : t.env.Keeps w.status s) :
    AnchorLaw R initial k ⟨t.env.now, .store op r, s⟩ w.trace := by
  apply anchorLaw_commit
  · intro new heq
    rw [heq] at hop
    exact absurd hop not_false
  · intro now outcome heq
    rw [heq] at hop
    exact hop
  · have hsame : softStopsField.entry k s = softStopsField.entry k w.status :=
      hkeeps _ _ hleaves
    rw [h.anchor, hsame]
    exact .same _ _

/-- The law over a block of pod deletes. -/
theorem throughout_logAll {record : SoftStopRecord}
    (hopening : latestStatus initial w0.trace = w0.status)
    (hleaves : t.env.Leaves (softStopsField.entry k)) (hR : id = k -> R record) :
    forall (deletes : List Event) (w : World), DeletesPodsOf id deletes ->
      Within initial t w0 w -> Escalates t (w0.openTick t) w id record ->
      Throughout (AnchorLaw R initial k) w.trace ->
      Throughout (AnchorLaw R initial k) (w.logAll t.env.now deletes).trace := by
  intro deletes
  induction deletes with
  | nil =>
      intro w _ _ _ hlaw
      exact hlaw
  | cons event deletes ih =>
      intro w hdeletes h hescalates hlaw
      have hpod := hdeletes event List.mem_cons_self
      have hevent : forall config, event ≠ .tickStart config := by
        intro config heq
        rcases hpod with ⟨podName, grace, r, hpod⟩
        rw [hpod] at heq
        cases heq
      apply ih (w.log t.env.now event)
      · intro e he
        exact hdeletes e (List.mem_cons_of_mem event he)
      · exact h.log hevent
      · exact hescalates.transfer fun _ => rfl
      · exact .cons (anchorLaw_escalation h hopening hleaves hescalates hR
          (Or.inr (Or.inr hpod))) hlaw

theorem throughout_softStop {record : SoftStopRecord}
    (h : Within initial t w0 w) (hopening : latestStatus initial w0.trace = w0.status)
    (hleaves : t.env.Leaves (softStopsField.entry k))
    (hwatches : Watches t (w0.openTick t) w id record)
    (hwatching : record.outcome = .watching)
    (hover : maxRuntimeOf t < t.env.now - record.issuedAt)
    (hacts : Acts t (.softStopAnalysis id) .warning analysisSoftStoppedEvent
      (.setSoftStop id (softStoppedRecord t.config record))
      (MapWrite t.env softStopsField id (some (softStoppedRecord t.config record)))
      w w')
    (hlaw : Throughout (AnchorLaw R initial k) w.trace) :
    Throughout (AnchorLaw R initial k) w'.trace := by
  have hact := actEvent_cases t.config (.softStopAnalysis id)
  have hactLaw : AnchorLaw R initial k
      ⟨t.env.now, actEvent t.config (.softStopAnalysis id), w.status⟩ w.trace := by
    apply anchorLaw_softStop h hopening hleaves hwatches hwatching hover
    rcases hact with hcall | hmark
    · exact Or.inl ⟨_, hcall⟩
    · exact Or.inr hmark
  have hwithin : Within initial t w0
      (w.log t.env.now (actEvent t.config (.softStopAnalysis id))) :=
    h.log (actEvent_ne_tickStart _ _)
  cases hacts with
  | failed e _ =>
      exact .cons (anchorLaw_softStop h hopening hleaves hwatches hwatching hover
        (Or.inl ⟨_, rfl⟩)) hlaw
  | unannounced message e =>
      exact .cons (anchorLaw_log hwithin not_concerns_emit) (.cons hactLaw hlaw)
  | recorded message r s hwrite =>
      have hannounced : Within initial t w0
          ((w.log t.env.now (actEvent t.config (.softStopAnalysis id))).log t.env.now
            (.emit .warning analysisSoftStoppedEvent message (.ok ()))) :=
        hwithin.log (by simp)
      refine .cons ?_ (.cons (anchorLaw_log hwithin not_concerns_emit) (.cons hactLaw hlaw))
      exact anchorLaw_softStopRecorded hannounced hleaves
        (hwatches.transfer fun _ => rfl) hwatching rfl hact hwrite

theorem throughout_stop {record : SoftStopRecord} {new : StopRecord}
    (h : Within initial t w0 w) (hopening : latestStatus initial w0.trace = w0.status)
    (hleaves : t.env.Leaves (softStopsField.entry k))
    (hwatches : Watches t (w0.openTick t) w id record)
    (hacts : Acts t (.stopAnalysis id) .warning analysisStoppedEvent
      (.setStopRecord id new) (MapWrite t.env stoppedAnalysesField id (some new)) w w')
    (hlaw : Throughout (AnchorLaw R initial k) w.trace) :
    Throughout (AnchorLaw R initial k) w'.trace := by
  have hactLaw : AnchorLaw R initial k
      ⟨t.env.now, actEvent t.config (.stopAnalysis id), w.status⟩ w.trace := by
    apply anchorLaw_stop h hopening hleaves hwatches
    rcases actEvent_cases t.config (.stopAnalysis id) with hcall | hmark
    · exact Or.inl ⟨_, hcall⟩
    · exact Or.inr hmark
  have hwithin : Within initial t w0
      (w.log t.env.now (actEvent t.config (.stopAnalysis id))) :=
    h.log (actEvent_ne_tickStart _ _)
  cases hacts with
  | failed e _ =>
      exact .cons (anchorLaw_stop h hopening hleaves hwatches (Or.inl ⟨_, rfl⟩)) hlaw
  | unannounced message e =>
      exact .cons (anchorLaw_log hwithin not_concerns_emit) (.cons hactLaw hlaw)
  | recorded message r s hwrite =>
      have hannounced : Within initial t w0
          ((w.log t.env.now (actEvent t.config (.stopAnalysis id))).log t.env.now
            (.emit .warning analysisStoppedEvent message (.ok ()))) :=
        hwithin.log (by simp)
      refine .cons ?_ (.cons (anchorLaw_log hwithin not_concerns_emit) (.cons hactLaw hlaw))
      exact anchorLaw_stopsWrite hannounced hleaves (Or.inl ⟨new, rfl⟩) hwrite

theorem throughout_pass {record : SoftStopRecord}
    (h : Within initial t w0 w) (hopening : latestStatus initial w0.trace = w0.status)
    (hleaves : t.env.Leaves (softStopsField.entry k))
    (hescalates : Escalates t (w0.openTick t) w id record)
    (hR : id = k -> R record) (hpass : Pass t id w w')
    (hlaw : Throughout (AnchorLaw R initial k) w.trace) :
    Throughout (AnchorLaw R initial k) w'.trace := by
  have hpassed : Within initial t w0 (w.log t.env.now (.escalationPass id)) :=
    h.log (by simp)
  have hloop : forall deletes, DeletesPodsOf id deletes ->
      Throughout (AnchorLaw R initial k)
        ((w.log t.env.now (.escalationPass id)).logAll t.env.now deletes).trace := by
    intro deletes hdeletes
    apply throughout_logAll hopening hleaves hR deletes _ hdeletes hpassed
    · exact hescalates.transfer fun _ => rfl
    · exact .cons (anchorLaw_escalation h hopening hleaves hescalates hR
        (Or.inr (Or.inl rfl))) hlaw
  have hstatus : forall deletes,
      ((w.log t.env.now (.escalationPass id)).logAll t.env.now deletes).status =
        w.status := by
    intro deletes
    rw [World.logAll_status, World.log_status]
  have hmarked : forall deletes message outcome r s, DeletesPodsOf id deletes ->
      MarkWrite t.env id t.env.now outcome r w.status s ->
      Throughout (AnchorLaw R initial k)
        ((((w.log t.env.now (.escalationPass id)).logAll t.env.now deletes).log
          t.env.now (.emit .warning analysisEscalatedEvent message (.ok ()))).commit
            t.env.now (.markSoftStopEscalated id t.env.now outcome) r s).trace := by
    intro deletes message outcome r s hdeletes hmark
    have hwithin := hpassed.logAll deletes hdeletes
    refine .cons ?_ (.cons (anchorLaw_log hwithin not_concerns_emit)
      (hloop deletes hdeletes))
    apply anchorLaw_mark (hwithin.log (by simp)) hopening hleaves _ hR
    · rw [World.log_status, hstatus]
      exact hmark
    · exact hescalates.transfer fun _ => by rw [World.log_status, hstatus]
  cases hpass with
  | raised deletes hdeletes =>
      exact .cons (anchorLaw_log (hpassed.logAll deletes hdeletes) not_concerns_raised)
        (hloop deletes hdeletes)
  | unannounced deletes message e hdeletes =>
      have hwithin := hpassed.logAll deletes hdeletes
      exact .cons (anchorLaw_log (hwithin.log (by simp)) not_concerns_raised)
        (.cons (anchorLaw_log hwithin not_concerns_emit) (hloop deletes hdeletes))
  | unmarked deletes message e outcome s hdeletes hmark =>
      have hwithin := hpassed.logAll deletes hdeletes
      exact .cons (anchorLaw_log (hwithin.log (by simp)).commit not_concerns_raised)
        (hmarked deletes message outcome _ s hdeletes hmark)
  | marked deletes message outcome s hdeletes hmark =>
      exact hmarked deletes message outcome _ s hdeletes hmark

/-- Every step keeps the law, when `R` holds of the record it escalates. -/
theorem SlaStep.throughout (h : Within initial t w0 w)
    (hopening : latestStatus initial w0.trace = w0.status)
    (hleaves : t.env.Leaves (softStopsField.entry k))
    (hR : forall record, Escalates t (w0.openTick t) w k record -> R record)
    (hstep : SlaStep t (w0.openTick t) id w w')
    (hlaw : Throughout (AnchorLaw R initial k) w.trace) :
    Throughout (AnchorLaw R initial k) w'.trace := by
  have hsubject : forall record, Escalates t (w0.openTick t) w id record ->
      id = k -> R record := by
    intro record hescalates hid
    subst hid
    exact hR record hescalates
  cases hstep with
  | query hquery => exact .cons (anchorLaw_log h (not_concerns_query hquery)) hlaw
  | look hop hkeeps => exact .cons (anchorLaw_look h hleaves hop hkeeps) hlaw
  | anchor _ hfresh hwrite =>
      exact .cons (anchorLaw_anchor h hleaves (fun hl => (hfresh hl).2) hwrite) hlaw
  | retire _ _ _ hwrite => exact .cons (anchorLaw_retire h hleaves hwrite) hlaw
  | softStop hwatches hwatching hover _ hacts =>
      exact throughout_softStop h hopening hleaves hwatches hwatching hover hacts hlaw
  | stop hwatches _ _ _ _ hacts =>
      exact throughout_stop h hopening hleaves hwatches hacts hlaw
  | stopSettled _ hwrite =>
      exact .cons (anchorLaw_stopsWrite h hleaves (Or.inl ⟨_, rfl⟩) hwrite) hlaw
  | stopPruned _ _ hwrite =>
      exact .cons (anchorLaw_stopsWrite h hleaves (Or.inr rfl) hwrite) hlaw
  | resolve hescalates hresolves =>
      exact .cons (anchorLaw_escalation h hopening hleaves hescalates
        (hsubject _ hescalates) (Or.inl hresolves)) hlaw
  | pass hescalates _ hpass =>
      exact throughout_pass h hopening hleaves hescalates (hsubject _ hescalates)
        hpass hlaw

end Law

/-!
## The clock of a stored anchor
-/

/-- The anchor of `id` is stored after the call. -/
def Present (id : String) (e : Entry) : Prop :=
  (softStopsField.entry id e.status).isSome

section Clock

variable {R : SoftStopRecord -> Prop} {initial : Status} {id : String}

theorem AnchorMove.issuedAt {event : Event} {record record' : SoftStopRecord}
    (h : AnchorMove R id event (some record) (some record')) :
    record'.issuedAt = record.issuedAt := by
  cases h with
  | same _ _ => rfl
  | softStopped r _ new _ _ _ => rfl
  | escalated r _ now outcome _ _ => rfl

/-- Nothing but the write of its own records changes an anchor that stays. -/
theorem AnchorMove.kept {event : Event} {anchor : Option SoftStopRecord}
    {record : SoftStopRecord} (h : AnchorMove R id event anchor (some record))
    (hset : forall new r, event ≠ .store (.setSoftStop id new) r)
    (hmark : forall now outcome r,
      event ≠ .store (.markSoftStopEscalated id now outcome) r) :
    anchor = some record := by
  cases h with
  | same _ _ => rfl
  | created r now => exact absurd rfl (hset _ r)
  | softStopped r _ new _ _ _ => exact absurd rfl (hset new r)
  | restored r _ _ _ => exact absurd rfl (hset _ r)
  | escalated r _ now outcome _ _ => exact absurd rfl (hmark now outcome r)

/-- While the anchor is there its clock does not move. -/
theorem issuedAt_of_present {older : Trace} {record : SoftStopRecord}
    (hrecord : anchorAt initial id older = some record) :
    forall block : Trace, Throughout (AnchorLaw R initial id) (block ++ older) ->
      (forall e, e ∈ block -> Present id e) ->
      exists record', anchorAt initial id (block ++ older) = some record' ∧
        record'.issuedAt = record.issuedAt
  | [], _, _ => ⟨record, hrecord, rfl⟩
  | e :: block, hlaw, hpresent => by
      rw [List.cons_append] at hlaw
      have hrest : forall e', e' ∈ block -> Present id e' :=
        fun e' he' => hpresent e' (List.mem_cons_of_mem e he')
      rcases issuedAt_of_present hrecord block hlaw.tail hrest with
        ⟨before, hbefore, hclock⟩
      rcases Option.isSome_iff_exists.mp (hpresent e List.mem_cons_self) with ⟨after, hafter⟩
      have hmove := hlaw.head.move
      rw [hbefore, hafter] at hmove
      exact ⟨after, hafter, hmove.issuedAt.trans hclock⟩

end Clock

/-!
## Whole runs
-/

/-- Every anchor that the tick may escalate meets `R`. -/
def EscalatesOnly (R : SoftStopRecord -> Prop) (id : String) (t : Tick)
    (w : World) : Prop :=
  t.env.Leaves (softStopsField.entry id) ∧
  forall record, softStopsField.entry id w.status = some record ->
    t.config.analysisPolicy.autoSoftStop = true -> t.env.MayReportStarted id ->
    record.escalatedAt = none -> graceOf t < t.env.now - record.issuedAt ->
    ¬ (record.outcome = .watching ∧ maxRuntimeOf t < t.env.now - record.issuedAt) ->
    R record

/-- Whole runs by induction on the steps, with the law of one anchor at hand. -/
theorem runSlaTicks_induction_law {R : SoftStopRecord -> Prop} {id : String}
    {status : Status} (P : World -> Prop)
    (hopen : forall t w, Throughout (AnchorLaw R status id) (w.openTick t).trace ->
      latestStatus status w.trace = w.status -> P w -> P (w.openTick t))
    (hstep : forall t w0 w w' subject, t.env.Leaves (softStopsField.entry id) ->
      Within status t w0 w -> Throughout (AnchorLaw R status id) w'.trace -> P w ->
      SlaStep t (w0.openTick t) subject w w' -> P w')
    {ticks : List Tick}
    (hticks : EveryTick runSlaTick (EscalatesOnly R id) ticks { status := status })
    (hP : P { status := status }) :
    Throughout (AnchorLaw R status id)
        (runTicks runSlaTick ticks { status := status }).trace ∧
      P (runTicks runSlaTick ticks { status := status }) := by
  have hinvariant : latestStatus status
        (runTicks runSlaTick ticks { status := status }).trace =
          (runTicks runSlaTick ticks { status := status }).status ∧
      Throughout (AnchorLaw R status id)
        (runTicks runSlaTick ticks { status := status }).trace ∧
      P (runTicks runSlaTick ticks { status := status }) := by
    apply runSlaTicks_induction (EscalatesOnly R id)
      (fun w => latestStatus status w.trace = w.status ∧
        Throughout (AnchorLaw R status id) w.trace ∧ P w)
    · intro t w _ hw
      have hlaw : Throughout (AnchorLaw R status id) (w.openTick t).trace := by
        refine .cons ?_ hw.2.1
        apply anchorLaw_of_not_concerns
        · intro hconcerns
          rcases hconcerns with h | h | h | h <;> exact h
        · unfold anchorAt
          show AnchorMove R id _ (softStopsField.entry id (latestStatus status w.trace)) _
          rw [hw.1]
          exact .same _ _
      exact ⟨rfl, hlaw, hopen t w hlaw hw.1 hw.2.2⟩
    · intro t w0 w w' subject hcond hopening hrun hw hstep'
      have hwithin : Within status t w0 w := SlaRun.within hrun
      have hlaw : Throughout (AnchorLaw R status id) w'.trace := by
        apply hstep'.throughout hwithin hopening.1 hcond.1 _ hw.2.1
        intro record hescalates
        exact hcond.2 record (hescalates.atStart hcond.1) hescalates.active
          hescalates.reported hescalates.unescalated hescalates.pastGrace
          hescalates.notDue
      exact ⟨(hstep'.within hwithin).latest, hlaw,
        hstep t w0 w w' subject hcond.1 hwithin hlaw hw.2.2 hstep'⟩
    · exact hticks
    · exact ⟨rfl, .nil, hP⟩
  exact hinvariant.2

theorem runSlaTicks_anchorLaw {R : SoftStopRecord -> Prop} {id : String}
    {ticks : List Tick} {status : Status}
    (hticks : EveryTick runSlaTick (EscalatesOnly R id) ticks { status := status }) :
    Throughout (AnchorLaw R status id)
      (runTicks runSlaTick ticks { status := status }).trace :=
  (runSlaTicks_induction_law (fun _ => True) (fun _ _ _ _ _ => trivial)
    (fun _ _ _ _ _ _ _ _ _ _ => trivial) hticks trivial).1

/-- Without a condition on what is escalated, other writers need only leave the
anchor alone. -/
theorem escalatesOnly_of_leaves {id : String} {ticks : List Tick} {w : World}
    (hleaves : forall t, t ∈ ticks -> t.env.Leaves (softStopsField.entry id)) :
    EveryTick runSlaTick (EscalatesOnly (fun _ => True) id) ticks w := by
  apply EveryTick.of_forall
  intro t w ht
  exact ⟨hleaves t ht, fun _ _ _ _ _ _ _ => trivial⟩

theorem runSlaTicks_tickLaw {K : OperatorConfig -> Prop} {ticks : List Tick}
    {status : Status} (hK : forall t, t ∈ ticks -> K t.config) :
    Throughout (TickLaw K) (runTicks runSlaTick ticks { status := status }).trace := by
  apply runSlaTicks_induction (fun t _ => K t.config)
    (fun w => Throughout (TickLaw K) w.trace)
  · intro t w hconfig hlaw
    exact TickLaw.openTick hconfig hlaw
  · intro t w0 w w' id _ _ hrun hlaw hstep
    have hwithin : Within status t w0 w := SlaRun.within hrun
    exact hstep.appends.tickLaw hwithin.time hlaw
  · exact EveryTick.of_forall fun t _ ht => hK t ht
  · exact .nil

end OpenStudioOperator
