import OpenStudioOperator.AnalysisSlaSteps
import OpenStudioOperator.DryRunObservation
import OpenStudioOperator.DryRunParity

/-!
# The SLA monitor under the flag

A soft stop leaves `issued` in the live run and `dry-run` in the dry one, and
the stop block of a later tick opens for `issued` only.  Two runs that observe
the same are followed side by side, up to the spelling of these outcomes, as
long as no tick acts on an anchor whose outcomes differ.
-/

namespace OpenStudioOperator

open Foundation Prog

namespace DryRun

/-!
## Alike writes
-/

theorem tells_none {record : Type} {view : record -> record} {stored : Option record} :
    Tells view stored none := by
  intro h
  cases stored with
  | none => rfl
  | some _ => cases h

theorem tells_rigid {record : Type} {view : record -> record} {stored : Option record}
    {encoded : record} (hrigid : forall r, view r = view encoded -> r = encoded) :
    Tells view stored (some encoded) := by
  intro h
  cases stored with
  | none => cases h
  | some r => rw [hrigid r (Option.some.inj h)]

theorem rigid_freshAnchor (now : Instant) (record : SoftStopRecord)
    (h : dryAnchor record = dryAnchor (freshAnchor now)) : record = freshAnchor now := by
  have hissued := congrArg SoftStopRecord.issuedAt h
  have houtcome := dryOutcome_eq_watching.mp (congrArg SoftStopRecord.outcome h)
  have hescalated := congrArg SoftStopRecord.escalatedAt h
  have hescalation := congrArg SoftStopRecord.escalationOutcome h
  cases record with
  | mk issuedAt outcome escalatedAt escalationOutcome =>
      cases escalationOutcome with
      | none =>
          cases hissued
          cases houtcome
          cases hescalated
          rfl
      | some _ => cases hescalation

theorem rigid_stop {stop : StopRecord} (hplain : stop.outcome = .completed ∨ stop.outcome = .timeout)
    (record : StopRecord) (h : dryStop record = dryStop stop) : record = stop := by
  have hissued := congrArg StopRecord.issuedAt h
  have houtcome := congrArg StopRecord.outcome h
  have hstopped := congrArg StopRecord.stoppedAt h
  cases record with
  | mk issuedAt outcome stoppedAt =>
      cases stop with
      | mk issuedAt' outcome' stoppedAt' =>
          cases hissued
          cases hstopped
          rcases hplain with hcompleted | htimeout
          · cases hcompleted
            cases outcome with
            | completed => rfl
            | _ => cases houtcome
          · cases htimeout
            cases outcome with
            | timeout => rfl
            | _ => cases houtcome

section Alike

variable {s s' : Status} {id : String} {protectedIds : List String} {now : Instant}

theorem retired_alike {stop stop' : StopRecord} {stoppedAt : Instant}
    (h : dryStatus s = dryStatus s') (hstop : dryStop stop = dryStop stop') :
    dryStatus (retired protectedIds id stop stoppedAt s) =
      dryStatus (retired protectedIds id stop' stoppedAt s') := by
  unfold retired
  rw [issuedAt_of_dryStop hstop]
  apply written_alike respells_stoppedAnalyses ?_ rfl tells_none tells_none
  apply written_alike respells_stoppedAnalyses h rfl
  · exact tells_rigid (rigid_stop (Or.inl rfl))
  · exact tells_rigid (rigid_stop (Or.inl rfl))

theorem awaited_alike {stop stop' : StopRecord} (h : dryStatus s = dryStatus s')
    (hstop : dryStop stop = dryStop stop') :
    (awaited now protectedIds id stop s).1 = (awaited now protectedIds id stop' s').1 ∧
      dryStatus (awaited now protectedIds id stop s).2 =
        dryStatus (awaited now protectedIds id stop' s').2 := by
  unfold awaited
  rw [stoppedAt_of_dryStop hstop, issuedAt_of_dryStop hstop]
  cases stop'.stoppedAt with
  | some stoppedAt => exact ⟨rfl, retired_alike h hstop⟩
  | none =>
      dsimp only
      split_ifs
      · constructor
        · rfl
        · apply written_alike respells_stoppedAnalyses h rfl
          · exact tells_rigid (rigid_stop (Or.inr rfl))
          · exact tells_rigid (rigid_stop (Or.inr rfl))
      · exact ⟨rfl, h⟩

theorem stopOutcome_alike {config config' : OperatorConfig} (h : dryStatus s = dryStatus s') :
    (stopOutcome config now protectedIds id s).1 =
        (stopOutcome config' now protectedIds id s').1 ∧
      dryStatus (stopOutcome config now protectedIds id s).2 =
        dryStatus (stopOutcome config' now protectedIds id s').2 := by
  have hentry : (stoppedAnalysesField.entry id s).map dryStop =
      (stoppedAnalysesField.entry id s').map dryStop := by
    rw [← respells_stoppedAnalyses.entry, ← respells_stoppedAnalyses.entry, h]
  unfold stopOutcome
  cases hstored : stoppedAnalysesField.entry id s with
  | none =>
      rw [hstored] at hentry
      cases hstored' : stoppedAnalysesField.entry id s' with
      | none =>
          constructor
          · rfl
          · apply written_alike respells_stoppedAnalyses h
            · unfold stopIssuedRecord
              cases config.dryRun <;> cases config'.dryRun <;> rfl
            · rw [hstored]
              intro hnone
              cases hnone
            · rw [hstored']
              intro hnone
              cases hnone
      | some stop' =>
          rw [hstored'] at hentry
          cases hentry
  | some stop =>
      rw [hstored] at hentry
      cases hstored' : stoppedAnalysesField.entry id s' with
      | none =>
          rw [hstored'] at hentry
          cases hentry
      | some stop' =>
          rw [hstored'] at hentry
          exact awaited_alike h (Option.some.inj hentry)

/-- The stop block leaves the anchors alone. -/
theorem softStops_stopOutcome (config : OperatorConfig) :
    (stopOutcome config now protectedIds id s).2.softStops = s.softStops := by
  have hwrite : forall encoded t, (written stoppedAnalysesField protectedIds id encoded t).softStops =
      t.softStops := by
    intro encoded t
    exact view_written fun _ _ => rfl
  unfold stopOutcome
  cases stoppedAnalysesField.entry id s with
  | none => exact hwrite _ _
  | some stop =>
      dsimp only
      unfold awaited
      cases stop.stoppedAt with
      | some stoppedAt => exact (hwrite _ _).trans (hwrite _ _)
      | none =>
          dsimp only
          split_ifs
          · exact hwrite _ _
          · rfl

theorem stamped_alike {record record' : SoftStopRecord} (h : dryStatus s = dryStatus s')
    (hrecord : dryAnchor record = dryAnchor record') (outcome outcome' : EscalationOutcome) :
    dryStatus (stamped id now outcome record s) = dryStatus (stamped id now outcome' record' s') := by
  have hstamp : dryAnchor (record.stamp now outcome) = dryAnchor (record'.stamp now outcome') := by
    show (dryAnchor record).stamp now .dryRun = (dryAnchor record').stamp now .dryRun
    rw [hrecord]
  have hmap : s.softStops.mapValues (fun _ => dryAnchor) =
      s'.softStops.mapValues fun _ => dryAnchor := congrArg Status.softStops h
  unfold stamped
  rw [respells_softStops.write, respells_softStops.write, Dict.mapValues_set, Dict.mapValues_set,
    hmap, hstamp, h]

end Alike

/-!
## Two runs
-/

/-- The same status up to the spelling, and alike in what else a tick looks at. -/
structure InParity (w w' : World) : Prop where
  status : dryStatus w.status = dryStatus w'.status
  protectedKeys : w.protectedKeys = w'.protectedKeys
  asked : asked w.trace = asked w'.trace

/-- The anchors other than that of `id` are as they were, or evicted. -/
def Spares (id : String) (s s' : Status) : Prop :=
  forall k, k ≠ id ->
    softStopsField.entry k s' = softStopsField.entry k s ∨ softStopsField.entry k s' = none

/-- Both runs visited the anchor of `id`. -/
structure Visited (id : String) (w w' t t' : World) : Prop where
  parity : InParity t t'
  spares : Spares id w.status t.status
  spares' : Spares id w'.status t'.status

theorem Spares.of_eq {id : String} {s s' : Status} (h : s'.softStops = s.softStops) :
    Spares id s s' := by
  intro k _
  left
  show s'.softStops.get? k = s.softStops.get? k
  rw [h]

theorem Spares.trans {id : String} {s s' s'' : Status} (h : Spares id s s')
    (h' : Spares id s' s'') : Spares id s s'' := by
  intro k hk
  rcases h' k hk with hsame | hnone
  · rw [hsame]
    exact h k hk
  · exact Or.inr hnone

theorem spares_written {id : String} {s : Status} {protectedIds : List String}
    {encoded : Option SoftStopRecord} :
    Spares id s (written softStopsField protectedIds id encoded s) :=
  fun _ hk => entry_written_other hk

theorem spares_stamped {id : String} {s : Status} {now : Instant} {outcome : EscalationOutcome}
    {record : SoftStopRecord} : Spares id s (stamped id now outcome record s) :=
  fun _ hk => Or.inl (Dict.get?_set_of_ne s.softStops _ hk)

section InParity

variable {w w' t t' : World} {s s' : Status} {id : String}

theorem InParity.at (h : InParity w w') (ht : At w s t) (ht' : At w' s' t')
    (hs : dryStatus s = dryStatus s') : InParity t t' where
  status := by
    rw [ht.status, ht'.status]
    exact hs
  protectedKeys := by
    rw [ht.protectedKeys, ht'.protectedKeys]
    exact h.protectedKeys
  asked := by
    rw [ht.asked, ht'.asked]
    exact h.asked

theorem InParity.visited (h : InParity w w') (ht : At w s t) (ht' : At w' s' t')
    (hs : dryStatus s = dryStatus s') (hspares : Spares id w.status s)
    (hspares' : Spares id w'.status s') : Visited id w w' t t' where
  parity := h.at ht ht' hs
  spares := by
    rw [ht.status]
    exact hspares
  spares' := by
    rw [ht'.status]
    exact hspares'

theorem InParity.unvisited (h : InParity w w') : Visited id w w' w w' where
  parity := h
  spares := Spares.of_eq rfl
  spares' := Spares.of_eq rfl

theorem InParity.anchor (h : InParity w w') (id : String) :
    (softStopsField.entry id w.status).map dryAnchor =
      (softStopsField.entry id w'.status).map dryAnchor := by
  rw [← respells_softStops.entry, ← respells_softStops.entry, h.status]

theorem rwp_of_settles {alpha alpha' : Type} {env : Env} {m : OpM alpha} {m' : OpM alpha'}
    {a : alpha} {a' : alpha'} {Q : alpha -> alpha' -> World -> World -> Prop}
    {E : Exc -> Exc -> World -> World -> Prop} (h : Settles env w m w.status a s)
    (h' : Settles env w' m' w'.status a' s')
    (hQ : forall t t', At w s t -> At w' s' t' -> Q a a' t t') :
    rwp m m' env w w' Q E := by
  apply rwp_of_wp (h w (At.refl w)) (h' w' (At.refl w'))
  intro b b' t t' hb hb'
  rw [hb.1, hb'.1]
  exact hQ t t' hb.2 hb'.2

end InParity

/-!
## One visit
-/

/-- The policy under one value of the flag. -/
def withFlag (config : OperatorConfig) (dry : Bool) : OperatorConfig :=
  { config with dryRun := dry }

section Visit

variable {o : Observation} {config : OperatorConfig} {id : String} {w w' : World}
variable {record record' : SoftStopRecord} {E : Exc -> Exc -> World -> World -> Prop}

theorem clearSoftStop_alike (h : InParity w w') :
    rwp (clearSoftStop id) (clearSoftStop id) o.env w w'
      (fun _ _ t t' => Visited id w w' t t') E := by
  apply rwp_of_settles settles_setMapEntry settles_setMapEntry
  intro t t' ht ht'
  apply h.visited ht ht' ?_ spares_written spares_written
  rw [h.protectedKeys]
  exact written_alike respells_softStops h.status rfl tells_none tells_none

/-- What the walk read for an anchor is still stored, or the cap evicted it. -/
def StillStored (id : String) (record : SoftStopRecord) (s : Status) : Prop :=
  softStopsField.entry id s = some record ∨ softStopsField.entry id s = none

theorem tells_softStopped {s : Status} (hstored : StillStored id record s)
    (hwatching : record.outcome = .watching) (dry : Bool) :
    Tells dryAnchor (softStopsField.entry id s)
      (some (softStoppedRecord (withFlag config dry) record)) := by
  intro hsame
  rcases hstored with hstored | hnone
  · rw [hstored] at hsame
    have houtcome := congrArg SoftStopRecord.outcome (Option.some.inj hsame)
    have hdry : dryOutcome record.outcome =
        dryOutcome (softStoppedRecord (withFlag config dry) record).outcome := houtcome
    rw [hwatching] at hdry
    cases dry with
    | true => cases hdry
    | false => cases hdry
  · rw [hnone] at hsame
    cases hsame

theorem softStop_alike (h : InParity w w') (hrecord : dryAnchor record = dryAnchor record')
    (hwatching : record.outcome = .watching) (hstored : StillStored id record w.status)
    (hstored' : StillStored id record' w'.status) :
    rwp (softStop (withFlag config true) id record) (softStop (withFlag config false) id record')
      o.env w w' (fun _ _ t t' => Visited id w w' t t') E := by
  have hwatching' : record'.outcome = .watching := (watching_of_dryAnchor hrecord).mp hwatching
  apply rwp_of_settles settles_softStop settles_softStop
  intro t t' ht ht'
  apply h.visited ht ht' ?_ spares_written spares_written
  rw [h.protectedKeys]
  apply written_alike respells_softStops h.status
  · unfold softStoppedRecord
    rw [issuedAt_of_dryAnchor hrecord]
    rfl
  · exact tells_softStopped hstored hwatching true
  · exact tells_softStopped hstored' hwatching' false

theorem escalateAnalysis_alike (h : InParity w w')
    (hrecord : dryAnchor record = dryAnchor record') (hfresh : record.escalatedAt = none)
    (hstored : StillStored id record w.status) (hstored' : StillStored id record' w'.status) :
    rwp (escalateAnalysis (withFlag config true) id record)
      (escalateAnalysis (withFlag config false) id record') o.env w w'
      (fun _ _ t t' => Visited id w w' t t') (fun x x' t t' => x = x' ∧ InParity t t') := by
  have hfresh' : record'.escalatedAt = none := (escalatedAt_of_dryAnchor hrecord).symm.trans hfresh
  have hanchor := h.anchor id
  rcases hstored with hstored | hnone
  · rcases hstored' with hstored' | hnone'
    · apply rwp_of_wp (wp_escalateAnalysis_stored hstored hfresh (At.refl w))
        (wp_escalateAnalysis_stored hstored' hfresh' (At.refl w'))
      intro _ _ t t' ht ht'
      rcases ht with ⟨marked, ht⟩
      rcases ht' with ⟨marked', ht'⟩
      exact h.visited ht ht' (stamped_alike h.status hrecord marked marked') spares_stamped
        spares_stamped
    · rw [hstored, hnone'] at hanchor
      cases hanchor
  · rcases hstored' with hstored' | hnone'
    · rw [hnone, hstored'] at hanchor
      cases hanchor
    · apply rwp_of_raises (wp_escalateAnalysis_vanished hnone (At.refl w))
        (wp_escalateAnalysis_vanished hnone' (At.refl w'))
      intro x x' t t' hx hx'
      exact ⟨hx.1.trans hx'.1.symm, h.at hx.2 hx'.2 h.status⟩

theorem escalateIf_alike (h : InParity w w') (hrecord : dryAnchor record = dryAnchor record')
    (hfresh : record.escalatedAt = none) (hstored : StillStored id record w.status)
    (hstored' : StillStored id record' w'.status) (decision : StopDecision)
    (result : SlaTickResult) :
    rwp (escalateIf (withFlag config true) id record decision result)
      (escalateIf (withFlag config false) id record' decision result) o.env w w'
      (fun b b' t t' => b = b' ∧ Visited id w w' t t')
      (fun x x' t t' => x = x' ∧ InParity t t') := by
  unfold escalateIf
  cases decision.escalate with
  | true =>
      rw [if_pos rfl, if_pos rfl]
      apply rwp_seq (escalateAnalysis_alike h hrecord hfresh hstored hstored')
      intro _ _ t t' hvisited
      exact rwp_pure ⟨rfl, hvisited⟩
  | false =>
      rw [if_neg Bool.false_ne_true, if_neg Bool.false_ne_true]
      exact rwp_pure ⟨rfl, h.unvisited⟩

theorem StillStored.of_eq {s s' : Status} (hstored : StillStored id record s)
    (h : s'.softStops = s.softStops) : StillStored id record s' := by
  unfold StillStored MapField.entry softStopsField at *
  dsimp only at *
  rw [h]
  exact hstored

/-- The stop block and what follows it, for two anchors that are both issued. -/
theorem stopBlock_alike (h : InParity w w') (hrecord : dryAnchor record = dryAnchor record')
    (hfresh : record.escalatedAt = none) (hstored : StillStored id record w.status)
    (hstored' : StillStored id record' w'.status) (result : SlaTickResult) :
    rwp
      (stopBlock (withFlag config true) id >>= fun decision =>
        escalateIf (withFlag config true) id record decision result)
      (stopBlock (withFlag config false) id >>= fun decision =>
        escalateIf (withFlag config false) id record' decision result) o.env w w'
      (fun b b' t t' => b = b' ∧ Visited id w w' t t')
      (fun x x' t t' => x = x' ∧ InParity t t') := by
  apply rwp_bind
  apply rwp_of_settles settles_stopBlock settles_stopBlock
  intro t t' ht ht'
  rw [h.protectedKeys] at ht ⊢
  have hblock := @stopOutcome_alike w.status w'.status id (w'.protectedKeys .stoppedAnalyses) o.now
    (withFlag config true) (withFlag config false) h.status
  have hsame : t.status.softStops = w.status.softStops := by
    rw [ht.status]
    exact softStops_stopOutcome _
  have hsame' : t'.status.softStops = w'.status.softStops := by
    rw [ht'.status]
    exact softStops_stopOutcome _
  rw [hblock.1]
  apply rwp_imp (escalateIf_alike (h.at ht ht' hblock.2) hrecord hfresh (hstored.of_eq hsame)
    (hstored'.of_eq hsame') _ result)
  intro b b' u u' hb
  constructor
  · exact hb.1
  · constructor
    · exact hb.2.parity
    · exact (Spares.of_eq hsame).trans hb.2.spares
    · exact (Spares.of_eq hsame').trans hb.2.spares'

/-- A visit of the walk, unless the two anchors part the runs. -/
theorem graceStep_alike (h : InParity w w') (hrecord : dryAnchor record = dryAnchor record')
    (hstored : StillStored id record w.status) (hstored' : StillStored id record' w'.status)
    {startedIds : List String}
    (hunsplit : id ∈ startedIds -> record.escalatedAt = none ->
      minutes config.analysisPolicy.gracefulStopTimeoutMinutes < o.now - record.issuedAt ->
      record.outcome = record'.outcome) (result : SlaTickResult) :
    rwp (graceStep (withFlag config true) startedIds id record result)
      (graceStep (withFlag config false) startedIds id record' result) o.env w w'
      (fun b b' t t' => b = b' ∧ Visited id w w' t t')
      (fun x x' t t' => x = x' ∧ InParity t t') := by
  have hissuedAt := issuedAt_of_dryAnchor hrecord
  have hescalatedAt := escalatedAt_of_dryAnchor hrecord
  have hwatching := watching_of_dryAnchor hrecord
  unfold graceStep
  apply rwp_bind
  apply rwp_read
  dsimp only
  rw [← hissuedAt, ← hescalatedAt]
  apply rwp_ite Iff.rfl
  · -- no longer reported started
    intro _ _
    apply rwp_seq (clearSoftStop_alike h)
    intro _ _ t t' hvisited
    exact rwp_pure ⟨rfl, hvisited⟩
  · intro hstarted _
    apply rwp_ite Iff.rfl
    · intro _ _
      exact rwp_pure ⟨rfl, h.unvisited⟩
    · intro hunescalated _
      have hfresh : record.escalatedAt = none := Option.not_isSome_iff_eq_none.mp hunescalated
      apply rwp_ite (and_congr_left' hwatching)
      · intro hdue _
        apply rwp_seq (softStop_alike h hrecord hdue.1 hstored hstored')
        intro _ _ t t' hvisited
        exact rwp_pure ⟨rfl, hvisited⟩
      · intro _ _
        apply rwp_ite Iff.rfl
        · intro _ _
          exact rwp_pure ⟨rfl, h.unvisited⟩
        · intro hgrace _
          -- past the grace both runs hold the same outcome
          rw [← hunsplit (not_not.mp hstarted) hfresh (Int.not_le.mp hgrace)]
          apply rwp_ite Iff.rfl
          · intro _ _
            exact stopBlock_alike h hrecord hfresh hstored hstored' result
          · intro _ _
            exact escalateIf_alike h hrecord hfresh hstored hstored' _ result

end Visit

/-!
## The walk
-/

/-- The two anchors of one analysis differ in their outcome and are due: the
stop block opens for one of them only. -/
def splitPastGrace (config : OperatorConfig) (now : Instant) :
    Option SoftStopRecord -> Option SoftStopRecord -> Bool
  | some record, some record' =>
      decide (record.outcome ≠ record'.outcome) && record.escalatedAt.isNone &&
        decide (minutes config.analysisPolicy.gracefulStopTimeoutMinutes < now - record.issuedAt)
  | _, _ => false

/-- None of the analyses has such anchors. -/
def Unsplit (config : OperatorConfig) (now : Instant) (ids : List String) (s s' : Status) :
    Prop :=
  forall id, id ∈ ids -> splitPastGrace config now (softStopsField.entry id s)
    (softStopsField.entry id s') = false

def dryEntry (entry : String × SoftStopRecord) : String × SoftStopRecord :=
  (entry.1, dryAnchor entry.2)

/-- Both walks have the same anchors before them, as they were read from `s`
and `s'`. -/
structure Walking (s s' : Status) (rest rest' : List (String × SoftStopRecord))
    (w w' : World) : Prop where
  parity : InParity w w'
  paired : rest.map dryEntry = rest'.map dryEntry
  read : forall p, p ∈ rest -> softStopsField.entry p.1 s = some p.2
  read' : forall p, p ∈ rest' -> softStopsField.entry p.1 s' = some p.2
  stored : forall p, p ∈ rest -> StillStored p.1 p.2 w.status
  stored' : forall p, p ∈ rest' -> StillStored p.1 p.2 w'.status
  nodup : (rest.map Prod.fst).Nodup

section Walk

variable {o : Observation} {config : OperatorConfig} {w w' t t' : World} {s s' : Status}
variable {rest rest' : List (String × SoftStopRecord)} {p p' : String × SoftStopRecord}

theorem keys_of_paired (h : rest.map dryEntry = rest'.map dryEntry) :
    rest.map Prod.fst = rest'.map Prod.fst := by
  have hkeys := congrArg (List.map Prod.fst) h
  rw [List.map_map, List.map_map] at hkeys
  exact hkeys

theorem stored_after {id : String} (hid : id ∉ rest.map Prod.fst)
    (hstored : forall p, p ∈ rest -> StillStored p.1 p.2 s) (hspares : Spares id s s') :
    forall p, p ∈ rest -> StillStored p.1 p.2 s' := by
  intro p hp
  have hne : p.1 ≠ id := by
    intro heq
    apply hid
    rw [← heq]
    exact List.mem_map_of_mem hp
  rcases hspares p.1 hne with hsame | hnone
  · unfold StillStored
    rw [hsame]
    exact hstored p hp
  · exact Or.inr hnone

theorem Walking.visit (h : Walking s s' (p :: rest) (p' :: rest') w w')
    (hvisited : Visited p.1 w w' t t') : Walking s s' rest rest' t t' := by
  have hpaired := h.paired
  rw [List.map_cons, List.map_cons, List.cons.injEq] at hpaired
  have hnodup := h.nodup
  rw [List.map_cons, List.nodup_cons] at hnodup
  have hid' : p.1 ∉ rest'.map Prod.fst := by
    rw [← keys_of_paired hpaired.2]
    exact hnodup.1
  constructor
  · exact hvisited.parity
  · exact hpaired.2
  · exact fun q hq => h.read q (List.mem_cons_of_mem p hq)
  · exact fun q hq => h.read' q (List.mem_cons_of_mem p' hq)
  · exact stored_after hnodup.1 (fun q hq => h.stored q (List.mem_cons_of_mem p hq))
      hvisited.spares
  · exact stored_after hid' (fun q hq => h.stored' q (List.mem_cons_of_mem p' hq))
      hvisited.spares'
  · exact hnodup.2

/-- The walks start with what both statuses hold. -/
theorem InParity.walking (h : InParity w w') (ht : At w w.status t) (ht' : At w' w'.status t') :
    Walking w.status w'.status w.status.softStops.entries w'.status.softStops.entries t t' := by
  have hread : forall (s : Status) (p : String × SoftStopRecord), p ∈ s.softStops.entries ->
      softStopsField.entry p.1 s = some p.2 :=
    fun s p hp => (s.softStops.mem_entries_iff_get? p.1 p.2).mp hp
  constructor
  · exact h.at ht ht' h.status
  · have hmaps := congrArg (fun s => s.softStops.entries) h.status
    exact hmaps
  · exact hread w.status
  · exact hread w'.status
  · intro p hp
    unfold StillStored
    rw [ht.status]
    exact Or.inl (hread w.status p hp)
  · intro p hp
    unfold StillStored
    rw [ht'.status]
    exact Or.inl (hread w'.status p hp)
  · exact w.status.softStops.nodupKeys

theorem outcome_of_unsplit {record record' : SoftStopRecord}
    (h : splitPastGrace config o.now (some record) (some record') = false)
    (hfresh : record.escalatedAt = none)
    (hgrace : minutes config.analysisPolicy.gracefulStopTimeoutMinutes < o.now - record.issuedAt) :
    record.outcome = record'.outcome := by
  unfold splitPastGrace at h
  dsimp only at h
  rw [hfresh, decide_eq_true hgrace, Option.isNone_none, Bool.and_true, Bool.and_true] at h
  exact not_not.mp (of_decide_eq_false h)

theorem graceAndEscalate_alike {startedIds : List String} (h : InParity w w')
    (hunsplit : Unsplit config o.now startedIds w.status w'.status) :
    rwp (graceAndEscalate (withFlag config true) startedIds)
      (graceAndEscalate (withFlag config false) startedIds) o.env w w'
      (fun b b' t t' => b = b' ∧ InParity t t') (fun x x' t t' => x = x' ∧ InParity t t') := by
  unfold graceAndEscalate
  apply rwp_bind
  apply rwp_of_settles settles_getSoftStops settles_getSoftStops
  intro t t' ht ht'
  have hwalking := h.walking ht ht'
  apply rwp_foldlM fun rest rest' b b' u u' =>
    b = b' ∧ Walking w.status w'.status rest rest' u u'
  · intro p p' rest rest' b b' u u' hI
    rcases hI with ⟨hb, hwalk⟩
    have hpaired := hwalk.paired
    rw [List.map_cons, List.map_cons, List.cons.injEq] at hpaired
    rcases Prod.mk.inj hpaired.1 with ⟨hkey, hrecord⟩
    have hread := hwalk.read p List.mem_cons_self
    have hread' := hwalk.read' p' List.mem_cons_self
    have hstored' := hwalk.stored' p' List.mem_cons_self
    rw [← hkey] at hread' hstored'
    rw [← hb, ← hkey]
    apply rwp_imp (graceStep_alike hwalk.parity hrecord (hwalk.stored p List.mem_cons_self)
      hstored' ?_ b)
    · intro c c' v v' hc
      exact ⟨hc.1, hwalk.visit hc.2⟩
    · intro hstarted hfresh hgrace
      have hsame := hunsplit p.1 hstarted
      rw [hread, hread'] at hsame
      exact outcome_of_unsplit hsame hfresh hgrace
  · intro b b' u u' hI
    exact ⟨hI.1, hI.2.parity⟩
  · have hlength := congrArg List.length hwalking.paired
    rw [List.length_map, List.length_map] at hlength
    exact hlength
  · exact ⟨rfl, hwalking⟩

end Walk

/-!
## First sights
-/

/-- Phase A has the listed analyses `rest` before it, and the runs are not
parted. -/
structure Sighting (config : OperatorConfig) (o : Observation) (rest : List AnalysisDoc)
    (startedIds : List String) (w w' : World) : Prop where
  parity : InParity w w'
  unsplit : Unsplit config o.now o.reported w.status w'.status
  seen : (o.reportedFrom (asked w.trace) rest).map (fun later => startedIds ++ later) =
    o.startedView

section FirstSight

variable {o : Observation} {config : OperatorConfig} {w w' t t' : World} {id : String}

/-- The world after the answer to a `status.json` request. -/
def answeredStatus (o : Observation) (id : String) (w : World) : World :=
  w.log o.now (.getAnalysisStatus id (.ok (o.statusAnswer (asked w.trace) id)))

theorem asked_answeredStatus : asked (answeredStatus o id w).trace = asked w.trace + 1 :=
  asked_log fun _ h => by cases h

theorem InParity.answeredStatus (h : InParity w w') :
    InParity (answeredStatus o id w) (answeredStatus o id w') where
  status := h.status
  protectedKeys := h.protectedKeys
  asked := by
    rw [asked_answeredStatus, asked_answeredStatus, h.asked]

theorem statusIsStarted_alike (h : InParity w w') {Q : Bool -> Bool -> World -> World -> Prop}
    {E : Exc -> Exc -> World -> World -> Prop}
    (hQ : forall started, payloadIsStarted (o.statusAnswer (asked w.trace) id) = .ok started ->
      Q started started (answeredStatus o id w) (answeredStatus o id w'))
    (hE : forall e, E e e (answeredStatus o id w) (answeredStatus o id w')) :
    rwp (statusIsStarted id) (statusIsStarted id) o.env w w' Q E := by
  unfold statusIsStarted
  apply rwp_bind
  show rwp _ _ o.env (DryRun.answeredStatus o id w) (DryRun.answeredStatus o id w') Q E
  rw [← h.asked]
  cases hanswer : payloadIsStarted (o.statusAnswer (asked w.trace) id) with
  | ok started => exact rwp_pure (hQ started hanswer)
  | error e => exact rwp_throw (hE e)

/-- Anchoring the same analysis in both runs parts nothing. -/
theorem Unsplit.anchored {ids : List String} {s s' : Status} {protectedIds : List String}
    (h : Unsplit config o.now ids s s') :
    Unsplit config o.now ids
      (written softStopsField protectedIds id (some (freshAnchor o.now)) s)
      (written softStopsField protectedIds id (some (freshAnchor o.now)) s') := by
  have hnone : forall stored, splitPastGrace config o.now stored none = false := by
    intro stored
    cases stored <;> rfl
  intro k hk
  rcases eq_or_ne k id with hsame | hne
  · -- both anchors are watching now
    rw [hsame, entry_written_self, entry_written_self]
    have hwatching : forall stored : Option SoftStopRecord,
        (mergeEntry softStopsField.merge stored (freshAnchor o.now)).outcome = .watching := by
      intro stored
      cases stored <;> rfl
    rw [Option.map_some, Option.map_some]
    unfold splitPastGrace
    dsimp only
    rw [hwatching, hwatching]
    rfl
  · rcases @entry_written_other _ _ softStopsField protectedIds id (some (freshAnchor o.now)) s k
      hne with hkept | hgone
    · rcases @entry_written_other _ _ softStopsField protectedIds id (some (freshAnchor o.now)) s'
        k hne with hkept' | hgone'
      · rw [hkept, hkept']
        exact h k hk
      · rw [hgone']
        exact hnone _
    · rw [hgone]
      rfl

theorem anchor_alike (h : InParity w w') :
    rwp (setSoftStop id { issuedAt := o.now, outcome := .watching })
      (setSoftStop id { issuedAt := o.now, outcome := .watching }) o.env w w'
      (fun _ _ t t' => InParity t t' ∧ asked t.trace = asked w.trace ∧
        (Unsplit config o.now o.reported w.status w'.status ->
          Unsplit config o.now o.reported t.status t'.status))
      (fun x x' t t' => x = x' ∧ InParity t t') := by
  apply rwp_of_settles settles_setMapEntry settles_setMapEntry
  intro t t' ht ht'
  rw [h.protectedKeys] at ht
  constructor
  · apply h.at ht ht'
    apply written_alike respells_softStops h.status rfl
    · exact tells_rigid (rigid_freshAnchor o.now)
    · exact tells_rigid (rigid_freshAnchor o.now)
  · constructor
    · exact ht.asked
    · intro hunsplit
      rw [ht.status, ht'.status]
      exact hunsplit.anchored

theorem firstSight_alike {softStops softStops' : Dict String SoftStopRecord}
    (hkeys : forall k, softStops.contains k = softStops'.contains k) {doc : AnalysisDoc}
    {rest : List AnalysisDoc} {startedIds : List String}
    (h : Sighting config o (doc :: rest) startedIds w w') :
    rwp (firstSight softStops startedIds doc) (firstSight softStops' startedIds doc) o.env w w'
      (fun b b' t t' => b = b' ∧ Sighting config o rest b t t')
      (fun x x' t t' => x = x' ∧ InParity t t') := by
  have hseen := h.seen
  unfold Observation.reportedFrom at hseen
  unfold firstSight
  apply rwp_bind
  apply rwp_read
  cases hid : doc.id with
  | none =>
      rw [hid] at hseen
      exact rwp_pure ⟨rfl, h.parity, h.unsplit, hseen⟩
  | some id =>
      simp only [hid] at hseen
      apply rwp_ite Iff.rfl
      · intro hempty _
        rw [if_pos hempty] at hseen
        exact rwp_pure ⟨rfl, h.parity, h.unsplit, hseen⟩
      · intro hnamed _
        rw [if_neg hnamed] at hseen
        apply rwp_bind
        apply statusIsStarted_alike h.parity
        · intro started hanswer
          rw [hanswer, ← @asked_answeredStatus o w id] at hseen
          have hparity : InParity (answeredStatus o id w) (answeredStatus o id w') :=
            h.parity.answeredStatus
          cases started with
          | false => exact rwp_pure ⟨rfl, hparity, h.unsplit, hseen⟩
          | true =>
              have hnext : (o.reportedFrom (asked (answeredStatus o id w).trace) rest).map
                  (fun later => (startedIds ++ [id]) ++ later) = o.startedView := by
                rw [← hseen]
                cases o.reportedFrom (asked (answeredStatus o id w).trace) rest with
                | error e => rfl
                | ok later => exact congrArg Except.ok (List.append_assoc startedIds [id] later)
              apply rwp_ite Iff.rfl
              · intro hfalse _
                cases hfalse
              · intro _ _
                apply rwp_ite (by rw [hkeys])
                · intro _ _
                  exact rwp_pure ⟨rfl, hparity, h.unsplit, hnext⟩
                · intro _ _
                  apply rwp_seq (anchor_alike hparity)
                  intro _ _ t t' hanchored
                  rw [← hanchored.2.1] at hnext
                  exact rwp_pure ⟨rfl, hanchored.1, hanchored.2.2 h.unsplit, hnext⟩
        · intro e
          exact ⟨rfl, h.parity.answeredStatus⟩

/-!
## Ticks
-/

theorem contains_of_parity (h : dryStatus w.status = dryStatus w'.status) (k : String) :
    w.status.softStops.contains k = w'.status.softStops.contains k := by
  have hentry : (softStopsField.entry k w.status).map dryAnchor =
      (softStopsField.entry k w'.status).map dryAnchor := by
    rw [← respells_softStops.entry, ← respells_softStops.entry, h]
  have hsome := congrArg Option.isSome hentry
  rw [Option.isSome_map, Option.isSome_map] at hsome
  exact hsome

/-- One tick, dry and live, that starts unasked and unsplit. -/
theorem runSlaTick_alike (h : InParity w w') (hasked : asked w.trace = 0)
    (hunsplit : config.analysisPolicy.autoSoftStop = true ->
      Unsplit config o.now o.reported w.status w'.status) :
    rwp (runSlaTick (withFlag config true)) (runSlaTick (withFlag config false)) o.env w w'
      (fun b b' t t' => b = b' ∧ InParity t t') (fun x x' t t' => x = x' ∧ InParity t t') := by
  unfold runSlaTick
  apply rwp_ite Iff.rfl
  · intro _ _
    exact rwp_pure ⟨rfl, h⟩
  · intro hactive _
    have hauto : config.analysisPolicy.autoSoftStop = true := by
      cases hflag : config.analysisPolicy.autoSoftStop with
      | true => rfl
      | false => exact absurd (congrArg Bool.not hflag) hactive
    apply rwp_bind
    apply rwp_of_settles settles_getSoftStops settles_getSoftStops
    intro t t' ht ht'
    apply rwp_bind
    show rwp _ _ o.env (t.log o.now (.listAnalyses (.ok o.analyses)))
      (t'.log o.now (.listAnalyses (.ok o.analyses))) _ _
    have hlog : At w w.status (t.log o.now (.listAnalyses (.ok o.analyses))) :=
      ht.log (fun _ hevent => by cases hevent) rfl
    have hlog' : At w' w'.status (t'.log o.now (.listAnalyses (.ok o.analyses))) :=
      ht'.log (fun _ hevent => by cases hevent) rfl
    have hlisted : Sighting config o o.analyses []
        (t.log o.now (.listAnalyses (.ok o.analyses)))
        (t'.log o.now (.listAnalyses (.ok o.analyses))) := by
      constructor
      · exact h.at hlog hlog' h.status
      · rw [hlog.status, hlog'.status]
        exact hunsplit hauto
      · rw [hlog.asked, hasked]
        unfold Observation.startedView
        cases o.reportedFrom 0 o.analyses <;> rfl
    apply rwp_bind
    apply rwp_foldlM fun rest rest' b b' u u' =>
      rest = rest' ∧ b = b' ∧ Sighting config o rest b u u'
    · intro doc doc' rest rest' b b' u u' hI
      rcases hI with ⟨hrest, hb, hsighting⟩
      cases hrest
      rw [← hb]
      apply rwp_imp (firstSight_alike (contains_of_parity h.status) hsighting)
      intro c c' v v' hc
      exact ⟨rfl, hc⟩
    · intro b b' u u' hI
      rcases hI with ⟨_, hb, hsighting⟩
      have hseen : Except.ok (b ++ []) = o.startedView := hsighting.seen
      have hreported : o.reported = b := by
        unfold Observation.reported
        rw [← hseen, List.append_nil]
      have hunparted := hsighting.unsplit
      rw [hreported] at hunparted
      rw [← hb]
      exact graceAndEscalate_alike hsighting.parity hunparted
    · rfl
    · exact ⟨rfl, rfl, hlisted⟩

end FirstSight

/-!
## Runs
-/

/-- What one tick of both runs is given. -/
structure SlaInput where
  observation : Observation
  config : OperatorConfig := {}
  registry : StatusField -> List String := fun _ => []

def SlaInput.tick (i : SlaInput) (dry : Bool) : Tick where
  env := i.observation.env
  config := withFlag i.config dry
  registry := i.registry

/-- What a run reports tick by tick, in the words of the dry run. -/
def slaReports (dry : Bool) (inputs : List SlaInput) (w : World) :
    List (Except Exc SlaTickResult × Status) :=
  (runReports runSlaTick (inputs.map fun i => i.tick dry) w).map fun report =>
    (report.1, dryStatus report.2)

/-- The two runs are not parted before any of their ticks. -/
def StaysUnsplit : List SlaInput -> World -> World -> Prop
  | [], _, _ => True
  | i :: later, w, w' =>
      (i.config.analysisPolicy.autoSoftStop = true ->
        Unsplit i.config i.observation.now i.observation.reported w.status w'.status) ∧
      StaysUnsplit later (runTick runSlaTick (i.tick true) w) (runTick runSlaTick (i.tick false) w')

instance instDecidableUnsplit (config : OperatorConfig) (now : Instant) (ids : List String)
    (s s' : Status) : Decidable (Unsplit config now ids s s') :=
  inferInstanceAs (Decidable (forall id, id ∈ ids -> _))

instance instDecidableStaysUnsplit :
    forall (inputs : List SlaInput) (w w' : World), Decidable (StaysUnsplit inputs w w')
  | [], _, _ => inferInstanceAs (Decidable True)
  | i :: later, w, w' =>
      have := instDecidableStaysUnsplit later (runTick runSlaTick (i.tick true) w)
        (runTick runSlaTick (i.tick false) w')
      inferInstanceAs (Decidable (_ ∧ _))

theorem slaTick_alike {i : SlaInput} {w w' : World} (h : dryStatus w.status = dryStatus w'.status)
    (hunsplit : i.config.analysisPolicy.autoSoftStop = true ->
      Unsplit i.config i.observation.now i.observation.reported w.status w'.status) :
    (tickReport runSlaTick (i.tick true) w).1 = (tickReport runSlaTick (i.tick false) w').1 ∧
      InParity (runTick runSlaTick (i.tick true) w) (runTick runSlaTick (i.tick false) w') := by
  have hopened : InParity (w.openTick (i.tick true)) (w'.openTick (i.tick false)) := ⟨h, rfl, rfl⟩
  exact tick_of_rwp (runSlaTick_alike hopened (asked_openTick w (i.tick true)) hunsplit)

theorem slaReports_alike :
    forall (inputs : List SlaInput) {w w' : World}, dryStatus w.status = dryStatus w'.status ->
      StaysUnsplit inputs w w' -> slaReports true inputs w = slaReports false inputs w' := by
  intro inputs
  induction inputs with
  | nil =>
      intro w w' _ _
      rfl
  | cons i later ih =>
      intro w w' h hunsplit
      rcases slaTick_alike h hunsplit.1 with ⟨hresult, hafter⟩
      have hlater := ih hafter.status hunsplit.2
      unfold slaReports at hlater ⊢
      rw [List.map_cons, List.map_cons]
      unfold runReports
      rw [List.map_cons, List.map_cons, tickReport_status, tickReport_status, hresult,
        hafter.status, hlater]

/-- A dry and a live run that observe the same report the same, up to the
spelling, while no tick acts on anchors that part them. -/
theorem sla_dry_run_parity (inputs : List SlaInput) (w w' : World)
    (hstart : w.status = w'.status) (hunsplit : StaysUnsplit inputs w w') :
    slaReports true inputs w = slaReports false inputs w' :=
  slaReports_alike inputs (congrArg dryStatus hstart) hunsplit

/-- A tick that sees the given analyses, all of them started, and one worker. -/
def startedInput (minute : Nat) (ids : List String) : SlaInput where
  observation :=
    { now := minutes minute
      analyses := ids.map fun id => { id := some id }
      statusAnswer := fun _ _ => some { analysis := some ⟨some "started"⟩ }
      workers := fun _ _ => ["pod-1:1:analyses"]
      pods := fun _ => [some "pod-1"] }

/-- An anchor that an earlier run issued is stopped and escalated; the analysis
that is soft-stopped at 191 minutes has left at 192. -/
def unsplitRun : List SlaInput :=
  [startedInput 10 ["a", "b"], startedInput 16 ["a", "b"], startedInput 191 ["a", "b"],
    startedInput 192 ["b"]]

def leftoverWorld : World where
  status := { softStops := Dict.empty.set "b" { issuedAt := minutes 0, outcome := .issued } }

theorem sla_dry_run_parity_leftover :
    slaReports true unsplitRun leftoverWorld = slaReports false unsplitRun leftoverWorld :=
  sla_dry_run_parity unsplitRun leftoverWorld leftoverWorld rfl (by decide +kernel)

/-- The run acts: a stop and an escalation, then a soft stop. -/
example : (slaReports true unsplitRun leftoverWorld).map (fun report => report.1) =
    [.ok {}, .ok { stopped := ["b"], escalated := ["b"] }, .ok { softStopped := ["a"] },
      .ok {}] := by
  decide +kernel

/-- The analysis is still started a minute after its soft stop. -/
def partingRun : List SlaInput :=
  [startedInput 0 ["a"], startedInput 181 ["a"], startedInput 182 ["a"]]

/-- The live run stops the analysis before it escalates, the dry run does not. -/
theorem sla_dry_run_parts : slaReports true partingRun {} ≠ slaReports false partingRun {} := by
  decide +kernel

end DryRun

end OpenStudioOperator
