import OpenStudioOperator.AnalysisSlaSteps
import Mathlib.Data.List.Induction

/-!
# The delete loop of an escalation

Each victim's delete succeeds or fails with an HTTP status.  The loop folds
these outcomes into two counts and the last failure, and the pass raises by
the last failure alone.
-/

namespace OpenStudioOperator

open Foundation

namespace SlaEviction

/-!
## Delete outcomes
-/

/-- How the API server answers the delete of a pod; a 404 is a failure. -/
inductive DeleteOutcome where
  | deleted
  | failed (status : Option Nat)
deriving DecidableEq, Repr

def DeleteOutcome.answer : DeleteOutcome -> Except Exc Unit
  | deleted => .ok ()
  | failed status => .error (.apiException status)

/-- Every delete of a pod gets the pod's own outcome. -/
def DeletesBy (env : Env) (outcome : String -> DeleteOutcome) : Prop :=
  forall trace id podName grace,
    env.mutate trace (.deletePod id podName grace) = (outcome podName).answer

def tally (count : EvictionCount) : DeleteOutcome -> EvictionCount
  | .deleted => { count with evicted := count.evicted + 1 }
  | .failed status =>
      { count with failed := count.failed + 1, lastFailure := some status }

def tallyAll (outcomes : List DeleteOutcome) : EvictionCount :=
  outcomes.foldl tally {}

def isFailure : DeleteOutcome -> Bool
  | .deleted => false
  | .failed _ => true

theorem tallyAll_concat (outcomes : List DeleteOutcome) (o : DeleteOutcome) :
    tallyAll (outcomes ++ [o]) = tally (tallyAll outcomes) o := by
  unfold tallyAll
  rw [List.foldl_append]
  rfl

theorem evicted_tallyAll (outcomes : List DeleteOutcome) :
    (tallyAll outcomes).evicted = outcomes.count .deleted := by
  induction outcomes using List.reverseRecOn with
  | nil => rfl
  | append_singleton outcomes o ih =>
      rw [tallyAll_concat, List.count_append]
      cases o with
      | deleted =>
          show (tallyAll outcomes).evicted + 1 = _
          rw [ih]
          rfl
      | failed status => exact ih

theorem failed_tallyAll (outcomes : List DeleteOutcome) :
    (tallyAll outcomes).failed = outcomes.countP isFailure := by
  induction outcomes using List.reverseRecOn with
  | nil => rfl
  | append_singleton outcomes o ih =>
      rw [tallyAll_concat, List.countP_append]
      cases o with
      | deleted => exact ih
      | failed status =>
          show (tallyAll outcomes).failed + 1 = _
          rw [ih]
          rfl

/-- The last failure is one of the failures. -/
theorem mem_of_lastFailure {outcomes : List DeleteOutcome} {status : Option Nat}
    (h : (tallyAll outcomes).lastFailure = some status) :
    .failed status ∈ outcomes := by
  induction outcomes using List.reverseRecOn with
  | nil => cases h
  | append_singleton outcomes o ih =>
      rw [tallyAll_concat] at h
      cases o with
      | deleted => exact List.mem_append_left _ (ih h)
      | failed status' =>
          have hsame : status' = status := Option.some.inj h
          rw [hsame]
          exact List.mem_append_right _ List.mem_cons_self

theorem exists_lastFailure {outcomes : List DeleteOutcome} {status : Option Nat}
    (h : .failed status ∈ outcomes) :
    exists last, (tallyAll outcomes).lastFailure = some last := by
  induction outcomes using List.reverseRecOn with
  | nil => exact absurd h List.not_mem_nil
  | append_singleton outcomes o ih =>
      rw [tallyAll_concat]
      cases o with
      | failed last => exact ⟨last, rfl⟩
      | deleted =>
          rcases List.mem_append.mp h with hold | hnew
          · exact ih hold
          · cases List.mem_singleton.mp hnew

/-!
## When a pass raises
-/

/-- Some pod was deleted, and of the failures one is a 404 and one is not: the
only mixture in which the last failure decides. -/
def MixedFailures (outcomes : List DeleteOutcome) : Prop :=
  .deleted ∈ outcomes ∧ .failed (some 404) ∈ outcomes ∧
    exists status, status ≠ some 404 ∧ .failed status ∈ outcomes

/-- What an order-blind pass would raise on: a failure other than a 404, or
failures only. -/
def ShouldRaise (outcomes : List DeleteOutcome) : Prop :=
  exists status, .failed status ∈ outcomes ∧
    (status ≠ some 404 ∨ .deleted ∉ outcomes)

theorem evicted_eq_zero_iff {outcomes : List DeleteOutcome} :
    (tallyAll outcomes).evicted = 0 <-> .deleted ∉ outcomes := by
  rw [evicted_tallyAll]
  exact List.count_eq_zero

theorem shouldRaise_of_passFailure {outcomes : List DeleteOutcome} {e : Exc}
    (h : passFailure (tallyAll outcomes) = some e) : ShouldRaise outcomes := by
  unfold passFailure at h
  cases hlast : (tallyAll outcomes).lastFailure with
  | none =>
      rw [hlast] at h
      cases h
  | some status =>
      simp only [hlast] at h
      split_ifs at h with hraise
      rw [evicted_eq_zero_iff] at hraise
      exact ⟨status, mem_of_lastFailure hlast, hraise⟩

/-- Outside the mixture a pass raises exactly when it should. -/
theorem passFailure_isSome_iff {outcomes : List DeleteOutcome}
    (hmixed : ¬ MixedFailures outcomes) :
    (passFailure (tallyAll outcomes)).isSome <-> ShouldRaise outcomes := by
  constructor
  · intro h
    rcases Option.isSome_iff_exists.mp h with ⟨e, he⟩
    exact shouldRaise_of_passFailure he
  · intro h
    rcases h with ⟨status, hmem, hwhy⟩
    rcases exists_lastFailure hmem with ⟨last, hlast⟩
    unfold passFailure
    simp only [hlast]
    by_cases hdeleted : DeleteOutcome.deleted ∈ outcomes
    · have hstatus : status ≠ some 404 := by
        rcases hwhy with hne | hnone
        · exact hne
        · exact absurd hdeleted hnone
      -- with a deleted pod and a real failure there is no 404 to end on
      have hne : last ≠ some 404 := by
        intro heq
        rw [heq] at hlast
        exact hmixed ⟨hdeleted, mem_of_lastFailure hlast, status, hstatus, hmem⟩
      rw [if_pos (Or.inl hne)]
      rfl
    · rw [if_pos (Or.inr (evicted_eq_zero_iff.mpr hdeleted))]
      rfl

theorem shouldRaise_perm {outcomes outcomes' : List DeleteOutcome}
    (h : outcomes'.Perm outcomes) : ShouldRaise outcomes' <-> ShouldRaise outcomes := by
  unfold ShouldRaise
  simp only [h.mem_iff]

theorem mixedFailures_perm {outcomes outcomes' : List DeleteOutcome}
    (h : outcomes'.Perm outcomes) : MixedFailures outcomes' <-> MixedFailures outcomes := by
  unfold MixedFailures
  simp only [h.mem_iff]

/-!
## The loop
-/

section Loop

variable {config : OperatorConfig} {id : String} {env : Env}
variable {outcome : String -> DeleteOutcome}

/-- The grace every delete of a pass carries. -/
def graceSeconds (config : OperatorConfig) : Option Nat :=
  if config.analysisPolicy.forceDeleteOnEscalation then some 0 else none

def deleteEvent (config : OperatorConfig) (id : String)
    (outcome : String -> DeleteOutcome) (victim : String × String) : Event :=
  .mutate (.deletePod id victim.1 (graceSeconds config)) (outcome victim.1).answer

/-- One live delete: its outcome is counted and its call is on the trace. -/
theorem run_deleteVictim (hlive : config.dryRun = false)
    (hdeletes : DeletesBy env outcome) (count : EvictionCount)
    (victim : String × String) (w : World) :
    deleteVictim config id count victim env w =
      .ok (tally count (outcome victim.1))
        (w.log env.now (deleteEvent config id outcome victim)) := by
  have hcall := run_mutate (hdeletes w.trace id victim.1 (graceSeconds config))
  unfold graceSeconds at hcall
  unfold deleteVictim deleteEvent
  rw [if_neg (by rw [hlive]; exact Bool.false_ne_true), Prog.run_tryCatch, Prog.run_bind,
    hcall]
  cases outcome victim.1 <;> rfl

theorem run_deleteVictims (hlive : config.dryRun = false)
    (hdeletes : DeletesBy env outcome) :
    forall (victims : List (String × String)) (count : EvictionCount) (w : World),
      victims.foldlM (deleteVictim config id) count env w =
        .ok ((victims.map fun v => outcome v.1).foldl tally count)
          (w.logAll env.now (victims.map (deleteEvent config id outcome))) := by
  intro victims
  induction victims with
  | nil =>
      intro count w
      rfl
  | cons victim rest ih =>
      intro count w
      rw [List.foldlM_cons, Prog.run_bind, run_deleteVictim hlive hdeletes]
      exact ih _ _

/-- Under `spec.dryRun` every victim counts as evicted and no call is made. -/
theorem run_dryVictims (hdry : config.dryRun = true) :
    forall (victims : List (String × String)) (count : EvictionCount) (w : World),
      victims.foldlM (deleteVictim config id) count env w =
        .ok { count with evicted := count.evicted + victims.length } w := by
  intro victims
  induction victims with
  | nil =>
      intro count w
      rfl
  | cons victim rest ih =>
      intro count w
      have hstep : deleteVictim config id count victim env w =
          .ok { count with evicted := count.evicted + 1 } w := by
        unfold deleteVictim
        rw [if_pos hdry]
        rfl
      rw [List.foldlM_cons, Prog.run_bind, hstep]
      dsimp only
      rw [ih, List.length_cons]
      simp only [Nat.add_assoc, Nat.add_comm 1]

end Loop

/-!
## What a pass reports
-/

/-- Whether the pass raised, the record it left for the analysis, which holds
the marker and its outcome, and how many pods it counted as evicted. -/
structure PassReport where
  raised : Bool
  record : Option SoftStopRecord
  evicted : Nat
deriving DecidableEq, Repr

def reported (id : String) (evicted : Nat) :
    EStateM.Result Exc World EscalationOutcome -> PassReport
  | .ok _ w => ⟨false, softStopsField.entry id w.status, evicted⟩
  | .error _ w => ⟨true, softStopsField.entry id w.status, evicted⟩

/-- The count the loop ends with. -/
def evictedBy : EStateM.Result Exc World EvictionCount -> Nat
  | .ok count _ => count.evicted
  | .error _ _ => 0

def passReport (config : OperatorConfig) (id : String) (record : SoftStopRecord)
    (env : Env) (w : World) (victims : List (String × String)) : PassReport :=
  reported id (evictedBy (victims.foldlM (deleteVictim config id) {} env w))
    (evictVictims config id record victims env w)

/-- The other calls of a pass do not look at what was called before them or at
the text of the Event. -/
structure Steady (env : Env) : Prop where
  emit : forall trace trace' type reason message message',
    env.emit trace type reason message = env.emit trace' type reason message'
  server : forall trace trace' op, env.server trace op = env.server trace' op

/-- The other calls of a pass succeed, and nobody else writes. -/
structure GrantsRest (env : Env) : Prop where
  emit : forall trace type reason message, env.emit trace type reason message = .ok ()
  server : forall trace op, env.server trace op = quietServer

theorem GrantsRest.steady {env : Env} (h : GrantsRest env) : Steady env where
  emit := by
    intro trace trace' type reason message message'
    rw [h.emit, h.emit]
  server := by
    intro trace trace' op
    rw [h.server, h.server]

/-- The report of a pass from the counters of its loop. -/
def settledReport (config : OperatorConfig) (id : String) (env : Env) (s : Status)
    (count : EvictionCount) : PassReport :=
  if (passFailure count).isSome then
    ⟨true, softStopsField.entry id s, count.evicted⟩
  else if env.emit [] .warning analysisEscalatedEvent "" ≠ .ok () then
    ⟨true, softStopsField.entry id s, count.evicted⟩
  else
    let out := markOutcome id env.now (escalationOutcome config count) env { status := s }
    ⟨decide (out.result ≠ .ok ()), softStopsField.entry id out.final, count.evicted⟩

section Report

variable {config : OperatorConfig} {id : String} {record : SoftStopRecord} {env : Env}
variable {victims : List (String × String)} {w w1 : World} {count : EvictionCount}

/-- The end of a pass that does not raise on its failures. -/
def announceAndMark (config : OperatorConfig) (id : String) (record : SoftStopRecord)
    (victims : List (String × String)) (now : Instant) (outcome : EscalationOutcome) :
    OpM EscalationOutcome := do
  emit .warning analysisEscalatedEvent (escalationMessage config id record now victims)
  markSoftStopEscalated id now outcome
  return outcome

theorem run_evictVictims
    (hloop : victims.foldlM (deleteVictim config id) {} env w = .ok count w1) :
    evictVictims config id record victims env w =
      match passFailure count with
      | some e => .error e w1
      | none =>
          announceAndMark config id record victims env.now
            (escalationOutcome config count) env w1 := by
  unfold evictVictims
  rw [Prog.run_bind]
  show (victims.foldlM (deleteVictim config id) {} >>= _) env w = _
  rw [Prog.run_bind, hloop]
  dsimp only
  cases passFailure count <;> rfl

/-- The write of the marker depends on the status only. -/
theorem markOutcome_status (hsteady : Steady env) (outcome : EscalationOutcome) (w : World) :
    markOutcome id env.now outcome env w =
      markOutcome id env.now outcome env { status := w.status } := by
  unfold markOutcome mutateOutcome
  rw [hsteady.server w.trace []]

theorem run_markSoftStopEscalated (outcome : EscalationOutcome) (w : World) :
    markSoftStopEscalated id env.now outcome env w =
      answered (markOutcome id env.now outcome env w).result
        (w.commit env.now (.markSoftStopEscalated id env.now outcome)
          (answerOf (markOutcome id env.now outcome env w).result)
          (markOutcome id env.now outcome env w).final) := by
  unfold markSoftStopEscalated mutateStatus markOutcome
  dsimp only
  cases (mutateOutcome _ _ _ _ env w).result <;> rfl

theorem reported_announceAndMark (hsteady : Steady env) (outcome : EscalationOutcome)
    (evicted : Nat) (w : World) :
    reported id evicted
        (announceAndMark config id record victims env.now outcome env w) =
      if env.emit [] .warning analysisEscalatedEvent "" ≠ .ok () then
        ⟨true, softStopsField.entry id w.status, evicted⟩
      else
        let out := markOutcome id env.now outcome env { status := w.status }
        ⟨decide (out.result ≠ .ok ()), softStopsField.entry id out.final, evicted⟩ := by
  have hemit := run_emit (hsteady.emit w.trace [] .warning analysisEscalatedEvent
    (escalationMessage config id record env.now victims) "")
  unfold announceAndMark
  rw [Prog.run_bind, hemit]
  cases env.emit [] .warning analysisEscalatedEvent "" with
  | error e => rfl
  | ok u =>
      dsimp only [answered]
      rw [Prog.run_bind, if_neg (not_not_intro rfl), run_markSoftStopEscalated,
        markOutcome_status hsteady, World.log_status]
      cases (markOutcome id env.now outcome env { status := w.status }).result <;> rfl

/-- A pass reports what its counters say. -/
theorem passReport_of_loop (hsteady : Steady env)
    (hloop : victims.foldlM (deleteVictim config id) {} env w = .ok count w1)
    (hstatus : w1.status = w.status) :
    passReport config id record env w victims =
      settledReport config id env w.status count := by
  have hrun := @run_evictVictims config id record env victims w w1 count hloop
  unfold passReport settledReport
  rw [hloop, hrun]
  cases hfailure : passFailure count with
  | some e =>
      simp only [Option.isSome_some, if_true, ← hstatus]
      rfl
  | none =>
      simp only [Option.isSome_none, Bool.false_eq_true, if_false, ← hstatus]
      exact reported_announceAndMark hsteady _ _ _

/-- The counters a pass ends its loop with. -/
def passCount (config : OperatorConfig) (outcome : String -> DeleteOutcome)
    (victims : List (String × String)) : EvictionCount :=
  if config.dryRun then { evicted := victims.length }
  else tallyAll (victims.map fun v => outcome v.1)

variable {outcome : String -> DeleteOutcome}

theorem exists_loop (hdeletes : DeletesBy env outcome)
    (victims : List (String × String)) (w : World) :
    exists w1, victims.foldlM (deleteVictim config id) {} env w =
        .ok (passCount config outcome victims) w1 ∧ w1.status = w.status := by
  unfold passCount
  cases hdry : config.dryRun with
  | true =>
      refine ⟨w, ?_, rfl⟩
      rw [run_dryVictims hdry, if_pos rfl]
      simp only [Nat.zero_add]
  | false =>
      refine ⟨w.logAll env.now (victims.map (deleteEvent config id outcome)), ?_, ?_⟩
      · rw [run_deleteVictims hdry hdeletes, if_neg Bool.false_ne_true]
        rfl
      · rw [World.logAll_status]

theorem passReport_eq (hdeletes : DeletesBy env outcome) (hsteady : Steady env)
    (victims : List (String × String)) :
    passReport config id record env w victims =
      settledReport config id env w.status (passCount config outcome victims) := by
  rcases @exists_loop config id env outcome hdeletes victims w with
    ⟨w1, hloop, hstatus⟩
  exact passReport_of_loop hsteady hloop hstatus

theorem settledReport_congr {count count' : EvictionCount} {s : Status}
    (hevicted : count'.evicted = count.evicted) (hfailed : count'.failed = count.failed)
    (hraises : (passFailure count').isSome <-> (passFailure count).isSome) :
    settledReport config id env s count' = settledReport config id env s count := by
  have houtcome : escalationOutcome config count' = escalationOutcome config count := by
    unfold escalationOutcome
    rw [hevicted, hfailed]
  unfold settledReport
  rw [hevicted, houtcome]
  simp only [hraises]

/-!
## The order of the victims
-/

/-- The last failure decides: a live pass over a mixture. -/
def OrderMatters (config : OperatorConfig) (outcomes : List DeleteOutcome) : Prop :=
  config.dryRun = false ∧ MixedFailures outcomes

/-- A pass over anything but a mixture reports the same in every order. -/
theorem passReport_perm (hdeletes : DeletesBy env outcome) (hsteady : Steady env)
    (horder : ¬ OrderMatters config (victims.map fun v => outcome v.1))
    {victims' : List (String × String)} (hperm : victims'.Perm victims) :
    passReport config id record env w victims' =
      passReport config id record env w victims := by
  rw [passReport_eq hdeletes hsteady, passReport_eq hdeletes hsteady]
  have houtcomes := hperm.map fun v => outcome v.1
  unfold passCount
  cases hdry : config.dryRun with
  | true => rw [if_pos rfl, if_pos rfl, hperm.length_eq]
  | false =>
      rw [if_neg Bool.false_ne_true, if_neg Bool.false_ne_true]
      have hmixed : ¬ MixedFailures (victims.map fun v => outcome v.1) :=
        fun h => horder ⟨hdry, h⟩
      have hmixed' : ¬ MixedFailures (victims'.map fun v => outcome v.1) := by
        rw [mixedFailures_perm houtcomes]
        exact hmixed
      apply settledReport_congr
      · rw [evicted_tallyAll, evicted_tallyAll, houtcomes.count_eq]
      · rw [failed_tallyAll, failed_tallyAll, houtcomes.countP_eq]
      · rw [passFailure_isSome_iff hmixed', passFailure_isSome_iff hmixed,
          shouldRaise_perm houtcomes]

/-- On a quiet server the marker is written to an anchor that is there. -/
theorem markOutcome_ok (hrest : GrantsRest env) (marked : EscalationOutcome) {s : Status}
    (hanchor : (softStopsField.entry id s).isSome) :
    (markOutcome id env.now marked env { status := s }).result = .ok () := by
  rcases Option.isSome_iff_exists.mp hanchor with ⟨current, hcurrent⟩
  have hget : s.softStops.get? id = some current := hcurrent
  unfold markOutcome mutateOutcome
  rw [hrest.server]
  simp only [maxConflictRetries, ReadModifyWrite.run, quietServer, buildEscalationMark, hget]
  split_ifs <;> rfl

/-- When the other calls succeed, only the failures of the loop raise. -/
theorem raised_settledReport (hrest : GrantsRest env) {s : Status}
    (hanchor : (softStopsField.entry id s).isSome) (count : EvictionCount) :
    (settledReport config id env s count).raised = (passFailure count).isSome := by
  have hmark := markOutcome_ok hrest (escalationOutcome config count) hanchor
  unfold settledReport
  cases (passFailure count).isSome with
  | true => rw [if_pos rfl]
  | false =>
      rw [if_neg Bool.false_ne_true, hrest.emit, if_neg (not_not_intro rfl)]
      simp only [hmark, ne_eq, not_true_eq_false, decide_false]

theorem passFailure_concat {outcomes : List DeleteOutcome} (status : Option Nat)
    (hdeleted : .deleted ∈ outcomes) :
    (passFailure (tallyAll (outcomes ++ [.failed status]))).isSome =
      decide (status ≠ some 404) := by
  have hevicted : (tallyAll outcomes).evicted ≠ 0 := by
    intro hzero
    exact evicted_eq_zero_iff.mp hzero hdeleted
  rw [tallyAll_concat]
  unfold passFailure tally
  simp only [hevicted, or_false]
  by_cases hstatus : status = some 404
  · simp only [hstatus, ne_eq, not_true_eq_false, if_false, Option.isSome_none,
      decide_false]
  · simp only [hstatus, ne_eq, not_false_eq_true, if_true, Option.isSome_some,
      decide_true]

/-- A live pass that deletes a pod and ends on the failure of `v` raises exactly
when that failure is not a 404. -/
theorem raised_of_last (hlive : config.dryRun = false) (hdeletes : DeletesBy env outcome)
    (hrest : GrantsRest env) (hanchor : (softStopsField.entry id w.status).isSome)
    {v : String × String} {status : Option Nat} (hv : outcome v.1 = .failed status)
    (hdeleted : exists v', v' ∈ victims ∧ outcome v'.1 = .deleted) :
    (passReport config id record env w (victims ++ [v])).raised =
      decide (status ≠ some 404) := by
  rcases hdeleted with ⟨v', hv', hv'deleted⟩
  have hmem : DeleteOutcome.deleted ∈ victims.map fun v => outcome v.1 := by
    rw [← hv'deleted]
    exact List.mem_map_of_mem hv'
  rw [passReport_eq hdeletes hrest.steady, raised_settledReport hrest hanchor]
  unfold passCount
  rw [hlive, if_neg Bool.false_ne_true, List.map_append, List.map_singleton, hv]
  exact passFailure_concat status hmem

/-- A pass reports the same for every order of its victims exactly when it is
dry, or its outcomes are not a mixture: deleted pods, a 404 and another failure. -/
theorem eviction_order_iff (config : OperatorConfig) (id : String)
    (record : SoftStopRecord) (outcome : String -> DeleteOutcome)
    (victims : List (String × String)) (env : Env) (w : World)
    (hdeletes : DeletesBy env outcome) (hrest : GrantsRest env)
    (hanchor : (softStopsField.entry id w.status).isSome) :
    (forall victims', victims'.Perm victims ->
      passReport config id record env w victims' =
        passReport config id record env w victims) <->
      ¬ OrderMatters config (victims.map fun v => outcome v.1) := by
  constructor
  · intro hsame horder
    rcases horder with ⟨hlive, hdeleted, hgone, status, hstatus, hother⟩
    rcases List.mem_map.mp hdeleted with ⟨v, hv, hvoutcome⟩
    rcases List.mem_map.mp hgone with ⟨v1, hv1, hv1outcome⟩
    rcases List.mem_map.mp hother with ⟨v2, hv2, hv2outcome⟩
    -- any failed victim can be deleted last
    have hlast : forall {u : String × String} {failure : Option Nat}, u ∈ victims ->
        outcome u.1 = .failed failure ->
        (passReport config id record env w victims).raised =
          decide (failure ≠ some 404) := by
      intro u failure hu huoutcome
      have hperm : (victims.erase u ++ [u]).Perm victims :=
        (List.perm_append_singleton u _).trans (List.perm_cons_erase hu).symm
      have hne : v ≠ u := by
        intro heq
        rw [heq, huoutcome] at hvoutcome
        cases hvoutcome
      rw [← hsame _ hperm]
      exact raised_of_last hlive hdeletes hrest hanchor huoutcome
        ⟨v, (List.mem_erase_of_ne hne).mpr hv, hvoutcome⟩
    have hnot := hlast hv1 hv1outcome
    rw [hlast hv2 hv2outcome] at hnot
    simp only [hstatus, ne_eq, not_true_eq_false, not_false_eq_true, decide_true,
      decide_false] at hnot
    cases hnot
  · intro horder victims' hperm
    exact passReport_perm hdeletes hrest.steady horder hperm

end Report

/-- One pod is deleted, one is gone, one delete is refused by the server. -/
def mixedOutcome (podName : String) : DeleteOutcome :=
  if podName = "worker-a" then .deleted
  else if podName = "worker-b" then .failed (some 404)
  else .failed (some 500)

/-- A quiet environment in which pod deletes have the given outcomes. -/
def deletingEnv (outcome : String -> DeleteOutcome) : Env :=
  { Env.quiet (minutes 200) with
    mutate := fun _ m =>
      match m with
      | .deletePod _ podName _ => (outcome podName).answer
      | _ => .ok () }

def stoppedAnchor : SoftStopRecord where
  issuedAt := minutes 0
  outcome := .issued

def anchoredWorld : World where
  status := { softStops := Dict.empty.set "a" stoppedAnchor }

def workerVictim (podName : String) : String × String :=
  (podName, podName ++ ":1:simulations")

/-- The same pods and the same outcomes: the pass that ends on the 404 stamps
its marker, the pass that ends on the 500 raises and leaves the anchor. -/
theorem eviction_order_counterexample :
    ["worker-a", "worker-c", "worker-b"].Perm ["worker-a", "worker-b", "worker-c"] ∧
      passReport {} "a" stoppedAnchor (deletingEnv mixedOutcome) anchoredWorld
          (["worker-a", "worker-c", "worker-b"].map workerVictim) =
        ⟨false, some (stoppedAnchor.stamp (minutes 200) .evictedPartial), 1⟩ ∧
      passReport {} "a" stoppedAnchor (deletingEnv mixedOutcome) anchoredWorld
          (["worker-a", "worker-b", "worker-c"].map workerVictim) =
        ⟨true, some stoppedAnchor, 1⟩ := by
  decide +kernel

/-- Without a third pod the two orders agree. -/
theorem eviction_order_pair :
    passReport {} "a" stoppedAnchor (deletingEnv mixedOutcome) anchoredWorld
        (["worker-b", "worker-a"].map workerVictim) =
      passReport {} "a" stoppedAnchor (deletingEnv mixedOutcome) anchoredWorld
        (["worker-a", "worker-b"].map workerVictim) := by
  apply (eviction_order_iff {} "a" stoppedAnchor mixedOutcome
    (["worker-a", "worker-b"].map workerVictim) (deletingEnv mixedOutcome) anchoredWorld
    (fun _ _ _ _ => rfl) ⟨fun _ _ _ _ => rfl, fun _ _ => rfl⟩ (by decide)).mpr
  · intro horder
    rcases horder with ⟨_, _, _, status, hstatus, hmem⟩
    have houtcomes : (["worker-a", "worker-b"].map workerVictim).map
        (fun v => mixedOutcome v.1) = [.deleted, .failed (some 404)] := by
      decide
    rw [houtcomes] at hmem
    simp only [List.mem_cons, reduceCtorEq, DeleteOutcome.failed.injEq, List.not_mem_nil,
      or_false, false_or] at hmem
    exact hstatus hmem
  · decide

end SlaEviction

end OpenStudioOperator
