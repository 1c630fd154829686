import OpenStudioOperator.AnalysisSlaFleet
import Mathlib.Data.List.Dedup

/-!
# Workers that share a pod

The targets of an escalation are listed by worker.  A pod that hosts several
workers on the analysis is listed once for each of them.
-/

namespace OpenStudioOperator

open Foundation

namespace SlaEviction

/-!
## Targets
-/

def onAnalysis (registry : Registry) (id worker : String) : Bool :=
  match registry.record worker with
  | some (.document json) => processes id json
  | _ => false

/-- The pod of a worker, if it is one of the pods of the namespace. -/
def listedPod (pods : List Pod) (worker : String) : Option String :=
  match podNameForWorker worker with
  | none => none
  | some podName =>
      if (pods.map fun pod => pod.name).contains (some podName) then some podName else none

/-- What `_resque_matched_worker_pods` finds; nothing when a record cannot be
read. -/
def victimsOf (registry : Registry) (pods : List Pod) (id : String) :
    List (String × String) :=
  match registry.workersForAnalysis id with
  | .ok found => matchWorkers (pods.map fun pod => pod.name) found
  | .error _ => []

/-- No two workers on the analysis are on one pod of the namespace. -/
def OneWorkerPerPod (registry : Registry) (pods : List Pod) (id : String) : Prop :=
  registry.workers.Pairwise fun worker worker' =>
    registry.Processing id worker -> registry.Processing id worker' ->
    forall podName, listedPod pods worker = some podName ->
      listedPod pods worker' ≠ some podName

section Targets

variable {registry : Registry} {pods : List Pod} {id : String}

theorem processing_iff {worker : String} (hregistered : worker ∈ registry.workers) :
    registry.Processing id worker <-> onAnalysis registry id worker = true := by
  unfold onAnalysis
  constructor
  · intro h
    rcases h.current with ⟨json, hrecord, hprocesses⟩
    rw [hrecord]
    exact hprocesses
  · intro h
    split at h
    · rename_i json hrecord
      exact ⟨hregistered, json, hrecord, h⟩
    · cases h

theorem visitWorker_eq {worker : String} (matched : List String)
    (h : registry.record worker ≠ some .unparseable) :
    visitWorker registry id matched worker =
      .ok (matched ++ [worker].filter (onAnalysis registry id)) := by
  unfold visitWorker onAnalysis
  cases hrecord : registry.record worker with
  | none => simp [hrecord]
  | some record =>
      cases record with
      | unparseable => exact absurd hrecord h
      | document json => cases hjson : processes id json <;> simp [hrecord, hjson]

/-- The workers found keep the order of the registry. -/
theorem workersForAnalysis_eq (h : registry.Readable) :
    registry.workersForAnalysis id =
      .ok (registry.workers.filter (onAnalysis registry id)) := by
  have hloop : forall (workers matched : List String),
      (forall worker, worker ∈ workers -> registry.record worker ≠ some .unparseable) ->
      workers.foldlM (visitWorker registry id) matched =
        (.ok (matched ++ workers.filter (onAnalysis registry id)) : Except Exc _) := by
    intro workers
    induction workers with
    | nil =>
        intro matched _
        rw [List.filter_nil, List.append_nil]
        rfl
    | cons worker rest ih =>
        intro matched hreadable
        rw [List.foldlM_cons, visitWorker_eq matched (hreadable worker List.mem_cons_self)]
        refine (ih _ fun x hx => hreadable x (List.mem_cons_of_mem _ hx)).trans ?_
        rw [List.append_assoc, ← List.filter_append, List.singleton_append]
  apply hloop registry.workers []
  intro worker hworker hrecord
  rcases h worker hworker _ hrecord with ⟨json, hjson⟩
  cases hjson

theorem matchWorkers_pods (workers : List String) :
    (matchWorkers (pods.map fun pod => pod.name) workers).map Prod.fst =
      workers.filterMap (listedPod pods) := by
  unfold matchWorkers
  rw [List.map_filterMap]
  congr 1
  funext worker
  unfold listedPod
  cases hname : podNameForWorker worker with
  | none => rfl
  | some podName =>
      have htruthy := truthy_podNameForWorker hname
      simp only [List.mem_filter, htruthy, and_true, List.contains_iff_mem]
      split_ifs <;> rfl

/-- The pods of the targets are distinct when no two workers share one. -/
theorem nodup_victims_iff (h : registry.Readable) :
    ((victimsOf registry pods id).map Prod.fst).Nodup <-> OneWorkerPerPod registry pods id := by
  unfold victimsOf
  rw [workersForAnalysis_eq h]
  simp only
  rw [matchWorkers_pods]
  unfold List.Nodup OneWorkerPerPod
  rw [List.pairwise_filterMap, List.pairwise_filter]
  constructor
  · intro hpairwise
    refine hpairwise.imp_of_mem ?_
    intro worker worker' hworker hworker' hne hon hon' podName hpod hpod'
    exact hne ((processing_iff hworker).mp hon) ((processing_iff hworker').mp hon')
      podName hpod podName hpod' rfl
  · intro hpairwise
    refine hpairwise.imp_of_mem ?_
    intro worker worker' hworker hworker' hne hon hon' podName hpod podName' hpod' heq
    rw [← heq] at hpod'
    exact hne ((processing_iff hworker).mpr hon) ((processing_iff hworker').mpr hon')
      podName hpod hpod'

end Targets

/-!
## What a pass leaves behind
-/

/-- The delete calls on a stretch of history, with their answers. -/
def deletesOf (stretch : Trace) : List (String × Except Exc Unit) :=
  stretch.filterMap fun e =>
    match e.event with
    | .mutate (.deletePod _ podName _) r => some (podName, r)
    | _ => none

/-- The outcomes that a stretch of history sends to the store. -/
def marksOf (stretch : Trace) : List EscalationOutcome :=
  stretch.filterMap fun e =>
    match e.event with
    | .store (.markSoftStopEscalated _ _ outcome) _ => some outcome
    | _ => none

/-- The escalation Event was not taken. -/
def Unannounced (stretch : Trace) : Prop :=
  exists e, e ∈ stretch ∧ exists message exc,
    e.event = .emit .warning analysisEscalatedEvent message (.error exc)

/-- The history from `w` to `w'`. -/
def since (w w' : World) : Trace :=
  w'.trace.take (w'.trace.length - w.trace.length)

/-- From `w` to `w'` these deletes and these marks were issued, newest first. -/
def Adds (w w' : World) (deletes : List (String × Except Exc Unit))
    (marks : List EscalationOutcome) : Prop :=
  exists block, w'.trace = block ++ w.trace ∧ deletesOf block = deletes ∧ marksOf block = marks

/-- The counters of the delete loop: what an escalation adds to its metric. -/
def countEvictions (config : OperatorConfig) (id : String) (env : Env) (w : World) :
    EvictionCount :=
  match resqueMatchedWorkerPods id env w with
  | .error _ _ => {}
  | .ok victims w1 =>
      match victims.foldlM (deleteVictim config id) {} env
          (w1.log env.now (.escalationPass id)) with
      | .ok count _ => count
      | .error _ _ => {}

/-- The pods that were deleted, or in a dry run would be. -/
def evictedPods (config : OperatorConfig) (registry : Registry) (pods : List Pod) (id : String)
    (stretch : Trace) : List String :=
  if config.dryRun then (victimsOf registry pods id).map Prod.fst
  else (deletesOf stretch).filterMap fun d => if d.2 = .ok () then some d.1 else none

/-- Every pod is deleted once and counted once, and a pass that deletes all its
pods stores `evicted`, if its Event goes through. -/
structure EvictsEachPodOnce (config : OperatorConfig) (registry : Registry) (pods : List Pod)
    (id : String) (env : Env) (w w' : World) : Prop where
  once : ((deletesOf (since w w')).map Prod.fst).Nodup
  counted : (countEvictions config id env w).evicted =
    (evictedPods config registry pods id (since w w')).dedup.length
  stored : victimsOf registry pods id ≠ [] ->
    (forall v, v ∈ victimsOf registry pods id -> (v.1, .ok ()) ∈ deletesOf (since w w')) ->
    marksOf (since w w') = [.evicted] ∨
      marksOf (since w w') = [] ∧ Unannounced (since w w')

section Pass

variable {config : OperatorConfig} {registry : Registry} {pods : List Pod} {id : String}
variable {record : SoftStopRecord} {env : Env} {w w' w'' : World}
variable {deletes deletes' : List (String × Except Exc Unit)}
variable {marks marks' : List EscalationOutcome}

theorem Adds.refl (w : World) : Adds w w [] [] :=
  ⟨[], rfl, rfl, rfl⟩

theorem Adds.trans (h : Adds w w' deletes marks) (h' : Adds w' w'' deletes' marks') :
    Adds w w'' (deletes' ++ deletes) (marks' ++ marks) := by
  rcases h with ⟨block, htrace, hdeletes, hmarks⟩
  rcases h' with ⟨block', htrace', hdeletes', hmarks'⟩
  refine ⟨block' ++ block, by rw [htrace', htrace, List.append_assoc], ?_, ?_⟩
  · rw [← hdeletes, ← hdeletes']
    exact List.filterMap_append
  · rw [← hmarks, ← hmarks']
    exact List.filterMap_append

theorem since_eq {block : Trace} (htrace : w'.trace = block ++ w.trace) :
    since w w' = block := by
  unfold since
  rw [htrace, List.length_append, Nat.add_sub_cancel, List.take_left]

theorem Adds.deletes_since (h : Adds w w' deletes marks) : deletesOf (since w w') = deletes := by
  rcases h with ⟨block, htrace, hdeletes, _⟩
  rw [since_eq htrace, hdeletes]

theorem Adds.marks_since (h : Adds w w' deletes marks) : marksOf (since w w') = marks := by
  rcases h with ⟨block, htrace, _, hmarks⟩
  rw [since_eq htrace, hmarks]

/-- The answers that the deletes of the victims got, newest first. -/
def answeredDeletes (victims : List (String × String)) (outcomes : List DeleteOutcome) :
    List (String × Except Exc Unit) :=
  (List.zipWith (fun v o => (v.1, DeleteOutcome.answer o)) victims outcomes).reverse

theorem exists_deleteVictim (hlive : config.dryRun = false) (hdeletes : AnswersDeletes env)
    (count : EvictionCount) (v : String × String) (w : World) :
    exists o w', deleteVictim config id count v env w = .ok (tally count o) w' ∧
      Adds w w' [(v.1, DeleteOutcome.answer o)] [] := by
  have hanswer : exists o : DeleteOutcome,
      env.mutate w.trace (.deletePod id v.1 (graceSeconds config)) = o.answer := by
    rcases hdeletes w.trace id v.1 (graceSeconds config) with hok | ⟨status, hfailed⟩
    · exact ⟨.deleted, hok⟩
    · exact ⟨.failed status, hfailed⟩
  rcases hanswer with ⟨o, ho⟩
  have hcall := run_mutate ho
  refine ⟨o, w.log env.now (.mutate (.deletePod id v.1 (graceSeconds config)) o.answer), ?_, ?_⟩
  · unfold graceSeconds at hcall ⊢
    unfold deleteVictim
    rw [if_neg (by rw [hlive]; exact Bool.false_ne_true), Prog.run_tryCatch, Prog.run_bind,
      hcall]
    cases o <;> rfl
  · exact ⟨[⟨env.now, .mutate (.deletePod id v.1 (graceSeconds config)) o.answer, w.status⟩],
      rfl, rfl, rfl⟩

/-- A live loop issues one delete for each victim and tallies the answers. -/
theorem exists_deleteVictims (hlive : config.dryRun = false) (hdeletes : AnswersDeletes env) :
    forall (victims : List (String × String)) (count : EvictionCount) (w : World),
      exists outcomes w', outcomes.length = victims.length ∧
        victims.foldlM (deleteVictim config id) count env w =
          .ok (outcomes.foldl tally count) w' ∧
        Adds w w' (answeredDeletes victims outcomes) [] := by
  intro victims
  induction victims with
  | nil =>
      intro count w
      exact ⟨[], w, rfl, rfl, Adds.refl w⟩
  | cons v rest ih =>
      intro count w
      rcases @exists_deleteVictim config id env hlive hdeletes count v w with
        ⟨o, w1, hrun, hadds⟩
      rcases ih (tally count o) w1 with ⟨outcomes, w2, hlength, hloop, hrest⟩
      refine ⟨o :: outcomes, w2, congrArg Nat.succ hlength, ?_, ?_⟩
      · rw [List.foldlM_cons, Prog.run_bind, hrun]
        exact hloop
      · have hall := hadds.trans hrest
        unfold answeredDeletes at hall ⊢
        rw [List.zipWith_cons_cons, List.reverse_cons]
        exact hall

theorem map_fst_answeredDeletes {victims : List (String × String)}
    {outcomes : List DeleteOutcome} (h : outcomes.length = victims.length) :
    (answeredDeletes victims outcomes).map Prod.fst = (victims.map Prod.fst).reverse := by
  unfold answeredDeletes
  rw [List.map_reverse, List.map_zipWith]
  congr 1
  induction victims generalizing outcomes with
  | nil => rw [List.zipWith_nil_left, List.map_nil]
  | cons v rest ih =>
      cases outcomes with
      | nil => cases h
      | cons o outcomes =>
          rw [List.zipWith_cons_cons, List.map_cons, ih (Nat.succ.inj h)]

/-- The pods that were deleted are as many as the loop counted. -/
theorem length_deleted (victims : List (String × String)) (outcomes : List DeleteOutcome)
    (h : outcomes.length = victims.length) :
    ((answeredDeletes victims outcomes).filterMap
      fun d => if d.2 = .ok () then some d.1 else none).length = outcomes.count .deleted := by
  unfold answeredDeletes
  rw [List.filterMap_reverse, List.length_reverse]
  induction victims generalizing outcomes with
  | nil =>
      rw [List.length_eq_zero_iff.mp h]
      rfl
  | cons v rest ih =>
      cases outcomes with
      | nil => cases h
      | cons o outcomes =>
          have hrest := ih outcomes (Nat.succ.inj h)
          rw [List.zipWith_cons_cons]
          cases o with
          | deleted =>
              rw [List.filterMap_cons_some (by rfl), List.length_cons, hrest,
                List.count_cons_self]
          | failed status =>
              rw [List.filterMap_cons_none (by rfl), hrest, List.count_cons_of_ne (by simp)]

/-- With one delete for each pod, every pod deleted means every answer good. -/
theorem outcomes_of_deleted {victims : List (String × String)} {outcomes : List DeleteOutcome}
    (hlength : outcomes.length = victims.length) (hnodup : (victims.map Prod.fst).Nodup)
    (hall : forall v, v ∈ victims -> (v.1, .ok ()) ∈ answeredDeletes victims outcomes) :
    outcomes = List.replicate victims.length .deleted := by
  have hkeys : ((answeredDeletes victims outcomes).map Prod.fst).Nodup := by
    rw [map_fst_answeredDeletes hlength, List.nodup_reverse]
    exact hnodup
  rw [← hlength, List.eq_replicate_iff]
  refine ⟨rfl, ?_⟩
  intro o ho
  rcases List.mem_iff_getElem.mp ho with ⟨i, hi, hio⟩
  have hv : i < victims.length := by omega
  have hmem : (victims[i].1, o.answer) ∈ answeredDeletes victims outcomes := by
    unfold answeredDeletes
    rw [List.mem_reverse, List.mem_iff_getElem]
    refine ⟨i, by rw [List.length_zipWith]; omega, ?_⟩
    rw [List.getElem_zipWith, hio]
  have hsame := List.inj_on_of_nodup_map hkeys hmem (hall victims[i] (List.getElem_mem hv)) rfl
  cases o with
  | deleted => rfl
  | failed status => cases hsame

/-- A pass over pods that are all deleted neither fails nor is partial. -/
theorem tallyAll_deleted (n : Nat) :
    tallyAll (List.replicate n .deleted) = { evicted := n } := by
  have htally : forall count : EvictionCount, (List.replicate n DeleteOutcome.deleted).foldl
      tally count = { count with evicted := count.evicted + n } := by
    induction n with
    | zero =>
        intro count
        rfl
    | succ n ih =>
        intro count
        rw [List.replicate_succ, List.foldl_cons, ih]
        unfold tally
        simp only [Nat.add_assoc, Nat.add_comm 1]
  have hall := htally {}
  simp only [Nat.zero_add] at hall
  exact hall

/-!
## The pass
-/

theorem run_call {alpha : Type} (answer : Env -> Trace -> Except Exc alpha)
    (event : Except Exc alpha -> Event) (env : Env) (w : World) :
    call answer event env w =
      answered (answer env w.trace) (w.log env.now (event (answer env w.trace))) := rfl

/-- The targets are resolved without a delete. -/
theorem resolve_readable (hreads : Reads env registry pods) (hreadable : registry.Readable)
    (w : World) :
    exists w1, resqueMatchedWorkerPods id env w = .ok (victimsOf registry pods id) w1 ∧
      Adds w w1 [] [] := by
  rcases exists_workersForAnalysis hreadable id with ⟨found, hfound⟩
  have hquery : workersForAnalysis id env w =
      .ok found (w.log env.now (.workersForAnalysis id (.ok found))) := by
    unfold workersForAnalysis
    rw [run_call, hreads.workers, hfound]
    rfl
  unfold resqueMatchedWorkerPods victimsOf
  rw [Prog.run_bind, hquery, hfound]
  dsimp only
  cases hempty : found.isEmpty with
  | true =>
      rw [List.isEmpty_iff.mp hempty]
      exact ⟨_, rfl, [_], rfl, rfl, rfl⟩
  | false =>
      rw [if_neg Bool.false_ne_true, Prog.run_bind]
      unfold listNamespacedPod
      rw [run_call, hreads.pods]
      exact ⟨_, rfl, [_, _], rfl, rfl, rfl⟩

theorem resolve_unreadable (hreads : Reads env registry pods) (h : ¬ registry.Readable)
    (w : World) :
    exists e w1, resqueMatchedWorkerPods id env w = .error e w1 ∧ Adds w w1 [] [] := by
  unfold resqueMatchedWorkerPods workersForAnalysis
  rw [Prog.run_bind, run_call, hreads.workers]
  cases hfound : registry.workersForAnalysis id with
  | ok found => exact absurd (readable_of_workersForAnalysis hfound) h
  | error e => exact ⟨e, _, rfl, [_], rfl, rfl, rfl⟩

/-- After the loop the pass announces itself and stores its outcome. -/
theorem wp_announceAndMark (victims : List (String × String)) (outcome : EscalationOutcome)
    (w : World) :
    Prog.wp (announceAndMark config id record victims env.now outcome) env w
      (fun _ w' => Adds w w' [] [outcome])
      (fun _ w' => Adds w w' [] [outcome] ∨ Adds w w' [] [] ∧ Unannounced (since w w')) := by
  unfold announceAndMark
  rw [Prog.wp_bind]
  apply wp_call
  · intro _ _
    rw [Prog.wp_bind]
    apply wp_markSoftStopEscalated
    · intro s _
      exact ⟨[_, _], rfl, rfl, rfl⟩
    · intro s e _
      exact Or.inl ⟨[_, _], rfl, rfl, rfl⟩
  · intro e _
    refine Or.inr ⟨⟨[_], rfl, rfl, rfl⟩, ?_⟩
    rw [since_eq (List.singleton_append ..).symm]
    exact ⟨_, List.mem_singleton_self _, _, e, rfl⟩

theorem Adds.since_append (h : Adds w w' deletes marks) (h' : Adds w' w'' deletes' marks') :
    since w w'' = since w' w'' ++ since w w' := by
  rcases h with ⟨block, htrace, _, _⟩
  rcases h' with ⟨block', htrace', _, _⟩
  rw [since_eq htrace, since_eq htrace']
  apply since_eq
  rw [htrace', htrace, List.append_assoc]

/-- What a pass from `w` to `w'` stores: its outcome, unless its Event raised. -/
def Stores (outcome : EscalationOutcome) (w w' : World)
    (deletes : List (String × Except Exc Unit)) : Prop :=
  Adds w w' deletes [outcome] ∨ Adds w w' deletes [] ∧ Unannounced (since w w')

theorem Stores.after {outcome : EscalationOutcome} (h : Adds w w' deletes [])
    (h' : Stores outcome w' w'' deletes') : Stores outcome w w'' (deletes' ++ deletes) := by
  rcases h' with hmark | ⟨hadds, e, he, hevent⟩
  · exact Or.inl (h.trans hmark)
  · refine Or.inr ⟨h.trans hadds, e, ?_, hevent⟩
    rw [h.since_append hadds]
    exact List.mem_append_left _ he

theorem Stores.later {outcome : EscalationOutcome} (h : Stores outcome w w' deletes)
    (h' : Adds w' w'' [] []) : Stores outcome w w'' deletes := by
  rcases h with hmark | ⟨hadds, e, he, hevent⟩
  · exact Or.inl (hmark.trans h')
  · refine Or.inr ⟨hadds.trans h', e, ?_, hevent⟩
    rw [hadds.since_append h']
    exact List.mem_append_right _ he

theorem Stores.deletes_since {outcome : EscalationOutcome} (h : Stores outcome w w' deletes) :
    deletesOf (since w w') = deletes := by
  rcases h with hmark | ⟨hadds, _⟩
  · exact hmark.deletes_since
  · exact hadds.deletes_since

/-- An escalation from the outcome of its delete loop. -/
theorem exec_escalateAnalysis {victims : List (String × String)} {count : EvictionCount}
    {w1 w2 : World} (hresolve : resqueMatchedWorkerPods id env w = .ok victims w1)
    (hstart : Adds w w1 [] [])
    (hloop : victims.foldlM (deleteVictim config id) {} env
      (w1.log env.now (.escalationPass id)) = .ok count w2)
    (hdeletes : Adds (w1.log env.now (.escalationPass id)) w2 deletes []) :
    deletesOf (since w (Prog.exec (escalateAnalysis config id record) env w)) = deletes ∧
      (passFailure count = none -> Stores (escalationOutcome config count) w
        (Prog.exec (escalateAnalysis config id record) env w) deletes) := by
  have hopen : Adds w (w1.log env.now (.escalationPass id)) [] [] :=
    hstart.trans ⟨[⟨env.now, .escalationPass id, w1.status⟩], rfl, rfl, rfl⟩
  have hbefore := hopen.trans hdeletes
  rw [List.append_nil, List.append_nil] at hbefore
  have hraised : forall w' : World, Adds w' (w'.log env.now (.escalationRaised id)) [] [] :=
    fun w' => ⟨[⟨env.now, .escalationRaised id, w'.status⟩], rfl, rfl, rfl⟩
  apply Prog.exec_of_wp (P := fun w' => deletesOf (since w w') = deletes ∧
    (passFailure count = none -> Stores (escalationOutcome config count) w w' deletes))
  unfold escalateAnalysis
  rw [Prog.wp_bind]
  unfold Prog.wp
  rw [hresolve]
  dsimp only
  show Prog.wp (do
    note (.escalationPass id)
    tryCatch (evictVictims config id record victims) fun e => do
      note (.escalationRaised id)
      throw e) env w1 _ _
  rw [Prog.wp_bind, wp_note, Prog.wp_tryCatch]
  unfold Prog.wp
  rw [run_evictVictims hloop]
  cases hfailure : passFailure count with
  | some e =>
      refine ⟨(hbefore.trans (hraised w2)).deletes_since, ?_⟩
      intro hnone
      cases hnone
  | none =>
      dsimp only
      have htail := @wp_announceAndMark config id record env victims
        (escalationOutcome config count) w2
      unfold Prog.wp at htail
      cases hrun : announceAndMark config id record victims env.now
          (escalationOutcome config count) env w2 with
      | ok a w3 =>
          rw [hrun] at htail
          have hstores := Stores.after hbefore (Or.inl htail)
          rw [List.nil_append] at hstores
          exact ⟨hstores.deletes_since, fun _ => hstores⟩
      | error e w3 =>
          rw [hrun] at htail
          have hstores := (Stores.after hbefore htail).later (hraised w3)
          rw [List.nil_append] at hstores
          exact ⟨hstores.deletes_since, fun _ => hstores⟩

theorem countEvictions_of_loop {victims : List (String × String)} {count : EvictionCount}
    {w1 w2 : World} (hresolve : resqueMatchedWorkerPods id env w = .ok victims w1)
    (hloop : victims.foldlM (deleteVictim config id) {} env
      (w1.log env.now (.escalationPass id)) = .ok count w2) :
    countEvictions config id env w = count := by
  unfold countEvictions
  rw [hresolve]
  dsimp only
  rw [hloop]

theorem length_dedup_iff (names : List String) :
    names.length = names.dedup.length <-> names.Nodup := by
  constructor
  · intro h
    rw [← List.dedup_eq_self]
    exact (List.dedup_sublist names).eq_of_length h.symm
  · intro h
    rw [h.dedup]

/-- Without a readable registry there is no pass. -/
theorem evictsEachPodOnce_unreadable (hreads : Reads env registry pods)
    (h : ¬ registry.Readable) :
    EvictsEachPodOnce config registry pods id env w
      (Prog.exec (escalateAnalysis config id record) env w) := by
  rcases @resolve_unreadable registry pods id env hreads h w with ⟨e, w1, hresolve, hadds⟩
  have hexec : Prog.exec (escalateAnalysis config id record) env w = w1 := by
    unfold Prog.exec escalateAnalysis
    rw [Prog.run_bind, hresolve]
  have hvictims : victimsOf registry pods id = [] := by
    unfold victimsOf
    cases hfound : registry.workersForAnalysis id with
    | ok found => exact absurd (readable_of_workersForAnalysis hfound) h
    | error e => rfl
  rw [hexec]
  constructor
  · rw [hadds.deletes_since]
    exact List.nodup_nil
  · unfold countEvictions evictedPods
    rw [hresolve, hvictims, hadds.deletes_since]
    split_ifs <;> rfl
  · intro hne
    exact absurd hvictims hne

/-- A dry pass counts its targets. -/
theorem evictsEachPodOnce_dry (hdry : config.dryRun = true) (hreads : Reads env registry pods)
    (hreadable : registry.Readable) :
    EvictsEachPodOnce config registry pods id env w
        (Prog.exec (escalateAnalysis config id record) env w) <->
      ((victimsOf registry pods id).map Prod.fst).Nodup := by
  rcases @resolve_readable registry pods id env hreads hreadable w with
    ⟨w1, hresolve, hadds⟩
  have hloop := @run_dryVictims config id env hdry (victimsOf registry pods id) {}
    (w1.log env.now (.escalationPass id))
  have hdeletes := (@exec_escalateAnalysis config id record env w _ _ _ _ _ hresolve hadds
    hloop (Adds.refl _)).1
  have hcount := countEvictions_of_loop hresolve hloop
  have hpods : evictedPods config registry pods id
      (since w (Prog.exec (escalateAnalysis config id record) env w)) =
        (victimsOf registry pods id).map Prod.fst := by
    unfold evictedPods
    rw [if_pos hdry]
  constructor
  · intro h
    have hcounted := h.counted
    rw [hcount, hpods] at hcounted
    simp only [Nat.zero_add] at hcounted
    rw [← length_dedup_iff, List.length_map]
    exact hcounted
  · intro hnodup
    constructor
    · rw [hdeletes]
      exact List.nodup_nil
    · rw [hcount, hpods, hnodup.dedup, List.length_map]
      exact Nat.zero_add _
    · intro hne hall
      rcases List.exists_mem_of_ne_nil _ hne with ⟨v, hv⟩
      have hmem := hall v hv
      rw [hdeletes] at hmem
      cases hmem

/-- A live pass deletes a pod once for each of its workers. -/
theorem evictsEachPodOnce_live (hlive : config.dryRun = false)
    (hreads : Reads env registry pods) (hanswers : AnswersDeletes env)
    (hreadable : registry.Readable) :
    EvictsEachPodOnce config registry pods id env w
        (Prog.exec (escalateAnalysis config id record) env w) <->
      ((victimsOf registry pods id).map Prod.fst).Nodup := by
  rcases @resolve_readable registry pods id env hreads hreadable w with
    ⟨w1, hresolve, hadds⟩
  rcases @exists_deleteVictims config id env hlive hanswers (victimsOf registry pods id) {}
    (w1.log env.now (.escalationPass id)) with ⟨outcomes, w2, hlength, hloop, hissued⟩
  rcases @exec_escalateAnalysis config id record env w _ _ _ _ _ hresolve hadds hloop
    hissued with ⟨hdeletes, hstores⟩
  have hcount := countEvictions_of_loop hresolve hloop
  have hnames := map_fst_answeredDeletes hlength
  constructor
  · intro h
    have honce := h.once
    rw [hdeletes, hnames, List.nodup_reverse] at honce
    exact honce
  · intro hnodup
    have hdeleted := length_deleted _ outcomes hlength
    constructor
    · rw [hdeletes, hnames, List.nodup_reverse]
      exact hnodup
    · rw [hcount]
      unfold evictedPods
      rw [hlive, if_neg Bool.false_ne_true, hdeletes]
      have hsublist : ((answeredDeletes (victimsOf registry pods id) outcomes).filterMap
          fun d => if d.2 = .ok () then some d.1 else none).Sublist
            ((answeredDeletes (victimsOf registry pods id) outcomes).map Prod.fst) := by
        induction answeredDeletes (victimsOf registry pods id) outcomes with
        | nil => exact List.Sublist.slnil
        | cons d rest ih =>
            rw [List.filterMap_cons, List.map_cons]
            split_ifs
            · exact ih.cons_cons _
            · exact ih.cons _
      rw [hnames] at hsublist
      rw [(hsublist.nodup (List.nodup_reverse.mpr hnodup)).dedup, hdeleted]
      exact evicted_tallyAll outcomes
    · intro hne hall
      rw [hdeletes] at hall
      have houtcomes := outcomes_of_deleted hlength hnodup hall
      have htally : tallyAll outcomes = { evicted := (victimsOf registry pods id).length } := by
        rw [houtcomes, tallyAll_deleted]
      have hstored := hstores (by
        show passFailure (tallyAll outcomes) = none
        rw [htally]
        rfl)
      have houtcome : escalationOutcome config (outcomes.foldl tally {}) = .evicted := by
        show escalationOutcome config (tallyAll outcomes) = .evicted
        rw [htally]
        unfold escalationOutcome
        rw [hlive, if_neg Bool.false_ne_true, if_neg, if_neg (Nat.lt_irrefl 0)]
        exact fun hzero => hne (List.length_eq_zero_iff.mp hzero)
      rw [houtcome] at hstored
      rcases hstored with hmark | ⟨hnone, hunannounced⟩
      · exact Or.inl hmark.marks_since
      · exact Or.inr ⟨hnone.marks_since, hunannounced⟩

end Pass

/-- An escalation evicts and counts each pod once exactly when a worker record
cannot be read, or no two workers on the analysis are on one pod. -/
theorem one_eviction_per_pod_iff (config : OperatorConfig) (registry : Registry)
    (pods : List Pod) (id : String) (record : SoftStopRecord) (env : Env) (w : World)
    (hreads : Reads env registry pods) (hanswers : AnswersDeletes env) :
    EvictsEachPodOnce config registry pods id env w
        (Prog.exec (escalateAnalysis config id record) env w) <->
      ¬ registry.Readable ∨ OneWorkerPerPod registry pods id := by
  by_cases hreadable : registry.Readable
  · have hcases : EvictsEachPodOnce config registry pods id env w
        (Prog.exec (escalateAnalysis config id record) env w) <->
          ((victimsOf registry pods id).map Prod.fst).Nodup := by
      cases hdry : config.dryRun with
      | true => exact evictsEachPodOnce_dry hdry hreads hreadable
      | false => exact evictsEachPodOnce_live hdry hreads hanswers hreadable
    rw [hcases, nodup_victims_iff hreadable]
    constructor
    · exact Or.inr
    · intro h
      exact h.resolve_left (not_not_intro hreadable)
  · constructor
    · intro _
      exact Or.inl hreadable
    · intro _
      exact evictsEachPodOnce_unreadable hreads hreadable

/-!
## Two workers on a pod
-/

def registryOf (workers : List String) : Registry where
  workers := workers
  record := fun _ => some (jobRecord "a")

def workerPods (names : List String) : List Pod :=
  names.map fun name => { name := some name, labels := [("app", "worker")] }

/-- A pod that was deleted is gone. -/
def goneEnv (registry : Registry) (pods : List Pod) : Env :=
  { fleetEnv registry pods with
    mutate := fun trace m =>
      match m with
      | .deletePod _ podName _ =>
          if podName ∈ (deletesOf trace).map Prod.fst then .error (.apiException (some 404))
          else .ok ()
      | _ => .ok () }

theorem answersDeletes_goneEnv (registry : Registry) (pods : List Pod) :
    AnswersDeletes (goneEnv registry pods) := by
  intro trace id podName grace
  by_cases hgone : podName ∈ (deletesOf trace).map Prod.fst
  · exact Or.inr ⟨some 404, if_pos hgone⟩
  · exact Or.inl (if_neg hgone)

/-- The one pod of two workers is deleted twice; the second delete finds it
gone, and the outcome says that the eviction was partial. -/
theorem one_eviction_per_pod_counterexample :
    let registry := registryOf ["worker-0:1:simulations", "worker-0:2:simulations"]
    let pods := workerPods ["worker-0"]
    let after := Prog.exec (escalateAnalysis {} "a" stoppedAnchor) (goneEnv registry pods)
      anchoredWorld
    deletesOf (since anchoredWorld after) =
        [("worker-0", .error (.apiException (some 404))), ("worker-0", .ok ())] ∧
      marksOf (since anchoredWorld after) = [.evictedPartial] ∧
      ¬ EvictsEachPodOnce {} registry pods "a" (goneEnv registry pods) anchoredWorld after := by
  intro registry pods after
  have hdeletes : deletesOf (since anchoredWorld after) =
      [("worker-0", .error (.apiException (some 404))), ("worker-0", .ok ())] := by
    decide +kernel
  refine ⟨hdeletes, by decide +kernel, ?_⟩
  intro h
  have honce := h.once
  rw [hdeletes] at honce
  exact absurd honce (by decide)

/-- Two workers on two pods. -/
theorem one_eviction_per_pod_apart :
    let registry := registryOf ["worker-0:1:simulations", "worker-1:1:simulations"]
    let pods := workerPods ["worker-0", "worker-1"]
    EvictsEachPodOnce {} registry pods "a" (goneEnv registry pods) anchoredWorld
      (Prog.exec (escalateAnalysis {} "a" stoppedAnchor) (goneEnv registry pods)
        anchoredWorld) := by
  intro registry pods
  apply (one_eviction_per_pod_iff {} registry pods "a" stoppedAnchor (goneEnv registry pods)
    anchoredWorld ⟨fun _ _ => rfl, fun _ => rfl⟩ (answersDeletes_goneEnv registry pods)).mpr
  right
  have hpods : listedPod pods "worker-0:1:simulations" = some "worker-0" ∧
      listedPod pods "worker-1:1:simulations" = some "worker-1" := by
    decide +kernel
  apply List.pairwise_pair.mpr
  intro _ _ podName hpod hpod'
  rw [hpods.1] at hpod
  rw [hpods.2] at hpod'
  rw [← Option.some.inj hpod] at hpod'
  exact absurd hpod' (by decide)

end SlaEviction

end OpenStudioOperator
