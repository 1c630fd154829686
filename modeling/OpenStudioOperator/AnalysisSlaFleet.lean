import OpenStudioOperator.AnalysisSlaEviction
import OpenStudioOperator.Foundation.Json

/-!
# The pods an escalation may delete

The targets come from three sources: the Resque registry, the record of each
worker, and the pods of the namespace, joined by the pod name in a worker id.
The labels of a pod take no part in the join.
-/

namespace OpenStudioOperator

open Foundation

namespace SlaEviction

/-!
## Pods and selectors
-/

abbrev Labels := List (String × String)

structure Pod where
  name : Option String
  labels : Labels
deriving DecidableEq, Repr

inductive SelectorOperator where
  | isIn (values : List String)
  | notIn (values : List String)
  | present
  | absent
deriving DecidableEq, Repr

structure SelectorRequirement where
  key : String
  operator : SelectorOperator
deriving DecidableEq, Repr

/-- The `spec.selector` of a Deployment; all its terms must match. -/
structure LabelSelector where
  matchLabels : Labels
  matchExpressions : List SelectorRequirement := []
deriving DecidableEq, Repr

def SelectorRequirement.accepts (requirement : SelectorRequirement) (labels : Labels) :
    Bool :=
  match requirement.operator, labels.lookup requirement.key with
  | .isIn values, some value => values.contains value
  | .isIn _, none => false
  | .notIn values, some value => !values.contains value
  | .notIn _, none => true
  | .present, value => value.isSome
  | .absent, value => value.isNone

def LabelSelector.accepts (selector : LabelSelector) (labels : Labels) : Bool :=
  selector.matchLabels.all (fun term => labels.lookup term.1 = some term.2) &&
    selector.matchExpressions.all fun requirement => requirement.accepts labels

/-!
## The Resque registry
-/

/-- The text of a worker's record, read by `json.loads`. -/
inductive WorkerRecord where
  | unparseable
  | document (json : Json)

/-- The members of `resque:workers` in `SMEMBERS` order, and the record at
`resque:worker:{id}`; an idle worker has none. -/
structure Registry where
  workers : List String
  record : String -> Option WorkerRecord

/-- The `args` of the job a worker is on; anything misshapen has none. -/
def payloadArgs (json : Json) : List Json :=
  match json.member? "payload" with
  | none => []
  | some payload =>
      match payload.member? "args" with
      | some (.arr items) => items
      | _ => []

def isText (text : String) : Json -> Bool
  | .str s => s = text
  | _ => false

/-- `analysis_id in args`. -/
def processes (id : String) (json : Json) : Bool :=
  (payloadArgs json).any (isText id)

def visitWorker (registry : Registry) (id : String) (matched : List String)
    (worker : String) : Except Exc (List String) :=
  match registry.record worker with
  | none => .ok matched
  | some .unparseable => .error .redisClientError
  | some (.document json) =>
      .ok (if processes id json then matched ++ [worker] else matched)

/-- `workers_for_analysis`: one unparseable record fails the read. -/
def Registry.workersForAnalysis (registry : Registry) (id : String) :
    Except Exc (List String) :=
  registry.workers.foldlM (visitWorker registry id) []

/-- The worker is registered and the args of its current job contain the id. -/
structure Registry.Processing (registry : Registry) (id worker : String) : Prop where
  registered : worker ∈ registry.workers
  current : exists json, registry.record worker = some (.document json) ∧
    processes id json = true

def Registry.Readable (registry : Registry) : Prop :=
  forall worker, worker ∈ registry.workers ->
    forall record, registry.record worker = some record ->
      exists json, record = .document json

theorem visitWorker_ok {registry : Registry} {id worker : String}
    {matched matched' : List String}
    (h : visitWorker registry id matched worker = .ok matched') :
    (forall x, x ∈ matched' <-> x ∈ matched ∨ x = worker ∧
      exists json, registry.record worker = some (.document json) ∧
        processes id json = true) := by
  unfold visitWorker at h
  intro x
  cases hrecord : registry.record worker with
  | none =>
      rw [hrecord] at h
      rw [← Except.ok.inj h]
      constructor
      · exact Or.inl
      · intro hx
        rcases hx with hx | ⟨_, json, hjson, _⟩
        · exact hx
        · cases hjson
  | some record =>
      cases record with
      | unparseable =>
          rw [hrecord] at h
          cases h
      | document json =>
          rw [hrecord] at h
          rw [← Except.ok.inj h]
          cases hprocesses : processes id json with
          | true =>
              rw [if_pos rfl, List.mem_append, List.mem_singleton]
              constructor
              · intro hx
                rcases hx with hx | hx
                · exact Or.inl hx
                · exact Or.inr ⟨hx, json, rfl, hprocesses⟩
              · intro hx
                rcases hx with hx | ⟨hx, _⟩
                · exact Or.inl hx
                · exact Or.inr hx
          | false =>
              rw [if_neg Bool.false_ne_true]
              constructor
              · exact Or.inl
              · intro hx
                rcases hx with hx | ⟨_, json', hjson', htrue⟩
                · exact hx
                · cases hjson'
                  rw [hprocesses] at htrue
                  cases htrue

theorem foldlM_visitWorker {registry : Registry} {id : String} :
    forall (workers matched found : List String),
      workers.foldlM (visitWorker registry id) matched = .ok found ->
      forall x, x ∈ found <-> x ∈ matched ∨ x ∈ workers ∧
        exists json, registry.record x = some (.document json) ∧
          processes id json = true := by
  intro workers
  induction workers with
  | nil =>
      intro matched found h x
      rw [← Except.ok.inj h]
      constructor
      · exact Or.inl
      · intro hx
        rcases hx with hx | ⟨hx, _⟩
        · exact hx
        · exact absurd hx List.not_mem_nil
  | cons worker rest ih =>
      intro matched found h x
      rw [List.foldlM_cons] at h
      cases hvisit : visitWorker registry id matched worker with
      | error e =>
          rw [hvisit] at h
          cases h
      | ok matched' =>
          rw [hvisit] at h
          rw [ih matched' found h x, visitWorker_ok hvisit x, List.mem_cons]
          constructor
          · intro hx
            rcases hx with (hx | ⟨hx, hcurrent⟩) | ⟨hx, hcurrent⟩
            · exact Or.inl hx
            · rw [← hx] at hcurrent
              exact Or.inr ⟨Or.inl hx, hcurrent⟩
            · exact Or.inr ⟨Or.inr hx, hcurrent⟩
          · intro hx
            rcases hx with hx | ⟨hx | hx, hcurrent⟩
            · exact Or.inl (Or.inl hx)
            · rw [hx] at hcurrent
              exact Or.inl (Or.inr ⟨hx, hcurrent⟩)
            · exact Or.inr ⟨hx, hcurrent⟩

/-- The workers found are those that process the analysis. -/
theorem mem_workersForAnalysis {registry : Registry} {id : String} {found : List String}
    (h : registry.workersForAnalysis id = .ok found) (worker : String) :
    worker ∈ found <-> registry.Processing id worker := by
  rw [foldlM_visitWorker registry.workers [] found h worker]
  constructor
  · intro hmem
    rcases hmem with hmem | ⟨hregistered, hcurrent⟩
    · exact absurd hmem List.not_mem_nil
    · exact ⟨hregistered, hcurrent⟩
  · intro hprocessing
    exact Or.inr ⟨hprocessing.registered, hprocessing.current⟩

theorem visitWorker_error {registry : Registry} {id worker : String} {matched : List String}
    {e : Exc} (h : visitWorker registry id matched worker = .error e) :
    registry.record worker = some .unparseable := by
  unfold visitWorker at h
  split at h
  · cases h
  · rename_i hrecord
    exact hrecord
  · cases h

/-- When every record can be read, the workers are found. -/
theorem exists_workersForAnalysis {registry : Registry} (h : registry.Readable)
    (id : String) : exists found, registry.workersForAnalysis id = .ok found := by
  have hloop : forall (workers matched : List String),
      (forall worker, worker ∈ workers -> worker ∈ registry.workers) ->
      exists found, workers.foldlM (visitWorker registry id) matched =
        (.ok found : Except Exc (List String)) := by
    intro workers
    induction workers with
    | nil =>
        intro matched _
        exact ⟨matched, rfl⟩
    | cons worker rest ih =>
        intro matched hmem
        rw [List.foldlM_cons]
        cases hvisit : visitWorker registry id matched worker with
        | ok matched' => exact ih matched' fun x hx => hmem x (List.mem_cons_of_mem _ hx)
        | error e =>
            rcases h worker (hmem worker List.mem_cons_self) _ (visitWorker_error hvisit) with
              ⟨json, hjson⟩
            cases hjson
  exact hloop registry.workers [] fun _ hx => hx

/-- What was found, was found in a readable registry. -/
theorem readable_of_workersForAnalysis {registry : Registry} {id : String}
    {found : List String} (h : registry.workersForAnalysis id = .ok found) :
    registry.Readable := by
  have hloop : forall (workers matched found : List String),
      workers.foldlM (visitWorker registry id) matched =
        (.ok found : Except Exc (List String)) ->
      forall worker, worker ∈ workers ->
        registry.record worker ≠ some .unparseable := by
    intro workers
    induction workers with
    | nil =>
        intro _ _ _ worker hworker
        exact absurd hworker List.not_mem_nil
    | cons first rest ih =>
        intro matched found' hfound worker hworker
        rw [List.foldlM_cons] at hfound
        cases hvisit : visitWorker registry id matched first with
        | error e =>
            rw [hvisit] at hfound
            cases hfound
        | ok matched' =>
            rw [hvisit] at hfound
            rcases List.mem_cons.mp hworker with hfirst | hrest
            · intro hrecord
              rw [hfirst] at hrecord
              unfold visitWorker at hvisit
              rw [hrecord] at hvisit
              cases hvisit
            · exact ih matched' found' hfound worker hrest
  intro worker hworker record hrecord
  cases record with
  | document json => exact ⟨json, rfl⟩
  | unparseable => exact absurd hrecord (hloop registry.workers [] found h worker hworker)

/-!
## The join
-/

/-- A victim's worker was found, maps to its pod, and the pod is listed. -/
theorem mem_matchWorkers {podNames : List (Option String)} {workerIds : List String}
    {v : String × String} :
    v ∈ matchWorkers podNames workerIds <->
      v.2 ∈ workerIds ∧ podNameForWorker v.2 = some v.1 ∧
        some v.1 ∈ podNames.filter truthy := by
  unfold matchWorkers
  rw [List.mem_filterMap]
  constructor
  · intro h
    rcases h with ⟨workerId, hmem, hmatch⟩
    cases hname : podNameForWorker workerId with
    | none =>
        rw [hname] at hmatch
        cases hmatch
    | some podName =>
        rw [hname] at hmatch
        dsimp only at hmatch
        split_ifs at hmatch with hlisted
        rw [← Option.some.inj hmatch]
        exact ⟨hmem, hname, hlisted⟩
  · intro h
    rcases h with ⟨hmem, hname, hlisted⟩
    refine ⟨v.2, hmem, ?_⟩
    rw [hname]
    dsimp only
    rw [if_pos hlisted]

/-- A pod name in a worker id is not empty. -/
theorem truthy_podNameForWorker {workerId podName : String}
    (h : podNameForWorker workerId = some podName) : truthy (some podName) = true := by
  unfold podNameForWorker at h
  split at h
  · rename_i host _ _ _ _
    cases host with
    | nil => cases h
    | cons c rest =>
        rw [if_neg (by simp)] at h
        rw [← Option.some.inj h]
        simp [truthy]
  · cases h

/-!
## Inside the fleet
-/

/-- The pods of that name carry the labels of the worker Deployment, and a
registered worker on the analysis has the pod's name in its id. -/
structure InsideFleet (registry : Registry) (pods : List Pod) (selector : LabelSelector)
    (id podName : String) : Prop where
  labelled : forall pod, pod ∈ pods -> pod.name = some podName ->
    selector.accepts pod.labels = true
  hosting : exists worker, podNameForWorker worker = some podName ∧
    registry.Processing id worker

/-- A delete call for a pod that fails the test. -/
def DeletesOther (Allowed : String -> Prop) (event : Event) : Prop :=
  exists analysisId podName grace r,
    event = .mutate (.deletePod analysisId podName grace) r ∧ ¬ Allowed podName

/-- Redis and the pod list answer from the given registry and pods. -/
structure Reads (env : Env) (registry : Registry) (pods : List Pod) : Prop where
  workers : forall trace id, env.workersForAnalysis trace id = registry.workersForAnalysis id
  pods : forall trace, env.listPods trace = .ok (pods.map fun pod => pod.name)

/-- The escalation deletes pods inside the fleet only. -/
def StaysInFleet (config : OperatorConfig) (registry : Registry) (pods : List Pod)
    (selector : LabelSelector) (id : String) (record : SoftStopRecord) (env : Env)
    (w : World) : Prop :=
  Idle (DeletesOther (InsideFleet registry pods selector id)) w
    (Prog.exec (escalateAnalysis config id record) env w)

/-- No pod outside the selector bears the pod name of a worker on the analysis. -/
def NamesFleetOnly (registry : Registry) (pods : List Pod) (selector : LabelSelector)
    (id : String) : Prop :=
  forall worker, registry.Processing id worker ->
    forall pod podName, pod ∈ pods -> podNameForWorker worker = some podName ->
      pod.name = some podName -> selector.accepts pod.labels = true

section Escalation

variable {config : OperatorConfig} {id : String} {record : SoftStopRecord} {env : Env}
variable {registry : Registry} {pods : List Pod} {selector : LabelSelector} {w : World}

theorem InsideFleet.of_victim {found : List String} {v : String × String}
    (hfleet : NamesFleetOnly registry pods selector id)
    (hfound : registry.workersForAnalysis id = .ok found)
    (hv : v ∈ matchWorkers (pods.map fun pod => pod.name) found) :
    InsideFleet registry pods selector id v.1 := by
  rcases mem_matchWorkers.mp hv with ⟨hmem, hname, _⟩
  have hprocessing := (mem_workersForAnalysis hfound v.2).mp hmem
  constructor
  · intro pod hpod hpodName
    exact hfleet v.2 hprocessing pod v.1 hpod hname hpodName
  · exact ⟨v.2, hname, hprocessing⟩

/-- Resolving the targets deletes nothing. -/
theorem wp_resolve (hreads : Reads env registry pods) (Allowed : String -> Prop) :
    Prog.wp (resqueMatchedWorkerPods id) env w
      (fun victims w' => Idle (DeletesOther Allowed) w w' ∧
        exists found, registry.workersForAnalysis id = .ok found ∧
          victims = matchWorkers (pods.map fun pod => pod.name) found)
      (fun e w' => Idle (DeletesOther Allowed) w w' ∧
        registry.workersForAnalysis id = .error e) := by
  have hidle := Idle.refl (DeletesOther Allowed) w
  have hquery : forall r, ¬ DeletesOther Allowed (.workersForAnalysis id r) := by
    intro r h
    rcases h with ⟨_, _, _, _, heq, _⟩
    cases heq
  have hlist : forall r, ¬ DeletesOther Allowed (.listPods r) := by
    intro r h
    rcases h with ⟨_, _, _, _, heq, _⟩
    cases heq
  unfold resqueMatchedWorkerPods
  rw [Prog.wp_bind]
  apply wp_call
  · intro found hanswer
    rw [hreads.workers] at hanswer
    apply Prog.wp_ite
    · intro hempty
      refine ⟨hidle.log _ (hquery _), found, hanswer, ?_⟩
      rw [List.isEmpty_iff.mp hempty]
      rfl
    · intro _
      rw [Prog.wp_bind]
      apply wp_call
      · intro names hnames
        rw [hreads.pods] at hnames
        rw [← Except.ok.inj hnames]
        exact ⟨(hidle.log _ (hquery _)).log _ (hlist _), found, hanswer, rfl⟩
      · intro e hanswer'
        rw [hreads.pods] at hanswer'
        cases hanswer'
  · intro e hanswer
    rw [hreads.workers] at hanswer
    exact ⟨hidle.log _ (hquery _), hanswer⟩

theorem deleteVictim_idle {Allowed : String -> Prop} {v : String × String}
    (hv : config.dryRun = true ∨ Allowed v.1) (count : EvictionCount) :
    Prog.Preserves (Idle (DeletesOther Allowed) w) (deleteVictim config id count v) env := by
  intro s hs
  unfold deleteVictim
  apply Prog.wp_ite
  · intro _
    exact hs
  · intro hlive
    have hallowed : Allowed v.1 := by
      rcases hv with hdry | hallowed
      · exact absurd hdry hlive
      · exact hallowed
    have hcall : forall grace r,
        ¬ DeletesOther Allowed (.mutate (.deletePod id v.1 grace) r) := by
      intro grace r h
      rcases h with ⟨_, _, _, _, heq, hnot⟩
      cases heq
      exact hnot hallowed
    rw [Prog.wp_tryCatch, Prog.wp_bind]
    apply wp_call
    · intro _ _
      exact hs.log _ (hcall _ _)
    · intro e _
      cases e <;> exact hs.log _ (hcall _ _)

/-- After the loop a pass makes an Event and one write of the status. -/
theorem announceAndMark_preserves {P : World -> Prop}
    (hemit : forall s type reason message r, P s ->
      P (s.log env.now (.emit type reason message r)))
    (hstore : forall s op r status, P s -> P (s.commit env.now op r status))
    (victims : List (String × String)) (outcome : EscalationOutcome) :
    Prog.Preserves P (announceAndMark config id record victims env.now outcome) env := by
  intro s hs
  unfold announceAndMark
  rw [Prog.wp_bind]
  apply wp_call
  · intro _ _
    rw [Prog.wp_bind]
    apply wp_markSoftStopEscalated
    · intro status _
      exact hstore _ _ _ _ (hemit _ _ _ _ _ hs)
    · intro status e _
      exact hstore _ _ _ _ (hemit _ _ _ _ _ hs)
  · intro e _
    exact hemit _ _ _ _ _ hs

theorem evictVictims_idle {Allowed : String -> Prop} {victims : List (String × String)}
    (hvictims : config.dryRun = true ∨ forall v, v ∈ victims -> Allowed v.1) :
    Prog.Preserves (Idle (DeletesOther Allowed) w)
      (evictVictims config id record victims) env := by
  intro s hs
  have hloop : Prog.Preserves (Idle (DeletesOther Allowed) w)
      (victims.foldlM (deleteVictim config id) {}) env := by
    apply Prog.Preserves.foldlM
    intro v hv count
    apply deleteVictim_idle
    rcases hvictims with hdry | hallowed
    · exact Or.inl hdry
    · exact Or.inr (hallowed v hv)
  unfold evictVictims
  rw [Prog.wp_bind, Prog.wp_read, Prog.wp_bind]
  apply Prog.wp_mono (hloop s hs)
  · intro count s' hs'
    cases passFailure count with
    | some e => exact hs'
    | none =>
        apply announceAndMark_preserves _ _ victims (escalationOutcome config count) s' hs'
        · intro s type reason message r hs
          apply hs.log
          intro h
          rcases h with ⟨_, _, _, _, heq, _⟩
          cases heq
        · intro s op r status hs
          apply hs.commit
          intro h
          rcases h with ⟨_, _, _, _, heq, _⟩
          cases heq
  · intro _ _ h
    exact h

/-- An escalation deletes allowed pods only, if every victim it can resolve is. -/
theorem escalateAnalysis_idle (hreads : Reads env registry pods) {Allowed : String -> Prop}
    (hvictims : config.dryRun = true ∨ forall found,
      registry.workersForAnalysis id = .ok found ->
      forall v, v ∈ matchWorkers (pods.map fun pod => pod.name) found -> Allowed v.1) :
    Idle (DeletesOther Allowed) w (Prog.exec (escalateAnalysis config id record) env w) := by
  apply Prog.exec_of_wp (P := fun w' => Idle (DeletesOther Allowed) w w')
  have hmark : forall event, (event = .escalationPass id ∨ event = .escalationRaised id) ->
      ¬ DeletesOther Allowed event := by
    intro event hevent h
    rcases h with ⟨_, _, _, _, heq, _⟩
    rw [heq] at hevent
    rcases hevent with hevent | hevent <;> cases hevent
  unfold escalateAnalysis
  rw [Prog.wp_bind]
  apply Prog.wp_mono (wp_resolve hreads Allowed)
  · intro victims w1 hresolved
    rcases hresolved with ⟨hidle, found, hfound, hmatched⟩
    rw [Prog.wp_bind, wp_note, Prog.wp_tryCatch]
    have hallowed : config.dryRun = true ∨ forall v, v ∈ victims -> Allowed v.1 := by
      rcases hvictims with hdry | hvictims
      · exact Or.inl hdry
      · rw [hmatched]
        exact Or.inr (hvictims found hfound)
    apply Prog.wp_mono (evictVictims_idle hallowed _ (hidle.log _ (hmark _ (Or.inl rfl))))
    · intro _ _ h
      exact h
    · intro e w2 h
      exact h.log _ (hmark _ (Or.inr rfl))
  · intro _ _ h
    exact h.1

/-!
## Every victim is deleted
-/

/-- Pod deletes succeed or fail as API calls do; nothing else leaves the loop. -/
def AnswersDeletes (env : Env) : Prop :=
  forall trace id podName grace,
    env.mutate trace (.deletePod id podName grace) = .ok () ∨
      exists status,
        env.mutate trace (.deletePod id podName grace) = .error (.apiException status)

/-- Since `w` a delete of the pod was issued. -/
def Issued (id : String) (w w' : World) (podName : String) : Prop :=
  exists block, w'.trace = block ++ w.trace ∧
    exists e grace r, e ∈ block ∧ e.event = .mutate (.deletePod id podName grace) r

theorem Issued.later {w' w'' : World} {podName : String} (h : Issued id w w' podName)
    {e : Entry} (htrace : w''.trace = e :: w'.trace) : Issued id w w'' podName := by
  rcases h with ⟨block, hblock, e', grace, r, hmem, hevent⟩
  refine ⟨e :: block, ?_, e', grace, r, List.mem_cons_of_mem _ hmem, hevent⟩
  rw [htrace, hblock, List.cons_append]

/-- What is idle about a kind of call did not issue it. -/
theorem Issued.not_idle {Allowed : String -> Prop} {w' : World} {podName : String}
    (h : Issued id w w' podName) (hidle : Idle (DeletesOther Allowed) w w') :
    Allowed podName := by
  by_contra hnot
  rcases h with ⟨block, htrace, e, grace, r, hmem, hevent⟩
  rcases hidle with ⟨block', htrace', hblock'⟩
  rw [htrace] at htrace'
  rw [List.append_cancel_right htrace'] at hmem
  exact hblock' e hmem ⟨id, podName, grace, r, hevent, hnot⟩

/-- The loop is through with the victims that are not left. -/
structure Through (id : String) (victims : List (String × String)) (w : World)
    (rest : List (String × String)) (w' : World) : Prop where
  since : exists block, w'.trace = block ++ w.trace
  issued : forall v, v ∈ victims -> v ∈ rest ∨ Issued id w w' v.1

theorem Through.step {victims rest : List (String × String)} {v : String × String}
    {w' w'' : World} (h : Through id victims w (v :: rest) w') {grace : Option Nat}
    {r : Except Exc Unit} {e : Entry} (htrace : w''.trace = e :: w'.trace)
    (hevent : e.event = .mutate (.deletePod id v.1 grace) r) :
    Through id victims w rest w'' := by
  rcases h.since with ⟨block, hblock⟩
  have hsince : w''.trace = (e :: block) ++ w.trace := by
    rw [htrace, hblock, List.cons_append]
  constructor
  · exact ⟨e :: block, hsince⟩
  · intro u hu
    rcases h.issued u hu with hleft | hissued
    · rcases List.mem_cons.mp hleft with hfirst | hrest
      · rw [hfirst]
        exact Or.inr ⟨e :: block, hsince, e, grace, r, List.mem_cons_self, hevent⟩
      · exact Or.inl hrest
    · exact Or.inr (hissued.later htrace)

theorem wp_deleteVictim_through (hlive : config.dryRun = false) (hdeletes : AnswersDeletes env)
    {victims rest : List (String × String)} {v : String × String} {w' : World}
    (h : Through id victims w (v :: rest) w') (count : EvictionCount) :
    Prog.wp (deleteVictim config id count v) env w'
      (fun _ w'' => Through id victims w rest w'') (fun _ _ => False) := by
  unfold deleteVictim
  rw [if_neg (by rw [hlive]; exact Bool.false_ne_true), Prog.wp_tryCatch, Prog.wp_bind]
  apply wp_call
  · intro _ _
    exact h.step rfl rfl
  · intro e hanswer
    rcases hdeletes w'.trace id v.1 _ with hok | ⟨status, hfailed⟩
    · rw [hok] at hanswer
      cases hanswer
    · rw [hfailed] at hanswer
      cases hanswer
      exact h.step rfl rfl

/-- A live pass issues a delete for each of its victims. -/
theorem wp_evictVictims_issued (hlive : config.dryRun = false)
    (hdeletes : AnswersDeletes env) (victims : List (String × String)) {w' : World}
    (hsince : exists block, w'.trace = block ++ w.trace) :
    Prog.wp (evictVictims config id record victims) env w'
      (fun _ w'' => forall v, v ∈ victims -> Issued id w w'' v.1)
      (fun _ w'' => forall v, v ∈ victims -> Issued id w w'' v.1) := by
  unfold evictVictims
  rw [Prog.wp_bind, Prog.wp_read, Prog.wp_bind]
  apply Prog.wp_foldlM (fun rest _ s => Through id victims w rest s)
  · intro v rest count s hthrough
    apply Prog.wp_mono (wp_deleteVictim_through hlive hdeletes hthrough count)
    · intro _ _ h
      exact h
    · intro _ _ h
      exact h.elim
  · intro count s hthrough
    have hissued : forall v, v ∈ victims -> Issued id w s v.1 := by
      intro v hv
      rcases hthrough.issued v hv with hleft | hissued
      · exact absurd hleft List.not_mem_nil
      · exact hissued
    cases passFailure count with
    | some e => exact hissued
    | none =>
        apply announceAndMark_preserves _ _ victims (escalationOutcome config count) s hissued
        · intro s type reason message r hs v hv
          exact (hs v hv).later rfl
        · intro s op r status hs v hv
          exact (hs v hv).later rfl
  · constructor
    · exact hsince
    · intro v hv
      exact Or.inl hv

/-- A live escalation issues a delete for every victim it resolves. -/
theorem escalateAnalysis_issued (hlive : config.dryRun = false)
    (hreads : Reads env registry pods) (hdeletes : AnswersDeletes env) {found : List String}
    (hfound : registry.workersForAnalysis id = .ok found) {v : String × String}
    (hv : v ∈ matchWorkers (pods.map fun pod => pod.name) found) :
    Issued id w (Prog.exec (escalateAnalysis config id record) env w) v.1 := by
  apply Prog.exec_of_wp (P := fun w' => Issued id w w' v.1)
  unfold escalateAnalysis
  rw [Prog.wp_bind]
  apply Prog.wp_mono (wp_resolve hreads fun _ => True)
  · intro victims w1 hresolved
    rcases hresolved with ⟨⟨block, htrace, _⟩, found', hfound', hmatched⟩
    rw [hfound] at hfound'
    cases hfound'
    rw [← hmatched] at hv
    rw [Prog.wp_bind, wp_note, Prog.wp_tryCatch]
    have hsince : exists block', (w1.log env.now (.escalationPass id)).trace =
        block' ++ w.trace :=
      ⟨⟨env.now, .escalationPass id, w1.status⟩ :: block,
        by rw [World.log_trace, htrace, List.cons_append]⟩
    apply Prog.wp_mono (wp_evictVictims_issued hlive hdeletes victims hsince)
    · intro _ _ h
      exact h v hv
    · intro e w2 h
      exact (h v hv).later rfl
  · intro e w1 hfailed
    rw [hfound] at hfailed
    cases hfailed.2

end Escalation

/-- An escalation stays in the worker fleet exactly when it is dry, or a worker
record cannot be read, or no other pod bears the name of a worker on the
analysis. -/
theorem eviction_in_fleet_iff (config : OperatorConfig) (registry : Registry)
    (pods : List Pod) (selector : LabelSelector) (id : String) (record : SoftStopRecord)
    (env : Env) (w : World) (hreads : Reads env registry pods)
    (hdeletes : AnswersDeletes env) :
    StaysInFleet config registry pods selector id record env w <->
      config.dryRun = true ∨ ¬ registry.Readable ∨
        NamesFleetOnly registry pods selector id := by
  constructor
  · intro hstays
    by_contra hnot
    rw [not_or, not_or, not_not] at hnot
    rcases hnot with ⟨hdry, hreadable, hfleet⟩
    have hlive : config.dryRun = false := by simpa using hdry
    rcases exists_workersForAnalysis hreadable id with ⟨found, hfound⟩
    apply hfleet
    intro worker hworker pod podName hpod hname hpodName
    have hmem : (podName, worker) ∈ matchWorkers (pods.map fun pod => pod.name) found := by
      apply mem_matchWorkers.mpr
      refine ⟨(mem_workersForAnalysis hfound worker).mpr hworker, hname, ?_⟩
      apply List.mem_filter.mpr
      constructor
      · rw [← hpodName]
        exact List.mem_map_of_mem hpod
      · exact truthy_podNameForWorker hname
    have hissued : Issued id w (Prog.exec (escalateAnalysis config id record) env w) podName :=
      escalateAnalysis_issued hlive hreads hdeletes hfound hmem
    exact (hissued.not_idle hstays).labelled pod hpod hpodName
  · intro hcondition
    apply escalateAnalysis_idle hreads
    rcases hcondition with hdry | hunreadable | hfleet
    · exact Or.inl hdry
    · right
      intro found hfound
      exact absurd (readable_of_workersForAnalysis hfound) hunreadable
    · right
      intro found hfound v hv
      exact .of_victim hfleet hfound hv

/-!
## A pod outside the fleet
-/

def jobRecord (id : String) : WorkerRecord :=
  .document (.obj [("payload", .obj [("args", .arr [.str id, .str "dp"])])])

/-- The web background runs a Resque worker too, for the job of the analysis. -/
def strayRegistry : Registry where
  workers := ["web-background-0:7:analyses"]
  record := fun _ => some (jobRecord "a")

def strayPods : List Pod :=
  [{ name := some "web-background-0", labels := [("app", "web-background")] }]

def workerSelector : LabelSelector where
  matchLabels := [("app", "worker")]

def fleetEnv (registry : Registry) (pods : List Pod) : Env :=
  { Env.quiet (minutes 200) with
    workersForAnalysis := fun _ id => registry.workersForAnalysis id
    listPods := fun _ => .ok (pods.map fun pod => pod.name) }

/-- A pod outside the worker Deployment is deleted with the analysis. -/
theorem eviction_in_fleet_counterexample :
    ¬ StaysInFleet {} strayRegistry strayPods workerSelector "a" stoppedAnchor
      (fleetEnv strayRegistry strayPods) anchoredWorld := by
  have hissued : Issued "a" anchoredWorld
      (Prog.exec (escalateAnalysis {} "a" stoppedAnchor) (fleetEnv strayRegistry strayPods)
        anchoredWorld) "web-background-0" := by
    have hreads : Reads (fleetEnv strayRegistry strayPods) strayRegistry strayPods :=
      ⟨fun _ _ => rfl, fun _ => rfl⟩
    have hfound : strayRegistry.workersForAnalysis "a" =
        .ok ["web-background-0:7:analyses"] := by
      decide +kernel
    have hvictim : ("web-background-0", "web-background-0:7:analyses") ∈
        matchWorkers (strayPods.map fun pod => pod.name) ["web-background-0:7:analyses"] := by
      decide +kernel
    exact escalateAnalysis_issued rfl hreads (fun _ _ _ _ => Or.inl rfl) hfound hvictim
  intro hstays
  have hinside := hissued.not_idle hstays
  have hlabelled := hinside.labelled _ List.mem_cons_self rfl
  exact absurd hlabelled (by decide)

/-- The same worker on a pod of the fleet. -/
def fleetPods : List Pod :=
  [{ name := some "web-background-0", labels := [("app", "worker")] }]

theorem eviction_in_fleet_labelled :
    StaysInFleet {} strayRegistry fleetPods workerSelector "a" stoppedAnchor
      (fleetEnv strayRegistry fleetPods) anchoredWorld := by
  apply (eviction_in_fleet_iff {} strayRegistry fleetPods workerSelector "a" stoppedAnchor
    (fleetEnv strayRegistry fleetPods) anchoredWorld ⟨fun _ _ => rfl, fun _ => rfl⟩
    (fun _ _ _ _ => Or.inl rfl)).mpr
  right
  right
  intro worker _ pod podName hpod _ _
  rw [List.mem_singleton.mp hpod]
  decide

end SlaEviction

end OpenStudioOperator
