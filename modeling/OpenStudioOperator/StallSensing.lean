import OpenStudioOperator.StatusReadback
import OpenStudioOperator.WebBackgroundMonitorTicks
import OpenStudioOperator.Foundation.SortOn

/-!
# The registry behind the stall condition

The leg on the workers compares two numbers that come from two reads of the
registry: the workers registered at the first, and the stale ones among those
registered at the second.  The registry and the heartbeats may change between
the reads, and within each of them.
-/

namespace OpenStudioOperator
namespace StallSensing

open Foundation

/-!
## Heartbeats
-/

/-- The answers to the commands of one `worker_heartbeats` call: the members of
the registry, a set, and the fields of the heartbeat hash. -/
structure RegistryRead where
  smembers : Except Exc (List String)
  hgetall : Except Exc (List (String × String))
  nodup : forall ids, smembers = .ok ids -> ids.Nodup

section Heartbeats

variable (unicode : UnicodeData)

/-- `_parse_heartbeat`: only a `ValueError` becomes an error of the client. -/
def parseHeartbeat (raw : String) : Except Exc Instant :=
  match StatusDocument.parseIsoUtc unicode (.str raw) with
  | .ok t => .ok t
  | .error (.valueError _) => .error .redisClientError
  | .error (.overflowError _) => .error (.other "OverflowError")
  | .error _ => .error (.other "TypeError")

def heartbeatOf (beats : List (String × String)) (workerId : String) :
    Except Exc (String × Option Instant) :=
  match beats.lookup workerId with
  | none => .ok (workerId, none)
  | some raw => do return (workerId, some (<- parseHeartbeat unicode raw))

/-- `worker_heartbeats`. -/
def RegistryRead.workerHeartbeats (r : RegistryRead) :
    Except Exc (List (String × Option Instant)) := do
  let workerIds <- r.smembers
  if workerIds.isEmpty then
    return []
  else
    let beats <- r.hgetall
    (sortOn id workerIds).mapM (heartbeatOf unicode beats)

/-!
The clock is a float, and `older now heartbeat` is the comparison of floats
`now - heartbeat > threshold_seconds`.
-/

variable {clock : Type} (older : clock -> Instant -> Bool) (now : clock)

/-- A missing heartbeat or an old one. -/
def isStale (heartbeat : Option Instant) : Bool :=
  match heartbeat with
  | none => true
  | some heartbeat => older now heartbeat

/-- `stale_workers`. -/
def RegistryRead.staleWorkers (r : RegistryRead) : Except Exc (List String) := do
  let heartbeats <- r.workerHeartbeats unicode
  return (heartbeats.filter fun w => isStale older now w.2).map Prod.fst

end Heartbeats

/-!
## One evaluation of the condition
-/

/-- What the calls of one evaluation answer: the two reads of the registry, the
clock of the second, the queues, and Kubernetes. -/
structure StallReads (clock : Type) where
  first : RegistryRead
  later : RegistryRead
  now : clock
  queueDepths : Except Exc (List (String × Nat))
  selector : Except Exc (Option String)
  pods : String -> Except Exc (List WorkerPod)

section Evaluation

variable {clock : Type} (unicode : UnicodeData) (older : clock -> Instant -> Bool)

/-- The environment answers with these reads. -/
structure Answers (env : Env) (reads : StallReads clock) : Prop where
  workerHeartbeats : forall trace, env.workerHeartbeats trace =
    (reads.first.workerHeartbeats unicode).map (List.map Prod.fst)
  queueDepths : forall trace, env.queueDepths trace = reads.queueDepths
  staleWorkers : forall trace, env.staleWorkers trace =
    reads.later.staleWorkers unicode older reads.now
  selector : forall trace deployment,
    env.deploymentLabelSelector trace deployment = reads.selector
  pods : forall trace selector, env.listWorkerPods trace selector = reads.pods selector

/-- Every worker of the later read is stale. -/
def AllStale (reads : StallReads clock) : Prop :=
  forall heartbeats, reads.later.workerHeartbeats unicode = .ok heartbeats ->
    forall worker heartbeat, (worker, heartbeat) ∈ heartbeats ->
      isStale older reads.now heartbeat = true

/-- The evaluation returns true. -/
def Holds (config : OperatorConfig) (env : Env) (w : World) : Prop :=
  exists w', stallConditionHolds config env w = .ok true w'

/-!
## The condition
-/

/-- Some queue is not empty. -/
def Loaded (reads : StallReads clock) : Prop :=
  exists depths, reads.queueDepths = .ok depths ∧ exists depth, depth ∈ depths ∧ 0 < depth.2

/-- The Deployment has a selector, and its pods are there and healthy. -/
def Vouched (reads : StallReads clock) : Prop :=
  exists selector pods, reads.selector = .ok (some selector) ∧ selector ≠ "" ∧
    reads.pods selector = .ok pods ∧ pods ≠ [] ∧
    forall pod, pod ∈ pods -> pod.healthy = true

/-- There are fresh workers at the later read, and the registry has grown since
the first by at least as many workers. -/
def FreshArrivals (reads : StallReads clock) : Prop :=
  exists registered heartbeats,
    reads.first.workerHeartbeats unicode = .ok registered ∧
    reads.later.workerHeartbeats unicode = .ok heartbeats ∧
    0 < (heartbeats.filter fun w => !isStale older reads.now w.2).length ∧
    registered.length + (heartbeats.filter fun w => !isStale older reads.now w.2).length <=
      heartbeats.length

end Evaluation

/-!
## When the condition holds
-/

section Legs

variable {clock : Type} {unicode : UnicodeData} {older : clock -> Instant -> Bool}
  {reads : StallReads clock} {env : Env} {w : World}

/-- Both reads succeed, and the second has as many stale workers as the first
has workers. -/
def NobodyProcessing (unicode : UnicodeData) (older : clock -> Instant -> Bool)
    (reads : StallReads clock) : Prop :=
  exists registered stale, reads.first.workerHeartbeats unicode = .ok registered ∧
    reads.later.staleWorkers unicode older reads.now = .ok stale ∧
    registered.length <= stale.length

theorem not_vouched_of_selector {selector : Option String}
    (h : reads.selector = .ok selector) (hempty : selector.getD "" = "") :
    ¬ Vouched reads := by
  intro hvouched
  rcases hvouched with ⟨text, pods, hselector, htext, -⟩
  rw [h] at hselector
  rw [Except.ok.inj hselector] at hempty
  exact htext hempty

/-- The leg on Kubernetes. -/
theorem wp_vouched (h : Answers unicode older env reads) (deployment : String) :
    Prog.wp (workerPodsHealthy deployment) env w (fun b _ => b = true <-> Vouched reads)
      (fun _ _ => ¬ Vouched reads) := by
  unfold workerPodsHealthy
  rw [Prog.wp_bind]
  apply wp_call
  · intro selector hselector
    rw [h.selector] at hselector
    cases selector with
    | none =>
        rw [Prog.wp_pure]
        exact iff_of_false (by simp) (not_vouched_of_selector hselector rfl)
    | some selector =>
        apply Prog.wp_ite
        · intro hempty
          rw [Prog.wp_pure]
          exact iff_of_false (by simp)
            (not_vouched_of_selector hselector (String.isEmpty_iff.mp hempty))
        · intro hempty
          have hne : selector ≠ "" := fun heq => hempty (String.isEmpty_iff.mpr heq)
          have hvouched : Vouched reads <-> exists pods, reads.pods selector = .ok pods ∧
              pods ≠ [] ∧ forall pod, pod ∈ pods -> pod.healthy = true := by
            constructor
            · intro hvouched
              rcases hvouched with ⟨selector', pods, hselector', -, hpods⟩
              rw [hselector] at hselector'
              cases hselector'
              exact ⟨pods, hpods⟩
            · intro hpods
              rcases hpods with ⟨pods, hpods⟩
              exact ⟨selector, pods, hselector, hne, hpods⟩
          rw [hvouched, Prog.wp_bind]
          apply wp_call
          · intro pods hpods
            rw [h.pods] at hpods
            rw [Prog.wp_pure, hpods]
            simp
          · intro e hpods hother
            rw [h.pods] at hpods
            rcases hother with ⟨pods, hpods', -⟩
            rw [hpods] at hpods'
            cases hpods'
  · intro e hselector hvouched
    rw [h.selector] at hselector
    rcases hvouched with ⟨selector, pods, hselector', -⟩
    rw [hselector] at hselector'
    cases hselector'

/-- The three legs, in the order in which they are evaluated. -/
theorem wp_legs (h : Answers unicode older env reads) (config : OperatorConfig) :
    Prog.wp (stallConditionHolds config) env w
      (fun b _ => b = true <->
        Loaded reads ∧ NobodyProcessing unicode older reads ∧ Vouched reads)
      (fun _ _ => ¬ (Loaded reads ∧ NobodyProcessing unicode older reads ∧ Vouched reads)) := by
  unfold stallConditionHolds
  rw [Prog.wp_bind, Prog.wp_read, Prog.wp_bind]
  apply wp_call
  · intro workers hworkers
    rw [h.workerHeartbeats] at hworkers
    cases hfirst : reads.first.workerHeartbeats unicode with
    | error e =>
        rw [hfirst] at hworkers
        cases hworkers
    | ok registered =>
        rw [hfirst] at hworkers
        have hlength : workers.length = registered.length := by
          rw [← Except.ok.inj hworkers, List.length_map]
        rw [Prog.wp_bind]
        unfold modifyLeg2
        rw [wp_modifyMemory, Prog.wp_bind]
        apply wp_call
        · intro depths hdepths
          rw [h.queueDepths] at hdepths
          have hloaded : Loaded reads <-> ¬ (depths.all fun depth => depth.2 = 0) = true := by
            unfold Loaded
            rw [hdepths]
            simp [Nat.pos_iff_ne_zero]
          apply Prog.wp_ite
          · intro hidle
            rw [Prog.wp_pure]
            exact iff_of_false (by simp) fun hall => hloaded.mp hall.1 hidle
          · intro hbusy
            rw [Prog.wp_bind, wp_modifyMemory, Prog.wp_bind]
            apply wp_call
            · intro stale hstale
              rw [h.staleWorkers] at hstale
              have hnobody : NobodyProcessing unicode older reads <->
                  registered.length <= stale.length := by
                unfold NobodyProcessing
                rw [hfirst, hstale]
                simp
              apply Prog.wp_ite
              · intro hfewer
                rw [Prog.wp_pure]
                refine iff_of_false (by simp) fun hall => ?_
                have hle := hnobody.mp hall.2.1
                lia
              · intro henough
                have hle : registered.length <= stale.length := by lia
                refine Prog.wp_mono (wp_vouched h _) ?_ ?_
                · intro b _ hb
                  rw [hb, and_iff_right (hloaded.mpr hbusy), and_iff_right (hnobody.mpr hle)]
                · intro _ _ hnot hall
                  exact hnot hall.2.2
            · intro e hstale hall
              rw [h.staleWorkers] at hstale
              rcases hall.2.1 with ⟨_, stale, -, hstale', -⟩
              rw [hstale] at hstale'
              cases hstale'
        · intro e hdepths hall
          rw [h.queueDepths] at hdepths
          rcases hall.1 with ⟨depths, hdepths', -⟩
          rw [hdepths] at hdepths'
          cases hdepths'
  · intro e hworkers hall
    rw [h.workerHeartbeats] at hworkers
    rcases hall.2.1 with ⟨registered, _, hfirst, -⟩
    rw [hfirst] at hworkers
    cases hworkers

theorem holds_iff (h : Answers unicode older env reads) (config : OperatorConfig) :
    Holds config env w <->
      Loaded reads ∧ NobodyProcessing unicode older reads ∧ Vouched reads := by
  have hlegs := wp_legs (w := w) h config
  unfold Prog.wp at hlegs
  unfold Holds
  cases hrun : stallConditionHolds config env w with
  | ok b w' =>
      rw [hrun] at hlegs
      refine Iff.trans ?_ hlegs
      constructor
      · intro hholds
        rcases hholds with ⟨w'', heq⟩
        cases heq
        rfl
      · intro hb
        exact ⟨w', by rw [hb]⟩
  | error e w' =>
      rw [hrun] at hlegs
      refine iff_of_false ?_ hlegs
      intro hholds
      rcases hholds with ⟨w'', heq⟩
      cases heq

/-!
## One view
-/

theorem nobodyProcessing_iff {registered heartbeats : List (String × Option Instant)}
    (hfirst : reads.first.workerHeartbeats unicode = .ok registered)
    (hlater : reads.later.workerHeartbeats unicode = .ok heartbeats) :
    NobodyProcessing unicode older reads <->
      registered.length <= (heartbeats.filter fun w => isStale older reads.now w.2).length := by
  unfold NobodyProcessing RegistryRead.staleWorkers
  rw [hfirst, hlater]
  simp [bind, Except.bind, pure, Except.pure]

theorem allStale_iff {heartbeats : List (String × Option Instant)}
    (hlater : reads.later.workerHeartbeats unicode = .ok heartbeats) :
    AllStale unicode older reads <->
      (heartbeats.filter fun w => !isStale older reads.now w.2).length = 0 := by
  unfold AllStale
  rw [hlater, List.length_eq_zero_iff, List.filter_eq_nil_iff]
  simp

/-- What lets a fresh worker pass the comparison. -/
theorem freshArrivals_iff : FreshArrivals unicode older reads <->
    NobodyProcessing unicode older reads ∧ ¬ AllStale unicode older reads := by
  constructor
  · intro harrivals
    rcases harrivals with ⟨registered, heartbeats, hfirst, hlater, hfresh, hgrown⟩
    rw [nobodyProcessing_iff hfirst hlater, allStale_iff hlater]
    have hsplit := List.length_eq_length_filter_add (l := heartbeats)
      fun w => isStale older reads.now w.2
    constructor <;> lia
  · intro h
    rcases h with ⟨hnobody, hfresh⟩
    have hreads := hnobody
    rcases hreads with ⟨registered, stale, hfirst, hstale, -⟩
    cases hlater : reads.later.workerHeartbeats unicode with
    | error e =>
        unfold RegistryRead.staleWorkers at hstale
        rw [hlater] at hstale
        cases hstale
    | ok heartbeats =>
        rw [nobodyProcessing_iff hfirst hlater] at hnobody
        rw [allStale_iff hlater] at hfresh
        have hsplit := List.length_eq_length_filter_add (l := heartbeats)
          fun w => isStale older reads.now w.2
        exact ⟨registered, heartbeats, hfirst, hlater, by lia, by lia⟩

/-- A registry that has not grown cannot hide a fresh worker. -/
theorem allStale_of_not_grown (h : Answers unicode older env reads) (config : OperatorConfig)
    (hgrown : forall registered heartbeats,
      reads.first.workerHeartbeats unicode = .ok registered ->
      reads.later.workerHeartbeats unicode = .ok heartbeats ->
      heartbeats.length <= registered.length)
    (hholds : Holds config env w) : AllStale unicode older reads := by
  by_contra hfresh
  have hnobody := ((holds_iff h config).mp hholds).2.1
  rcases freshArrivals_iff.mpr ⟨hnobody, hfresh⟩ with
    ⟨registered, heartbeats, hfirst, hlater, hpos, hle⟩
  have hlength := hgrown registered heartbeats hfirst hlater
  lia

end Legs

/-- The evaluation vouches for the later read unless, with work queued and a
healthy fleet, enough workers have registered between the reads. -/
theorem stall_condition_one_view_iff {clock : Type} (unicode : UnicodeData)
    (older : clock -> Instant -> Bool) (reads : StallReads clock) (config : OperatorConfig)
    (env : Env) (w : World) (h : Answers unicode older env reads) :
    (Holds config env w -> AllStale unicode older reads) <->
      ¬ (Loaded reads ∧ Vouched reads ∧ FreshArrivals unicode older reads) := by
  rw [holds_iff h config, freshArrivals_iff]
  constructor
  · intro hview hall
    rcases hall with ⟨hloaded, hvouched, hnobody, hfresh⟩
    exact hfresh (hview ⟨hloaded, hnobody, hvouched⟩)
  · intro hnot hlegs
    by_contra hfresh
    exact hnot ⟨hlegs.1, hlegs.2.2, hlegs.2.1, hfresh⟩

/-!
### A worker that registers between the reads
-/

section Arrival

variable {clock : Type}

/-- An environment that answers with these reads. -/
def readsEnv (unicode : UnicodeData) (older : clock -> Instant -> Bool)
    (reads : StallReads clock) : Env :=
  { Env.quiet 0 with
    workerHeartbeats := fun _ => (reads.first.workerHeartbeats unicode).map (List.map Prod.fst)
    queueDepths := fun _ => reads.queueDepths
    staleWorkers := fun _ => reads.later.staleWorkers unicode older reads.now
    deploymentLabelSelector := fun _ _ => reads.selector
    listWorkerPods := fun _ => reads.pods }

theorem answers_readsEnv (unicode : UnicodeData) (older : clock -> Instant -> Bool)
    (reads : StallReads clock) : Answers unicode older (readsEnv unicode older reads) reads where
  workerHeartbeats := fun _ => rfl
  queueDepths := fun _ => rfl
  staleWorkers := fun _ => rfl
  selector := fun _ _ => rfl
  pods := fun _ _ => rfl

/-- The threshold of the detector, on a clock without rounding. -/
def olderThanThreshold (now heartbeat : Instant) : Bool :=
  decide (seconds defaultWorkerHeartbeatStaleSeconds < now - heartbeat)

def noWorkers : RegistryRead where
  smembers := .ok []
  hgetall := .ok []
  nodup := fun _ h => Except.ok.inj h ▸ List.nodup_nil

/-- One worker, with the fields of the heartbeat hash. -/
def oneWorker (beats : List (String × String)) : RegistryRead where
  smembers := .ok ["worker-0:1:simulations"]
  hgetall := .ok beats
  nodup := fun _ h => Except.ok.inj h ▸ List.nodup_singleton _

/-- Work is queued and the one pod of the fleet is healthy. -/
def loadedReads (first later : RegistryRead) : StallReads Instant where
  first := first
  later := later
  now := days 738000
  queueDepths := .ok [("resque:queue:simulations", 1), ("resque:queue:requeued", 0)]
  selector := .ok (some "app=worker")
  pods := fun _ => .ok [⟨some "Running", [⟨some "Ready", some "True"⟩]⟩]

theorem loaded_loadedReads (first later : RegistryRead) : Loaded (loadedReads first later) :=
  ⟨_, rfl, _, List.mem_cons_self, Nat.one_pos⟩

theorem vouched_loadedReads (first later : RegistryRead) : Vouched (loadedReads first later) := by
  refine ⟨_, _, rfl, by decide, rfl, List.cons_ne_nil _ _, ?_⟩
  intro pod hpod
  rw [List.mem_singleton.mp hpod]
  decide

theorem workerHeartbeats_silent :
    (oneWorker []).workerHeartbeats UnicodeData.ascii =
      .ok [("worker-0:1:simulations", none)] := rfl

/-- The worker with a heartbeat of this moment. -/
def beatingWorker : RegistryRead :=
  oneWorker [("worker-0:1:simulations", StatusDocument.isoformat (days 738000))]

theorem workerHeartbeats_beating :
    beatingWorker.workerHeartbeats UnicodeData.ascii =
      .ok [("worker-0:1:simulations", some (days 738000))] := by
  have hiso : StatusDocument.parseIsoUtc UnicodeData.ascii
      (.str (StatusDocument.isoformat (days 738000))) = .ok (days 738000) :=
    StatusDocument.parseIsoUtc_timestamp (by decide)
  have hparse : parseHeartbeat UnicodeData.ascii (StatusDocument.isoformat (days 738000)) =
      .ok (days 738000) := by
    unfold parseHeartbeat
    rw [hiso]
  have hbeat : heartbeatOf UnicodeData.ascii
      [("worker-0:1:simulations", StatusDocument.isoformat (days 738000))]
      "worker-0:1:simulations" = .ok ("worker-0:1:simulations", some (days 738000)) := by
    unfold heartbeatOf
    rw [List.lookup_cons_self]
    simp only [hparse]
    rfl
  have hsort : sortOn id ["worker-0:1:simulations"] = ["worker-0:1:simulations"] := rfl
  unfold beatingWorker oneWorker RegistryRead.workerHeartbeats
  simp only [bind, Except.bind, hsort, List.mapM_cons, hbeat]
  rfl

end Arrival

/-- A fleet whose one worker has no heartbeat at either read. -/
theorem stall_condition_one_view_silent :
    Holds {} (readsEnv UnicodeData.ascii olderThanThreshold
        (loadedReads (oneWorker []) (oneWorker []))) {} ∧
      AllStale UnicodeData.ascii olderThanThreshold
        (loadedReads (oneWorker []) (oneWorker [])) := by
  have hanswers := answers_readsEnv UnicodeData.ascii olderThanThreshold
    (loadedReads (oneWorker []) (oneWorker []))
  have hholds : Holds {} (readsEnv UnicodeData.ascii olderThanThreshold
      (loadedReads (oneWorker []) (oneWorker []))) {} := by
    refine (holds_iff hanswers {}).mpr
      ⟨loaded_loadedReads _ _, ?_, vouched_loadedReads _ _⟩
    rw [nobodyProcessing_iff workerHeartbeats_silent workerHeartbeats_silent]
    simp [isStale]
  refine ⟨hholds, (stall_condition_one_view_iff UnicodeData.ascii olderThanThreshold _ {} _ {}
    hanswers).mpr ?_ hholds⟩
  intro hall
  rcases hall.2.2 with ⟨registered, heartbeats, -, hlater, hfresh, -⟩
  rw [← Except.ok.inj (workerHeartbeats_silent.symm.trans hlater)] at hfresh
  simp [isStale] at hfresh

/-- The first worker of an empty registry comes up between the reads. -/
theorem stall_condition_one_view_counterexample :
    Holds {} (readsEnv UnicodeData.ascii olderThanThreshold
        (loadedReads noWorkers beatingWorker)) {} ∧
      ¬ AllStale UnicodeData.ascii olderThanThreshold (loadedReads noWorkers beatingWorker) := by
  have hanswers := answers_readsEnv UnicodeData.ascii olderThanThreshold
    (loadedReads noWorkers beatingWorker)
  have hnone : noWorkers.workerHeartbeats UnicodeData.ascii = .ok [] := rfl
  constructor
  · refine (holds_iff hanswers {}).mpr ⟨loaded_loadedReads _ _, ?_, vouched_loadedReads _ _⟩
    rw [nobodyProcessing_iff hnone workerHeartbeats_beating]
    exact Nat.zero_le _
  · intro hstale
    have hworker := hstale _ workerHeartbeats_beating "worker-0:1:simulations"
      (some (days 738000)) List.mem_cons_self
    revert hworker
    decide

end StallSensing
end OpenStudioOperator
