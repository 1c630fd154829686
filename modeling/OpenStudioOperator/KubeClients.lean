import Mathlib.Data.List.Basic

/-!
# The Kubernetes clients of the process

Four factories keep one client each.  Building one loads the configuration of the cluster,
which the client library then keeps as its default; three of the factories build a
placeholder when no configuration is found, and one raises.
-/

namespace OpenStudioOperator
namespace KubeClients

/-!
## Clients
-/

inductive Api where
  | customObjects
  | apps
  | batch
  | core
deriving DecidableEq, Repr

/-- The `label` of the factory. -/
def Api.label : Api -> String
  | .customObjects => "CustomObjectsApi"
  | .apps => "AppsV1Api"
  | .batch => "BatchV1Api"
  | .core => "CoreV1Api"

def Api.strict : Api -> Bool
  | .customObjects => true
  | _ => false

/-- A client: which one of the process it is, whether the default configuration had been loaded
when it was built, and how many `BoundedK8sRequest` stand around its `request`. -/
structure KubeClient where
  serial : Nat
  configured : Bool
  bounded : Nat
deriving DecidableEq, Repr

/-- Which of the two sources of a configuration can be loaded. -/
structure Load where
  inCluster : Bool
  kubeConfig : Bool
deriving DecidableEq, Repr

/-- `ConfigException`. -/
inductive ConfigException where
  | configException
deriving DecidableEq, Repr

/-- `load_operator_kube_config`: the cluster's own first, then the file. -/
def loadOperatorKubeConfig (load : Load) : Except ConfigException Unit :=
  if load.inCluster then .ok ()
  else if load.kubeConfig then .ok ()
  else .error .configException

/-- The default configuration of the library, the slots of the factories, the clients built so
far, the warnings about placeholders, and the client of the process's guard. -/
structure KubeProcess where
  defaultConfigured : Bool := false
  slots : Api -> Option KubeClient := fun _ => none
  built : Nat := 0
  warnings : List String := []
  guard : Option KubeClient := none

/-- The constructor of a client. -/
def build (p : KubeProcess) : KubeClient where
  serial := p.built
  configured := p.defaultConfigured
  bounded := 0

/-- `apply_request_timeout`. -/
def applyRequestTimeout (client : KubeClient) : KubeClient :=
  if 0 < client.bounded then client else { client with bounded := client.bounded + 1 }

def KubeProcess.setSlot (p : KubeProcess) (api : Api) (client : Option KubeClient) : KubeProcess :=
  { p with slots := fun other => if other = api then client else p.slots other }

/-- Build a client and keep it. -/
def keepNew (api : Api) (p : KubeProcess) : KubeClient × KubeProcess :=
  let client := applyRequestTimeout (build p)
  (client, { p.setSlot api (some client) with built := p.built + 1 })

/-- `_cached_k8s_api`. -/
def cachedK8sApi (api : Api) (load : Load) (p : KubeProcess) :
    Except ConfigException KubeClient × KubeProcess :=
  match p.slots api with
  | some client => (.ok client, p)
  | none =>
      match loadOperatorKubeConfig load with
      | .ok () =>
          let kept := keepNew api { p with defaultConfigured := true }
          (.ok kept.1, kept.2)
      | .error e =>
          if api.strict then (.error e, p)
          else
            let warning := "K8s config not loaded for " ++ api.label
              ++ ": returning placeholder client."
            let kept := keepNew api { p with warnings := p.warnings ++ [warning] }
            (.ok kept.1, kept.2)

/-- `_get_guard`: without a guard the slot of its client is emptied first. -/
def getGuard (load : Load) (p : KubeProcess) : Except ConfigException KubeClient × KubeProcess :=
  match p.guard with
  | some client => (.ok client, p)
  | none =>
      match cachedK8sApi .customObjects load (p.setSlot .customObjects none) with
      | (.ok client, q) => (.ok client, { q with guard := some client })
      | (.error e, q) => (.error e, q)

/-- `reset_operator_k8s_client`. -/
def resetOperatorK8sClient (p : KubeProcess) : KubeProcess := { p with slots := fun _ => none }

/-!
## Runs
-/

inductive Step where
  | call (api : Api) (load : Load)
  | gate (load : Load)
  | dropGuard
  | reset
deriving DecidableEq, Repr

def step : Step -> KubeProcess -> KubeProcess
  | .call api load, p => (cachedK8sApi api load p).2
  | .gate load, p => (getGuard load p).2
  | .dropGuard, p => { p with guard := none }
  | .reset, p => resetOperatorK8sClient p

/-- The process after a history, the newest step first. -/
def stateAfter : List Step -> KubeProcess
  | [] => {}
  | s :: older => step s (stateAfter older)

/-!
## One call
-/

section Calls

variable {api : Api} {load : Load} {p : KubeProcess}

def Load.succeeds (load : Load) : Bool := load.inCluster || load.kubeConfig

theorem loadOperatorKubeConfig_eq (load : Load) :
    loadOperatorKubeConfig load = if load.succeeds then .ok () else .error .configException := by
  rcases load with ⟨_ | _, _ | _⟩ <;> rfl

/-- What a call of a factory without a client comes to. -/
inductive Called (api : Api) (load : Load) (p : KubeProcess) :
    Except ConfigException KubeClient × KubeProcess -> Prop where
  | cached {client : KubeClient} (hslot : p.slots api = some client) :
      Called api load p (.ok client, p)
  | failed (hslot : p.slots api = none) (hload : load.succeeds = false)
      (hstrict : api.strict = true) : Called api load p (.error .configException, p)
  | built {client : KubeClient} {q : KubeProcess} (hslot : p.slots api = none)
      (hload : load.succeeds = true ∨ api.strict = false)
      (hclient : client.configured = (load.succeeds || p.defaultConfigured) ∧ client.bounded = 1)
      (hslots : q.slots = fun other => if other = api then some client else p.slots other)
      (hguard : q.guard = p.guard)
      (hdefault : q.defaultConfigured = (load.succeeds || p.defaultConfigured)) :
      Called api load p (.ok client, q)

theorem called (api : Api) (load : Load) (p : KubeProcess) :
    Called api load p (cachedK8sApi api load p) := by
  unfold cachedK8sApi
  cases hslot : p.slots api with
  | some client => exact .cached hslot
  | none =>
      rw [loadOperatorKubeConfig_eq]
      cases hload : load.succeeds with
      | true =>
          exact .built hslot (.inl hload) ⟨by rw [hload]; rfl, rfl⟩ rfl rfl (by rw [hload]; rfl)
      | false =>
          simp only [Bool.false_eq_true, if_false]
          cases hstrict : api.strict with
          | true => exact .failed hslot hload hstrict
          | false =>
              exact .built hslot (.inr hstrict) ⟨by rw [hload]; rfl, rfl⟩ rfl rfl
                (by rw [hload]; rfl)

end Calls

/-!
## Runs keep what they have built
-/

section Runs

variable {api : Api} {client : KubeClient} {p : KubeProcess}

/-- A call leaves a client that is there. -/
theorem slots_cachedK8sApi {other : Api} {load : Load} (h : p.slots api = some client) :
    (cachedK8sApi other load p).2.slots api = some client := by
  have hcalled := called other load p
  generalize cachedK8sApi other load p = result at hcalled ⊢
  cases hcalled with
  | cached => exact h
  | failed => exact h
  | built hslot hload hclient hslots hguard hdefault =>
      rw [hslots]
      simp only
      split
      · rename_i heq
        rw [heq, hslot] at h
        cases h
      · exact h

theorem slots_getGuard {load : Load} (hlenient : api.strict = false)
    (h : p.slots api = some client) : (getGuard load p).2.slots api = some client := by
  have hcleared : (p.setSlot .customObjects none).slots api = some client := by
    rw [KubeProcess.setSlot]
    simp only
    split
    · rename_i heq
      rw [heq] at hlenient
      cases hlenient
    · exact h
  unfold getGuard
  cases p.guard with
  | some c => exact h
  | none =>
      have hcall := @slots_cachedK8sApi api client _ .customObjects load hcleared
      simp only
      cases hanswer : cachedK8sApi .customObjects load (p.setSlot .customObjects none) with
      | mk answer q =>
          rw [hanswer] at hcall
          cases answer <;> exact hcall

/-- Only a reset takes the client of a lenient factory. -/
theorem slots_stateAfter (hlenient : api.strict = false) {newer older : List Step}
    (hreset : .reset ∉ newer) (h : (stateAfter older).slots api = some client) :
    (stateAfter (newer ++ older)).slots api = some client := by
  induction newer with
  | nil => exact h
  | cons s newer ih =>
      have hslot := ih fun hmem => hreset (List.mem_cons_of_mem s hmem)
      cases s with
      | call other load => exact slots_cachedK8sApi hslot
      | gate load => exact slots_getGuard hlenient hslot
      | dropGuard => exact hslot
      | reset => exact absurd List.mem_cons_self hreset

/-- Every client carries one bound on its requests, and those of the strict factory and of the
guard were built on a configuration. -/
structure WellBuilt (p : KubeProcess) : Prop where
  bounded : forall api client, p.slots api = some client -> client.bounded = 1
  strict : forall client, p.slots .customObjects = some client -> client.configured = true
  guard : forall client, p.guard = some client -> client.configured = true ∧ client.bounded = 1

theorem WellBuilt.setSlot_none (h : WellBuilt p) (api : Api) : WellBuilt (p.setSlot api none) := by
  refine ⟨?_, ?_, h.guard⟩
  · intro other client hslot
    rw [KubeProcess.setSlot] at hslot
    simp only at hslot
    split at hslot
    · cases hslot
    · exact h.bounded other client hslot
  · intro client hslot
    rw [KubeProcess.setSlot] at hslot
    simp only at hslot
    split at hslot
    · cases hslot
    · exact h.strict client hslot

theorem WellBuilt.cachedK8sApi (h : WellBuilt p) (api : Api) (load : Load) :
    WellBuilt (cachedK8sApi api load p).2 ∧
      forall client, (KubeClients.cachedK8sApi api load p).1 = .ok client ->
        client.bounded = 1 ∧ (api.strict = true -> client.configured = true) := by
  have hcalled := called api load p
  generalize KubeClients.cachedK8sApi api load p = result at hcalled ⊢
  cases hcalled with
  | cached hslot =>
      refine ⟨h, ?_⟩
      rintro client ⟨⟩
      refine ⟨h.bounded api _ hslot, fun hstrict => ?_⟩
      cases api with
      | customObjects => exact h.strict _ hslot
      | apps => cases hstrict
      | batch => cases hstrict
      | core => cases hstrict
  | failed => exact ⟨h, fun _ hanswer => (nomatch hanswer)⟩
  | @built client q hslot hload hclient hslots hguard hdefault =>
      have hconfigured (hstrict : api.strict = true) : client.configured = true := by
        rcases hload with hload | hload
        · rw [hclient.1, hload, Bool.true_or]
        · rw [hload] at hstrict
          cases hstrict
      refine ⟨⟨?_, ?_, fun c hc => h.guard c (hguard ▸ hc)⟩, ?_⟩
      · intro other c hc
        rw [hslots] at hc
        simp only at hc
        split at hc
        · exact Option.some.inj hc ▸ hclient.2
        · exact h.bounded other c hc
      · intro c hc
        rw [hslots] at hc
        simp only at hc
        split at hc
        · rename_i heq
          exact Option.some.inj hc ▸ hconfigured (heq ▸ rfl)
        · exact h.strict c hc
      · rintro c ⟨⟩
        exact ⟨hclient.2, hconfigured⟩

theorem WellBuilt.getGuard (h : WellBuilt p) (load : Load) :
    WellBuilt (getGuard load p).2 ∧ forall client, (KubeClients.getGuard load p).1 = .ok client ->
      client.bounded = 1 ∧ client.configured = true := by
  unfold KubeClients.getGuard
  cases hguard : p.guard with
  | some c =>
      refine ⟨h, ?_⟩
      rintro client ⟨⟩
      exact (h.guard c hguard).symm
  | none =>
      rcases (h.setSlot_none .customObjects).cachedK8sApi .customObjects load with ⟨hbuilt, hclient⟩
      simp only
      cases hanswer : KubeClients.cachedK8sApi .customObjects load
          (p.setSlot .customObjects none) with
      | mk answer q =>
          rw [hanswer] at hbuilt hclient
          cases answer with
          | error e => exact ⟨hbuilt, fun _ hanswer => nomatch hanswer⟩
          | ok c =>
              have hc := hclient c rfl
              refine ⟨⟨hbuilt.bounded, hbuilt.strict, ?_⟩, ?_⟩
              · rintro client ⟨⟩
                exact ⟨hc.2 rfl, hc.1⟩
              · rintro client ⟨⟩
                exact ⟨hc.1, hc.2 rfl⟩

theorem wellBuilt_stateAfter (history : List Step) : WellBuilt (stateAfter history) := by
  induction history with
  | nil => exact ⟨fun _ _ h => (nomatch h), fun _ h => (nomatch h), fun _ h => (nomatch h)⟩
  | cons s older ih =>
      cases s with
      | call api load => exact (ih.cachedK8sApi api load).1
      | gate load => exact (ih.getGuard load).1
      | dropGuard => exact ⟨ih.bounded, ih.strict, fun _ h => (nomatch h)⟩
      | reset => exact ⟨fun _ _ h => (nomatch h), fun _ h => (nomatch h), ih.guard⟩

/-- After any history the strict factory and the guard give out no client that was built without
a configuration, and raise only where none can be loaded. -/
theorem strict_clients_configured (history : List Step) (load : Load) :
    (match (cachedK8sApi .customObjects load (stateAfter history)).1 with
      | .ok client => client.configured = true ∧ client.bounded = 1
      | .error _ => load.succeeds = false) ∧
      match (getGuard load (stateAfter history)).1 with
      | .ok client => client.configured = true ∧ client.bounded = 1
      | .error _ => load.succeeds = false := by
  have hbuilt := wellBuilt_stateAfter history
  have hraises (q : KubeProcess) {e : ConfigException}
      (h : (cachedK8sApi .customObjects load q).1 = .error e) : load.succeeds = false := by
    have hcalled := called .customObjects load q
    generalize cachedK8sApi .customObjects load q = result at hcalled h
    cases hcalled with
    | cached => cases h
    | failed _ hload => exact hload
    | built => cases h
  constructor
  · cases hanswer : (cachedK8sApi .customObjects load (stateAfter history)).1 with
    | ok client =>
        rcases (hbuilt.cachedK8sApi .customObjects load).2 client hanswer with ⟨hone, hconf⟩
        exact ⟨hconf rfl, hone⟩
    | error e => exact hraises _ hanswer
  · cases hanswer : (getGuard load (stateAfter history)).1 with
    | ok client => exact ((hbuilt.getGuard load).2 client hanswer).symm
    | error e =>
        unfold getGuard at hanswer
        cases hguard : (stateAfter history).guard with
        | some c =>
            rw [hguard] at hanswer
            cases hanswer
        | none =>
            rw [hguard] at hanswer
            simp only at hanswer
            apply @hraises ((stateAfter history).setSlot .customObjects none) e
            cases hcall : cachedK8sApi .customObjects load
                ((stateAfter history).setSlot .customObjects none) with
            | mk answer q =>
                rw [hcall] at hanswer
                cases answer with
                | ok c => cases hanswer
                | error e' => exact hanswer

/-- A lenient factory answers every call with the client of its first one until a reset, however
the calls of all factories and of the gate follow each other; so a placeholder, built while no
configuration had ever been loaded, is never replaced by a configured client, whatever can be
loaded later. -/
theorem placeholder_latches {api : Api} (hlenient : api.strict = false) (load : Load)
    {newer older : List Step} (hreset : .reset ∉ newer) :
    exists client, (cachedK8sApi api load (stateAfter older)).1 = .ok client ∧
      client.bounded = 1 ∧
      ((stateAfter older).slots api = none ->
        client.configured = (load.succeeds || (stateAfter older).defaultConfigured)) ∧
      forall later, (cachedK8sApi api later
        (stateAfter (newer ++ .call api load :: older))).1 = .ok client := by
  have hkept {client : KubeClient}
      (hslot : (stateAfter (.call api load :: older)).slots api = some client) (later : Load) :
      (cachedK8sApi api later (stateAfter (newer ++ .call api load :: older))).1 = .ok client := by
    rw [cachedK8sApi, slots_stateAfter hlenient hreset hslot]
  have hstep : (stateAfter (.call api load :: older)).slots =
      (cachedK8sApi api load (stateAfter older)).2.slots := rfl
  have hone := ((wellBuilt_stateAfter older).cachedK8sApi api load).2
  cases hcalled : cachedK8sApi api load (stateAfter older) with
  | mk answer q =>
      have h := called api load (stateAfter older)
      rw [hcalled] at h hstep hone
      cases h with
      | cached hslot =>
          refine ⟨_, rfl, (hone _ rfl).1, ?_, hkept (by rw [hstep]; exact hslot)⟩
          rw [hslot]
          exact fun h => nomatch h
      | failed hslot hload hstrict =>
          rw [hlenient] at hstrict
          cases hstrict
      | built hslot hload hclient hslots hguard hdefault =>
          refine ⟨_, rfl, (hone _ rfl).1, fun _ => hclient.1, hkept ?_⟩
          rw [hstep, hslots]
          exact if_pos rfl

end Runs

/-- The cluster's configuration is missing at first, and is found at every later call. -/
theorem placeholder_latches_apps :
    exists client, client.configured = false ∧
      (cachedK8sApi .apps ⟨true, true⟩
        (stateAfter [.gate ⟨true, true⟩, .call .apps ⟨false, false⟩])).1 = .ok client := by
  have h := @placeholder_latches .apps rfl ⟨false, false⟩ [.gate ⟨true, true⟩] [] (by decide)
  rcases h with ⟨client, _, _, hconfigured, hlater⟩
  exact ⟨client, hconfigured rfl, hlater _⟩

end KubeClients
end OpenStudioOperator
