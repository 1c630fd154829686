import OpenStudioOperator.DryRunAudit
import OpenStudioOperator.Foundation.Gauges
import OpenStudioOperator.OscmHandlers
import OpenStudioOperator.Spec

/-!
# The way of a timer into the operator

kopf calls a timer of a resource.  The gate of the singleton guard lists the resources and
lets the call pass for the oldest one; the shared runner reads the spec, shows its posture,
and runs the tick of the handler.  Calls of several timers and resources, watch events and
a SIGTERM follow each other in any order.
-/

namespace OpenStudioOperator
namespace TimerTicks

open Foundation OscmHandlers
open DryRunAudit (AuditState CrKey dryRunToggleAudit)
open SingletonGuard (ClusterManager crName isActive)
open Spec (SpecConfig)

/-!
## Calls
-/

/-- The timers, by the functions that kopf has registered. -/
inductive Timer where
  | analysisSlaMonitor
  | zombieDatapointWatchdog
  | webBackgroundMonitor
  | workerRecycler
deriving DecidableEq, Repr

/-- `fn.__name__`. -/
def Timer.fnName : Timer -> String
  | .analysisSlaMonitor => "analysis_sla_monitor"
  | .zombieDatapointWatchdog => "zombie_datapoint_watchdog"
  | .webBackgroundMonitor => "web_background_monitor"
  | .workerRecycler => "worker_recycler"

/-- The `module` that the handler gives to the runner. -/
def Timer.module : Timer -> String
  | .analysisSlaMonitor => "analysis_sla"
  | .zombieDatapointWatchdog => "datapoint_watchdog"
  | .webBackgroundMonitor => "web_background_monitor"
  | .workerRecycler => "worker_recycler"

/-- Why a listing fails: the gate catches some exceptions, by the name of the type. -/
inductive ListFailure where
  | caught (errorType : String)
  | other
deriving DecidableEq, Repr

/-- What the wiring and the tick of a handler come to. -/
inductive Guarded where
  | returned
  | skipped (exc : SkipException)
  | raised
deriving DecidableEq, Repr

/-- One call of a timer, with what it meets: the answer to the listing of the gate, what the
guarded part comes to, and the clock after a failure and at the end.  The body is missing
when it is no mapping. -/
structure Invocation where
  timer : Timer
  body : Option ClusterManager
  crNamespace : String
  name : String
  spec : List (String × Json)
  listing : Except ListFailure (List ClusterManager)
  guarded : SpecConfig -> Guarded
  failedAt : Instant
  endedAt : Instant

/-- How a call ends. -/
inductive Ending where
  | noContext
  | gateFailed (errorType : String)
  | gateRaised
  | loser
  | shutdown
  | idle
  | raised
  | returned
  | skipped (exc : SkipException)
deriving DecidableEq, Repr

/-!
## The operator process
-/

structure TimerProcess where
  shutdownRequested : Bool := false
  oscm : OscmHandlers.Process := {}
  loserSkips : Dict (String × String × String) Nat := .empty
  tickDurations : Dict String Nat := .empty
  lastTickTimestamp : Dict String Instant := .empty
  audit : AuditState := {}
  serverUrlSet : Dict CrKey Bool := .empty
  redisUrlSet : Dict CrKey Bool := .empty
  autoSoftStopEnabled : Dict CrKey Bool := .empty

/-- The four values that a call stamps for a resource. -/
structure Posture where
  dryRun : Bool
  serverUrlSet : Bool
  redisUrlSet : Bool
  autoSoftStop : Bool
deriving DecidableEq, Repr

/-- `stamp_config_posture_gauges`; the audit writes the first of the gauges as well. -/
def stampConfigPostureGauges (key : CrKey) (posture : Posture) (p : TimerProcess) :
    TimerProcess :=
  { p with
    audit := { p.audit with dryRunActive := p.audit.dryRunActive.set key posture.dryRun }
    serverUrlSet := p.serverUrlSet.set key posture.serverUrlSet
    redisUrlSet := p.redisUrlSet.set key posture.redisUrlSet
    autoSoftStopEnabled := p.autoSoftStopEnabled.set key posture.autoSoftStop }

def stampTick (module : String) (at' : Instant) (p : TimerProcess) : TimerProcess :=
  { p with lastTickTimestamp := p.lastTickTimestamp.set module at' }

/-- `bool(spec.get(key, default))`. -/
def truthyAt (members : List (String × Json)) (key : String) (default : Bool) : Bool :=
  ((members.lookup key).map Json.truthy).getD default

/-- The posture of a spec without a server; a policy that is no object has no `get`. -/
def idlePosture (spec : List (String × Json)) : Option Posture :=
  match (spec.lookup "analysisPolicy").getD (.obj []) with
  | .obj policy => some
      { dryRun := truthyAt spec "dryRun" false
        serverUrlSet := false
        redisUrlSet := truthyAt spec "redisUrl" false
        autoSoftStop := truthyAt policy "autoSoftStop" true }
  | _ => none

def configPosture (config : SpecConfig) : Posture where
  dryRun := config.dryRun.truthy
  serverUrlSet := config.serverUrl.truthy
  redisUrlSet := config.redisUrl.truthy || config.secretRef.isSome
  autoSoftStop := truthyAt config.analysisPolicy "autoSoftStop" true

def Invocation.key (inv : Invocation) : CrKey := (inv.crNamespace, inv.name)

section Operator

variable (unicode : UnicodeData)

/-!
## The runner
-/

/-- The failure that the runner counts. -/
def failedTick (inv : Invocation) (exc : SkipException) : HandlerTick where
  crNamespace := inv.crNamespace
  name := inv.name
  module := inv.timer.module
  time := inv.failedAt
  raised := some exc

/-- The guarded part, and the stamp at the end. -/
def guardedTick (inv : Invocation) (config : SpecConfig) (p : TimerProcess) :
    Ending × TimerProcess :=
  match inv.guarded config with
  | .returned => (.returned, stampTick inv.timer.module inv.endedAt p)
  | .raised => (.raised, stampTick inv.timer.module inv.endedAt p)
  | .skipped exc =>
      (.skipped exc, stampTick inv.timer.module inv.endedAt
        { p with oscm := skipTick (failedTick inv exc) exc p.oscm })

/-- `run_oscm_tick`. -/
def runOscmTick (inv : Invocation) (p : TimerProcess) : Ending × TimerProcess :=
  if p.shutdownRequested then (.shutdown, p)
  else if !truthyAt inv.spec "serverUrl" false then
    match idlePosture inv.spec with
    | none => (.raised, p)
    | some posture =>
        (.idle, stampTick inv.timer.module inv.endedAt
          (stampConfigPostureGauges inv.key posture p))
  else
    match Spec.fromSpec unicode inv.spec with
    | .error _ => (.raised, p)
    | .ok config =>
        let stamped := stampConfigPostureGauges inv.key (configPosture config) p
        if !config.serverUrl.truthy then
          (.idle, stampTick inv.timer.module inv.endedAt stamped)
        else guardedTick inv config stamped

/-- `observe_tick_duration` counts the call, however it ends. -/
def observedTick (inv : Invocation) (p : TimerProcess) : Ending × TimerProcess :=
  let run := runOscmTick unicode inv p
  (run.1, { run.2 with tickDurations := run.2.tickDurations.increment inv.timer.module })

/-!
## The gate
-/

/-- The bump of `HANDLER_TICK_FAILURES_TOTAL`, under the name of the function. -/
def countGateFailure (inv : Invocation) (errorType : String) (p : TimerProcess) : TimerProcess :=
  let metrics := p.oscm.metrics
  let labels := (inv.crNamespace, inv.name, inv.timer.fnName, errorType)
  { p with oscm := { p.oscm with metrics :=
      { metrics with tickFailures := metrics.tickFailures.increment labels } } }

/-- `_gated`. -/
def gatedTick (inv : Invocation) (p : TimerProcess) : Ending × TimerProcess :=
  match inv.body with
  | none => (.noContext, p)
  | some body =>
      if inv.crNamespace.isEmpty then (.noContext, p)
      else
        match inv.listing with
        | .error (.caught errorType) => (.gateFailed errorType, countGateFailure inv errorType p)
        | .error .other => (.gateRaised, p)
        | .ok items =>
            match isActive unicode body items with
            | .error (.singletonGuardError _) =>
                (.gateFailed "SingletonGuardError", countGateFailure inv "SingletonGuardError" p)
            | .error (.raised _) => (.gateRaised, p)
            | .ok false =>
                let labels := (inv.timer.fnName, inv.crNamespace, crName body)
                (.loser, { p with loserSkips := p.loserSkips.increment labels })
            | .ok true => observedTick unicode inv p

/-!
## Runs
-/

inductive Step where
  | timer (inv : Invocation)
  | watch (e : DryRunAudit.WatchEvent)
  | sigterm

def step (s : Step) (p : TimerProcess) : TimerProcess :=
  match s with
  | .timer inv => (gatedTick unicode inv p).2
  | .watch e => { p with audit := (dryRunToggleAudit unicode e p.audit).2 }
  | .sigterm => { p with shutdownRequested := true }

/-- The process after a history, the newest step first. -/
def stateAfter : List Step -> TimerProcess
  | [] => {}
  | s :: older => step unicode s (stateAfter older)

/-- How a call ends after a history. -/
def endingOf (inv : Invocation) (older : List Step) : Ending :=
  (gatedTick unicode inv (stateAfter unicode older)).1

end Operator

/-!
## What a call does
-/

/-- What the gate makes of a call. -/
inductive Verdict where
  | noContext
  | failed (errorType : String)
  | raised
  | loser
  | pass
deriving DecidableEq, Repr

section Verdicts

variable (unicode : UnicodeData)

def verdict (inv : Invocation) : Verdict :=
  match inv.body with
  | none => .noContext
  | some body =>
      if inv.crNamespace.isEmpty then .noContext
      else
        match inv.listing with
        | .error (.caught errorType) => .failed errorType
        | .error .other => .raised
        | .ok items =>
            match isActive unicode body items with
            | .error (.singletonGuardError _) => .failed "SingletonGuardError"
            | .error (.raised _) => .raised
            | .ok false => .loser
            | .ok true => .pass

/-- The posture that a spec has stamped, if it parses as far as that. -/
def postureOf (spec : List (String × Json)) : Option Posture :=
  if !truthyAt spec "serverUrl" false then idlePosture spec
  else
    match Spec.fromSpec unicode spec with
    | .ok config => some (configPosture config)
    | .error _ => none

/-- What the guarded part comes to, if it is reached. -/
def attempted (inv : Invocation) : Option Guarded :=
  if !truthyAt inv.spec "serverUrl" false then none
  else
    match Spec.fromSpec unicode inv.spec with
    | .ok config => if config.serverUrl.truthy then some (inv.guarded config) else none
    | .error _ => none

def Step.isSigterm : Step -> Bool
  | .sigterm => true
  | _ => false

/-- A SIGTERM has come. -/
def Stopped (older : List Step) : Prop := older.any Step.isSigterm = true

instance (older : List Step) : Decidable (Stopped older) := inferInstanceAs (Decidable (_ = _))

/-- The gate lets the call pass, and no SIGTERM has come. -/
def Served (inv : Invocation) (older : List Step) : Prop :=
  verdict unicode inv = .pass ∧ ¬ Stopped older

instance (inv : Invocation) (older : List Step) : Decidable (Served unicode inv older) :=
  inferInstanceAs (Decidable (_ ∧ _))

end Verdicts

section Calls

variable (unicode : UnicodeData) (inv : Invocation) (p : TimerProcess)

/-- The failures and their counters after the guarded part. -/
def oscmAfter (oscm : OscmHandlers.Process) : OscmHandlers.Process :=
  match attempted unicode inv with
  | some (.skipped exc) => skipTick (failedTick inv exc) exc oscm
  | _ => oscm

/-- The process after a call that the gate has let pass. -/
def servedState : TimerProcess :=
  match postureOf unicode inv.spec with
  | none => p
  | some posture =>
      stampTick inv.timer.module inv.endedAt
        { stampConfigPostureGauges inv.key posture p with oscm := oscmAfter unicode inv p.oscm }

def loserLabels : String × String × String :=
  (inv.timer.fnName, inv.crNamespace, (inv.body.map crName).getD "")

/-- The runner stamps and counts at most once, and nothing at all after a SIGTERM. -/
theorem runOscmTick_state : (runOscmTick unicode inv p).2 =
    if p.shutdownRequested then p else servedState unicode inv p := by
  unfold runOscmTick servedState oscmAfter postureOf attempted
  cases p.shutdownRequested with
  | true => rfl
  | false =>
      simp only [Bool.false_eq_true, if_false]
      cases hserver : truthyAt inv.spec "serverUrl" false with
      | false =>
          simp only [Bool.not_false, if_true]
          cases idlePosture inv.spec <;> rfl
      | true =>
          simp only [Bool.not_true, Bool.false_eq_true, if_false]
          cases Spec.fromSpec unicode inv.spec with
          | error e => rfl
          | ok config =>
              simp only
              cases hurl : config.serverUrl.truthy with
              | false => rfl
              | true =>
                  simp only [Bool.not_true, Bool.false_eq_true, if_false, if_true, guardedTick]
                  cases inv.guarded config <;> rfl

theorem gatedTick_state : (gatedTick unicode inv p).2 =
    match verdict unicode inv with
    | .noContext => p
    | .failed errorType => countGateFailure inv errorType p
    | .raised => p
    | .loser => { p with loserSkips := p.loserSkips.increment (loserLabels inv) }
    | .pass =>
        let q := if p.shutdownRequested then p else servedState unicode inv p
        { q with tickDurations := q.tickDurations.increment inv.timer.module } := by
  unfold gatedTick verdict loserLabels
  cases inv.body with
  | none => rfl
  | some body =>
      simp only
      split
      · rfl
      · cases inv.listing with
        | error failure => cases failure <;> rfl
        | ok items =>
            simp only
            cases isActive unicode body items with
            | error err => cases err <;> rfl
            | ok active =>
                cases active with
                | false => rfl
                | true =>
                    simp only [observedTick, runOscmTick_state]

end Calls

/-!
## Specs
-/

/-- What a spec declares. -/
def declared (spec : List (String × Json)) : Posture where
  dryRun := truthyAt spec "dryRun" false
  serverUrlSet := truthyAt spec "serverUrl" false
  redisUrlSet := truthyAt spec "redisUrl" false || SingletonGuard.hasRedisSecretRef spec
  autoSoftStop :=
    truthyAt ((SingletonGuard.objectAt spec "analysisPolicy").getD []) "autoSoftStop" true

section Specs

variable {unicode : UnicodeData} {spec : List (String × Json)} {config : SpecConfig}

theorem membersOf_ok {value : Json} {ms : List (String × Json)}
    (h : Spec.membersOf value = .ok ms) : value = .obj ms := by
  cases value <;> cases h
  rfl

theorem isSome_secretRef {raw : List (String × Json)}
    {ref : Option RedisCredentials.RedisSecretRef}
    (hraw : (if ((spec.lookup "redisCredentials").getD .null).truthy
      then (spec.lookup "redisCredentials").getD .null else .obj []) = .obj raw)
    (href : Spec.redisSecretRefFromSpec unicode ((raw.lookup "secretRef").getD .null) = .ok ref) :
    ref.isSome = SingletonGuard.hasRedisSecretRef spec := by
  unfold SingletonGuard.hasRedisSecretRef SingletonGuard.redisSecretRefOf
  -- without credentials, or with empty ones, there is no reference on either side
  have hempty : raw = [] -> ref.isSome = false := by
    intro hnil
    rw [hnil] at href
    cases href
    rfl
  cases hcredentials : spec.lookup "redisCredentials" with
  | none =>
      rw [hcredentials] at hraw
      cases hraw
      have hnone : SingletonGuard.objectAt spec "redisCredentials" = none := by
        unfold SingletonGuard.objectAt
        rw [hcredentials]
      rw [hnone, hempty rfl]
      rfl
  | some credentials =>
      rw [hcredentials, Option.getD_some] at hraw
      by_cases htruthy : credentials.truthy = true
      · rw [if_pos htruthy] at hraw
        have hobject : SingletonGuard.objectAt spec "redisCredentials" = some raw := by
          unfold SingletonGuard.objectAt
          rw [hcredentials, hraw]
        rw [hobject]
        cases hsecret : raw.lookup "secretRef" with
        | none =>
            rw [hsecret] at href
            cases href
            have hnone : SingletonGuard.objectAt raw "secretRef" = none := by
              unfold SingletonGuard.objectAt
              rw [hsecret]
            simp only [Option.bind_eq_bind, Option.bind_some, hnone, Option.bind_none]
        | some value =>
            rw [hsecret, Option.getD_some] at href
            cases value with
            | null =>
                cases href
                have hnone : SingletonGuard.objectAt raw "secretRef" = none := by
                  unfold SingletonGuard.objectAt
                  rw [hsecret]
                simp only [Option.bind_eq_bind, Option.bind_some, hnone, Option.bind_none]
            | obj ms =>
                have hsome : SingletonGuard.objectAt raw "secretRef" = some ms := by
                  unfold SingletonGuard.objectAt
                  rw [hsecret]
                simp only [Spec.redisSecretRefFromSpec] at href
                simp only [Option.bind_eq_bind, Option.bind_some, hsome]
                cases hname : SingletonGuard.textAt ms "name" with
                | none =>
                    rw [hname] at href
                    cases href
                | some name =>
                    cases hkey : SingletonGuard.textAt ms "key" with
                    | none =>
                        rw [hname, hkey] at href
                        cases href
                    | some key =>
                        rw [hname, hkey] at href
                        simp only [Option.bind_some] at href ⊢
                        split at href
                        · cases href
                        · rename_i hne
                          rw [if_neg hne]
                          cases href
                          rfl
            | _ => cases href
      · rw [if_neg htruthy] at hraw
        cases hraw
        rw [hempty rfl]
        have hnone : (SingletonGuard.objectAt spec "redisCredentials").bind
            (fun creds => SingletonGuard.objectAt creds "secretRef") = none := by
          unfold SingletonGuard.objectAt
          rw [hcredentials]
          cases credentials with
          | obj ms =>
              cases ms with
              | nil => rfl
              | cons m rest => exact absurd rfl htruthy
          | _ => rfl
        rw [Option.bind_eq_bind, ← Option.bind_assoc, hnone]
        rfl

/-- A spec that parses has the posture that it declares. -/
theorem configPosture_of_fromSpec (h : Spec.fromSpec unicode spec = .ok config) :
    configPosture config = declared spec := by
  unfold Spec.fromSpec at h
  simp only at h
  rcases bind_ok_iff.mp h with ⟨present, _, h⟩
  rcases bind_ok_iff.mp h with ⟨raw, hraw, h⟩
  rcases bind_ok_iff.mp h with ⟨ref, href, h⟩
  rcases bind_ok_iff.mp h with ⟨analysis, hanalysis, h⟩
  rcases bind_ok_iff.mp h with ⟨datapoint, _, h⟩
  rcases bind_ok_iff.mp h with ⟨worker, _, h⟩
  rcases bind_ok_iff.mp h with ⟨webBackground, _, h⟩
  rcases bind_ok_iff.mp h with ⟨storage, _, h⟩
  rcases bind_ok_iff.mp hanalysis with ⟨policy, hpolicy, hfields⟩
  have hsecret := isSome_secretRef (membersOf_ok hraw) href
  have hobject := membersOf_ok hpolicy
  cases h
  cases hfields
  have hsoftStop : truthyAt (Spec.analysisDefaults.map fun field =>
      (field.1, (policy.lookup field.1).getD field.2)) "autoSoftStop" true =
        truthyAt ((SingletonGuard.objectAt spec "analysisPolicy").getD []) "autoSoftStop" true := by
    have hmembers : (SingletonGuard.objectAt spec "analysisPolicy").getD [] = policy := by
      unfold SingletonGuard.objectAt
      cases hlookup : spec.lookup "analysisPolicy" with
      | none =>
          rw [hlookup] at hobject
          cases hobject
          rfl
      | some value =>
          rw [hlookup, Option.getD_some] at hobject
          rw [hobject]
          rfl
    rw [hmembers]
    show (Json.truthy ((policy.lookup "autoSoftStop").getD (.bool true))) = _
    unfold truthyAt
    cases policy.lookup "autoSoftStop" <;> rfl
  have hfield : forall (key : String) (default : Json),
      ((spec.lookup key).getD default).truthy = truthyAt spec key default.truthy := by
    intro key default
    unfold truthyAt
    cases spec.lookup key <;> rfl
  unfold configPosture declared
  rw [hsoftStop, hsecret, hfield, hfield, hfield]
  rfl

/-- What is shown of a spec: a Secret counts as a URL only where there is a server. -/
def shown (spec : List (String × Json)) : Posture :=
  { declared spec with
    redisUrlSet := truthyAt spec "redisUrl" false ||
      (truthyAt spec "serverUrl" false && SingletonGuard.hasRedisSecretRef spec) }

theorem postureOf_accepted (h : Spec.specSchema (.obj spec) = true) :
    postureOf unicode spec = some (shown spec) := by
  unfold postureOf shown
  cases hserver : truthyAt spec "serverUrl" false with
  | true =>
      rcases Spec.fromSpec_accepted unicode h with ⟨config, hconfig, _⟩
      simp only [Bool.not_true, Bool.false_eq_true, if_false, hconfig, Bool.true_and]
      rw [configPosture_of_fromSpec hconfig]
      rfl
  | false =>
      have hpolicy : (spec.lookup "analysisPolicy").getD (.obj []) =
          .obj ((SingletonGuard.objectAt spec "analysisPolicy").getD []) := by
        unfold SingletonGuard.objectAt
        cases hlookup : spec.lookup "analysisPolicy" with
        | none => rfl
        | some policy =>
            rcases Spec.object_of_accepted (Spec.member_accepted h hlookup rfl) with ⟨ms, hms⟩
            rw [hms]
            rfl
      simp only [Bool.not_false, if_true, idlePosture, hpolicy, Bool.false_and, Bool.or_false]
      unfold declared
      rw [hserver]

end Specs

end TimerTicks
end OpenStudioOperator
