import OpenStudioOperator.Spec

/-!
# The storage pruner

One run of the pruner: it elects the active resource, reads its configuration,
refuses to go on without a Redis URL, and runs one retention tick.  Every
outcome has its exit code.
-/

namespace OpenStudioOperator
namespace PruneEntrypoint

open Foundation
open SingletonGuard
open Spec (SpecConfig fromSpec specSchema)
open StatusDocument (PyExc)

/-- How a retention tick ends: normally, by an exception that skips the tick,
or by another one. -/
inductive TickOutcome where
  | done
  | skipped
  | raised
deriving DecidableEq, Repr

/-- The answers of the cluster to one run.  A listing that fails in another way
than by an API or configuration error escapes. -/
structure PruneEnv where
  podNamespace : Option String
  kubeConfigLoads : Bool
  listCrs : Option (List ClusterManager)
  runRetentionTick : SpecConfig -> TickOutcome

/-- The end of a run: an exit code, or an exception that escapes. -/
inductive PruneExit where
  | code (n : Nat)
  | raised
deriving DecidableEq, Repr

structure PruneEvent where
  type : EventType
  reason : String
  message : String
deriving DecidableEq

def refusalEvent (crNamespace name : String) : PruneEvent where
  type := .warning
  reason := "RedisURLEmpty"
  message := "spec.redisUrl is empty on " ++ crNamespace ++ "/" ++ name
    ++ " (issues #116, #180). Storage prune actor is a no-op until you set this field "
    ++ "explicitly. The previous default exposed the kind-recipe password \x60openstudio\x60 and has "
    ++ "been removed; helm-chart users should derive the URL from the Redis-secret KeyRef."

section Main

variable (unicode : UnicodeData)

/-- The run after the active resource is known. -/
def serve (env : PruneEnv) (crNamespace : String) (cr : ClusterManager) :
    PruneExit × List PruneEvent :=
  match fromSpec unicode (specOf cr) with
  | .error (.valueError _) => (.code 5, [])
  | .error _ => (.raised, [])
  | .ok config =>
      if !config.serverUrl.truthy then (.code 0, [])
      else if !config.redisUrl.truthy then
        (.code 3, [refusalEvent crNamespace (textOf cr.metadata.name)])
      else
        match env.runRetentionTick config with
        | .done => (.code 0, [])
        | .skipped => (.code 5, [])
        | .raised => (.raised, [])

def main (env : PruneEnv) : PruneExit × List PruneEvent :=
  match env.podNamespace with
  | none => (.code 2, [])
  | some crNamespace =>
      if crNamespace = "" then (.code 2, [])
      else if !env.kubeConfigLoads then (.code 5, [])
      else
        match env.listCrs with
        | none => (.code 4, [])
        | some crs =>
            match resolveActiveCr unicode crs with
            | .error _ => (.raised, [])
            | .ok none => (.code 0, [])
            | .ok (some cr) => serve unicode env crNamespace cr

end Main

/-!
## The fence on the Redis URL
-/

/-- The guard of the operator warns about the Redis URL of a resource that it
has not warned about before. -/
def GuardWarns (cr : ClusterManager) : Prop :=
  exists event, event ∈ (emitRedisUrlGuardEvents ∅ [cr]).2 ∧ event.reason = "RedisUrlEmpty"

section Fence

variable {unicode : UnicodeData}

/-- The run serves the resource that it elects. -/
theorem main_serves {env : PruneEnv} {crNamespace : String} {crs : List ClusterManager}
    {cr : ClusterManager} (hnamespace : env.podNamespace = some crNamespace)
    (hne : crNamespace ≠ "") (hloads : env.kubeConfigLoads = true) (hlist : env.listCrs = some crs)
    (hactive : resolveActiveCr unicode crs = .ok (some cr)) :
    main unicode env = serve unicode env crNamespace cr := by
  unfold main
  simp only [hnamespace, hne, hloads, hlist, hactive, if_false, Bool.not_true, Bool.false_eq_true]

/-- The pruner refuses an accepted spec with a server URL exactly when its Redis
URL is empty. -/
theorem serve_refuses_iff {env : PruneEnv} {crNamespace : String} {cr : ClusterManager}
    (haccepted : specSchema (.obj (specOf cr)) = true)
    (hserver : (((specOf cr).lookup "serverUrl").getD (.str "")).truthy = true) :
    (serve unicode env crNamespace cr).1 = .code 3 <->
      redisUrlEmpty (specOf cr) = true := by
  rcases Spec.fromSpec_accepted unicode haccepted with ⟨config, hconfig, hserverUrl, hredisUrl⟩
  have hredis : config.redisUrl.truthy = !redisUrlEmpty (specOf cr) := by
    rw [hredisUrl]
    unfold redisUrlEmpty
    rw [Bool.not_not]
    cases (specOf cr).lookup "redisUrl" <;> rfl
  have htruthy : config.serverUrl.truthy = true := by
    rw [hserverUrl]
    exact hserver
  unfold serve
  simp only [hconfig, htruthy, hredis, Bool.not_true, Bool.false_eq_true, if_false, Bool.not_not]
  cases redisUrlEmpty (specOf cr) with
  | true => simp
  | false =>
      cases env.runRetentionTick config <;> simp

/-- The guard warns exactly when there is neither a Redis URL nor a Secret. -/
theorem guardWarns_iff {cr : ClusterManager} (hns : textOf cr.metadata.crNamespace ≠ "")
    (hname : textOf cr.metadata.name ≠ "") :
    GuardWarns cr <->
      redisUrlEmpty (specOf cr) = true ∧ hasRedisSecretRef (specOf cr) = false := by
  have hunnamed : ¬ ((keyOf cr).1 = "" ∨ (keyOf cr).2 = "") := by
    intro h
    rcases h with h | h
    · exact hns h
    · exact hname h
  unfold GuardWarns emitRedisUrlGuardEvents warnAll warnAll warnRedisUrl
  simp only [hunnamed, if_false, Finset.notMem_empty, List.append_nil]
  -- the text of the Event is not looked at
  have hreason : (redisUrlEmptyEvent (keyOf cr)).reason = "RedisUrlEmpty" := rfl
  cases hempty : redisUrlEmpty (specOf cr) <;> cases href : hasRedisSecretRef (specOf cr) <;>
    simp [hreason]

end Fence

/-- The two actors agree on a resource exactly when it has a Redis URL in its
spec or names no Secret. -/
theorem redis_fences_agree_iff {unicode : UnicodeData} {env : PruneEnv} {crNamespace : String}
    {crs : List ClusterManager} {cr : ClusterManager}
    (hnamespace : env.podNamespace = some crNamespace) (hne : crNamespace ≠ "")
    (hloads : env.kubeConfigLoads = true) (hlist : env.listCrs = some crs)
    (hactive : resolveActiveCr unicode crs = .ok (some cr))
    (hcrNamespace : textOf cr.metadata.crNamespace ≠ "") (hname : textOf cr.metadata.name ≠ "")
    (haccepted : specSchema (.obj (specOf cr)) = true)
    (hserver : (((specOf cr).lookup "serverUrl").getD (.str "")).truthy = true) :
    ((main unicode env).1 = .code 3 <-> GuardWarns cr) <->
      redisUrlEmpty (specOf cr) = false ∨ (specOf cr).lookup "redisCredentials" = none := by
  rw [main_serves hnamespace hne hloads hlist hactive, serve_refuses_iff haccepted hserver,
    guardWarns_iff hcrNamespace hname, Spec.hasRedisSecretRef_accepted haccepted]
  cases redisUrlEmpty (specOf cr) <;> cases (specOf cr).lookup "redisCredentials" <;> simp

/-- A resource whose Redis URL comes from a Secret alone. -/
def secretOnlyCr : ClusterManager where
  metadata := { crNamespace := some "openstudio", name := some "oscm", uid := some "u1",
                creationTimestamp := some "2024-01-01T00:00:00Z" }
  spec := some
    [("redisCredentials", .obj [("secretRef", .obj [("key", .str "redis-url"),
      ("name", .str "openstudio-redis")])]),
     ("redisUrl", .str ""), ("serverUrl", .str "http://web.openstudio.svc:8080")]

def pruneEnv (cr : ClusterManager) : PruneEnv where
  podNamespace := some "openstudio"
  kubeConfigLoads := true
  listCrs := some [cr]
  runRetentionTick := fun _ => .done

theorem redis_fences_secretOnly :
    ((main UnicodeData.ascii (pruneEnv secretOnlyCr)).1 = .code 3 <-> GuardWarns secretOnlyCr) <->
      redisUrlEmpty (specOf secretOnlyCr) = false ∨
        (specOf secretOnlyCr).lookup "redisCredentials" = none := by
  have hactive : resolveActiveCr UnicodeData.ascii [secretOnlyCr] = .ok (some secretOnlyCr) := by
    decide +kernel
  have haccepted : specSchema (.obj (specOf secretOnlyCr)) = true := by
    decide +kernel
  exact redis_fences_agree_iff rfl (by decide) rfl rfl hactive (by decide) (by decide) haccepted
    (by decide +kernel)

/-- The pruner refuses it, and the guard has nothing to say. -/
theorem secretOnly_refused :
    specSchema (.obj (specOf secretOnlyCr)) = true ∧
      (main UnicodeData.ascii (pruneEnv secretOnlyCr)).1 = .code 3 ∧
      (emitRedisUrlGuardEvents ∅ [secretOnlyCr]).2 = [] := by
  decide +kernel

end PruneEntrypoint
end OpenStudioOperator
