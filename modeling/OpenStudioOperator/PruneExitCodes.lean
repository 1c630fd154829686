import OpenStudioOperator.Foundation.Raising
import OpenStudioOperator.PruneEntrypoint

/-!
# Exit codes of the storage pruner

One run of the pruner with its clients given, on resources as the API server lists
them: nothing is known of their fields.  The table of exit codes says how each run
is to end.
-/

namespace OpenStudioOperator
namespace PruneExitCodes

open Foundation
open PruneEntrypoint (PruneEvent refusalEvent)
open SingletonGuard (GuardError missingCreated)
open Spec (SpecConfig analysisPolicyFields fieldsPresent fromSpec membersOf policyOf
  redisSecretRefFromSpec)
open StatusDocument (PyExc)

/-- The members of a resource. -/
abbrev CrObject := List (String × Json)

/-- The classes of `_SKIP_TICK_EXCEPTIONS`. -/
inductive SkipClass where
  | openStudioApiError
  | statusStoreError
  | apiException
  | redisClientError
  | operatorConfigError
  | configException
  | locationValueError
  | valueError
deriving DecidableEq, Repr

/-- What the listing is guarded against. -/
inductive ListError where
  | apiException
  | configException
deriving DecidableEq, Repr

/-- The answers to one run: the items of the listing, and how the construction of the
client and the retention tick end. -/
structure PruneRun where
  crNamespace : String
  listed : Except ListError (List Json)
  clientFactory : Json -> Except SkipClass Unit
  runRetentionTick : SpecConfig -> Except SkipClass Unit

/-- The end of a run: an exit code, or an exception that escapes. -/
inductive Exit where
  | code (n : Nat)
  | raised (exc : GuardError)
deriving DecidableEq, Repr

/-- The end of a run with the reason that is counted and the Events. -/
structure Ended where
  exit : Exit
  counted : Option String := none
  events : List PruneEvent := []
deriving DecidableEq

/-- `value or {}`. -/
def orEmpty : Option Json -> Json
  | none => .obj []
  | some value => if value.truthy then value else .obj []

section Run

variable (unicode : UnicodeData)

/-- `str(value or default)`. -/
def orText (default : String) : Option Json -> String
  | none => default
  | some value => if value.truthy then value.pyStr unicode else default

/-!
## The active resource
-/

/-- The items that are objects. -/
def listCrs (items : List Json) : List CrObject :=
  items.filterMap fun
    | .obj members => some members
    | _ => none

/-- `_meta`. -/
def metaOf (cr : CrObject) : List (String × Json) :=
  match cr.lookup "metadata" with
  | some (.obj metadata) => metadata
  | _ => []

/-- `_parse_utc`: only a `ValueError` becomes an error of the guard. -/
def parseUtc (context : String) (value : Json) : Except GuardError Instant :=
  match StatusDocument.parseIsoUtc unicode value with
  | .ok t => .ok t
  | .error (.valueError message) => .error (.singletonGuardError (context ++ ": " ++ message))
  | .error exc => .error (.raised exc)

/-- The creation instant of a resource. -/
def created (cr : CrObject) : Except GuardError Instant :=
  let raw := ((metaOf cr).lookup "creationTimestamp").getD .null
  if raw.truthy then
    parseUtc unicode ("OpenStudioClusterManager "
      ++ orText unicode "<unnamed>" ((metaOf cr).lookup "name")
      ++ ": metadata.creationTimestamp") raw
  else .ok missingCreated

def seniorityKey (cr : CrObject) : Except GuardError SingletonGuard.SeniorityKey := do
  let at' <- created unicode cr
  return toLex (at', toLex (orText unicode "" ((metaOf cr).lookup "name"),
    orText unicode "" ((metaOf cr).lookup "uid")))

/-- Oldest first. -/
def sortCrsBySeniority (items : List CrObject) : Except GuardError (List CrObject) := do
  let keyed <- items.mapM fun cr => do return (<- seniorityKey unicode cr, cr)
  return (sortOn Prod.fst keyed).map Prod.snd

def resolveActiveCr (items : List CrObject) : Except GuardError (Option CrObject) := do
  return (<- sortCrsBySeniority unicode items).head?

/-!
## The run
-/

/-- The name of the active resource. -/
def nameOf (cr : CrObject) : Except PyExc String := do
  let metadata <- membersOf (orEmpty (cr.lookup "metadata"))
  return orText unicode "" (metadata.lookup "name")

/-- `_SPEC_TOP_LEVEL_FIELDS`. -/
def specTopLevelFields : List String :=
  ["serverUrl", "redisUrl", "redisCredentials", "dryRun", "targetWorkerDeployment",
    "targetWebBackgroundDeployment", "analysisPolicy", "datapointPolicy", "workerPolicy",
    "webBackgroundPolicy", "storagePolicy"]

/-- `OperatorConfig.from_spec` of a value that is true or empty. -/
def configFromSpec (spec : Json) : Except PyExc SpecConfig := do
  let _ <- fieldsPresent specTopLevelFields spec
  let members <- membersOf spec
  fromSpec unicode members

/-- The run of an accepted configuration. -/
def serve (run : PruneRun) (name : String) (config : SpecConfig) : Ended :=
  if !config.serverUrl.truthy then { exit := .code 0 }
  else if !config.redisUrl.truthy then
    { exit := .code 3, counted := some "redis_url_empty",
      events := [refusalEvent run.crNamespace name] }
  else
    match run.clientFactory config.serverUrl with
    | .error _ => { exit := .code 5, counted := some "runtime_failure" }
    | .ok _ =>
        match run.runRetentionTick config with
        | .error _ => { exit := .code 5, counted := some "runtime_failure" }
        | .ok _ => { exit := .code 0 }

/-- `main`, its clients given. -/
def main (run : PruneRun) : Ended :=
  if run.crNamespace.isEmpty then { exit := .code 2 }
  else
    match run.listed with
    | .error _ => { exit := .code 4, counted := some "cr_list_failure" }
    | .ok items =>
        -- the election is not guarded
        match resolveActiveCr unicode (listCrs items) with
        | .error exc => { exit := .raised exc }
        | .ok none => { exit := .code 0 }
        | .ok (some cr) =>
            match nameOf unicode cr with
            | .error exc => { exit := .raised (.raised exc) }
            | .ok name =>
                match configFromSpec unicode (orEmpty (cr.lookup "spec")) with
                | .ok config => serve run name config
                -- the one class of the tuple that the parse can raise
                | .error (.valueError _) =>
                    { exit := .code 5, counted := some "runtime_failure" }
                | .error exc => { exit := .raised (.raised exc) }

/-!
## The table
-/

/-- The creation timestamp is missing, or a text that denotes an instant. -/
def Dated (cr : CrObject) : Prop :=
  forall raw, (metaOf cr).lookup "creationTimestamp" = some raw -> raw.truthy = true ->
    exists t, StatusDocument.parseIsoUtc unicode raw = .ok t

/-- The resources are listed, with creation timestamps that parse. -/
structure Listed (run : PruneRun) (crs : List CrObject) : Prop where
  named : run.crNamespace.isEmpty = false
  items : exists items, run.listed = .ok items ∧ crs = listCrs items
  dated : forall cr, cr ∈ crs -> Dated unicode cr

/-- The configuration of the active resource. -/
def Configured (run : PruneRun) (config : SpecConfig) : Prop :=
  exists crs cr, Listed unicode run crs ∧ resolveActiveCr unicode crs = .ok (some cr) ∧
    configFromSpec unicode (orEmpty (cr.lookup "spec")) = .ok config

/-- The exit-code table. -/
inductive Table (run : PruneRun) : Nat -> Prop where
  | noNamespace : run.crNamespace.isEmpty = true -> Table run 2
  | unparseable (items : List Json) (cr : CrObject) :
      run.crNamespace.isEmpty = false -> run.listed = .ok items -> cr ∈ listCrs items ->
      ¬ Dated unicode cr -> Table run 2
  | notListed (exc : ListError) :
      run.crNamespace.isEmpty = false -> run.listed = .error exc -> Table run 4
  | noResource : Listed unicode run [] -> Table run 0
  | malformed (crs : List CrObject) (cr : CrObject) (exc : PyExc) :
      Listed unicode run crs -> resolveActiveCr unicode crs = .ok (some cr) ->
      configFromSpec unicode (orEmpty (cr.lookup "spec")) = .error exc -> Table run 5
  | noServer (config : SpecConfig) :
      Configured unicode run config -> config.serverUrl.truthy = false -> Table run 0
  | noRedis (config : SpecConfig) :
      Configured unicode run config -> config.serverUrl.truthy = true ->
      config.redisUrl.truthy = false -> Table run 3
  | failed (config : SpecConfig) (exc : SkipClass) :
      Configured unicode run config -> config.serverUrl.truthy = true ->
      config.redisUrl.truthy = true ->
      run.clientFactory config.serverUrl = .error exc ∨ run.runRetentionTick config = .error exc ->
      Table run 5
  | ticked (config : SpecConfig) :
      Configured unicode run config -> config.serverUrl.truthy = true ->
      config.redisUrl.truthy = true -> run.clientFactory config.serverUrl = .ok () ->
      run.runRetentionTick config = .ok () -> Table run 0

/-- The run ends with a code that the table has for it, and with 4 exactly when the
listing failed. -/
structure Documented (run : PruneRun) : Prop where
  code : exists n, (main unicode run).exit = .code n ∧ Table unicode run n
  four : (main unicode run).exit = .code 4 <->
    run.crNamespace.isEmpty = false ∧ exists exc, run.listed = .error exc

/-!
## Shapes
-/

def IsObject (value : Json) : Prop := exists members, value = .obj members

/-- `in` is defined on the value. -/
def Iterable : Json -> Prop
  | .str _ => True
  | .arr _ => True
  | .obj _ => True
  | _ => False

/-- A member that is missing or an object. -/
def ObjectAt (members : List (String × Json)) (key : String) : Prop :=
  forall value, members.lookup key = some value -> IsObject value

/-- A `secretRef` that is given, and no object with a name and a key. -/
def BadSecretRef (value : Json) : Prop :=
  value ≠ .null ∧
    forall ref n k, value = .obj ref -> SingletonGuard.textAt ref "name" = some n ->
      SingletonGuard.textAt ref "key" = some k -> n.isEmpty = true ∨ k.isEmpty = true

/-- A spec whose parse fails with a `ValueError` at most. -/
structure Readable (spec : List (String × Json)) : Prop where
  analysis : forall value, spec.lookup "analysisPolicy" = some value -> value.truthy = true ->
    Iterable value
  credentials : IsObject (orEmpty (spec.lookup "redisCredentials"))
  policies : (exists creds, orEmpty (spec.lookup "redisCredentials") = .obj creds ∧
      BadSecretRef ((creds.lookup "secretRef").getD .null)) ∨
    forall key, key ∈ ["analysisPolicy", "datapointPolicy", "workerPolicy",
      "webBackgroundPolicy", "storagePolicy"] -> ObjectAt spec key

/-- Nothing in the answers makes an exception escape. -/
def Covered (run : PruneRun) : Prop :=
  run.crNamespace.isEmpty = true ∨
    forall items, run.listed = .ok items ->
      (forall cr, cr ∈ listCrs items -> Dated unicode cr) ∧
      forall cr, resolveActiveCr unicode (listCrs items) = .ok (some cr) ->
        IsObject (orEmpty (cr.lookup "metadata")) ∧
        exists spec, orEmpty (cr.lookup "spec") = .obj spec ∧ Readable spec

/-!
## The parse of a spec
-/

/-- A `ValueError`, which the guard of the parse takes. -/
def IsValueError (exc : PyExc) : Prop := exists message, exc = .valueError message

section Parse

variable {unicode}

theorem onlyRaises_fieldsPresent (fields : List String) (value : Json) :
    OnlyRaises IsValueError (fieldsPresent fields value) <->
      (value.truthy = true -> Iterable value) := by
  have hother : forall message, ¬ IsValueError (.typeError message) := by
    rintro message ⟨message', heq⟩
    cases heq
  unfold fieldsPresent
  cases htruthy : value.truthy with
  | false => exact ⟨fun _ hfalse => (by cases hfalse), fun _ => onlyRaises_ok []⟩
  | true =>
      cases value with
      | str s => exact ⟨fun _ _ => trivial, fun _ => onlyRaises_ok _⟩
      | arr items => exact ⟨fun _ _ => trivial, fun _ => onlyRaises_ok _⟩
      | obj ms => exact ⟨fun _ _ => trivial, fun _ => onlyRaises_ok _⟩
      | _ => exact ⟨fun h => absurd (h _ rfl) (hother _), fun h => (h rfl).elim⟩

theorem onlyRaises_membersOf (value : Json) :
    OnlyRaises IsValueError (membersOf value) <-> IsObject value := by
  have hother : forall message, ¬ IsValueError (.attributeError message) := by
    rintro message ⟨message', heq⟩
    cases heq
  cases value with
  | obj ms => exact ⟨fun _ => ⟨ms, rfl⟩, fun _ => onlyRaises_ok ms⟩
  | _ =>
      refine ⟨fun h => absurd (h _ rfl) (hother _), ?_⟩
      rintro ⟨ms, heq⟩
      cases heq

theorem onlyRaises_policyOf (spec : List (String × Json)) (key : String)
    (defaults : List (String × Json)) :
    OnlyRaises IsValueError (policyOf spec key defaults) <-> ObjectAt spec key := by
  unfold policyOf
  rw [onlyRaises_bind, onlyRaises_membersOf]
  unfold ObjectAt
  cases spec.lookup key with
  | none =>
      exact ⟨fun _ value hvalue => (by cases hvalue), fun _ => ⟨⟨[], rfl⟩, fun _ _ => onlyRaises_ok _⟩⟩
  | some value =>
      constructor
      · rintro ⟨hobject, _⟩ value' hvalue'
        cases hvalue'
        exact hobject
      · exact fun h => ⟨h value rfl, fun _ _ => onlyRaises_ok _⟩

theorem fieldsPresent_ok {value : Json} (h : value.truthy = true -> Iterable value)
    (fields : List String) : exists present, fieldsPresent fields value = .ok present := by
  unfold fieldsPresent
  cases htruthy : value.truthy with
  | false => exact ⟨[], rfl⟩
  | true =>
      have hiterable := h htruthy
      cases value with
      | str s => exact ⟨_, rfl⟩
      | arr items => exact ⟨_, rfl⟩
      | obj ms => exact ⟨_, rfl⟩
      | _ => exact hiterable.elim

theorem membersOf_ok {value : Json} (h : IsObject value) : exists ms, membersOf value = .ok ms := by
  rcases h with ⟨ms, hms⟩
  rw [hms]
  exact ⟨ms, rfl⟩

theorem eq_obj_of_membersOf {value : Json} {ms : List (String × Json)}
    (h : membersOf value = .ok ms) : value = .obj ms := by
  cases value with
  | obj ms' =>
      cases h
      rfl
  | _ => cases h

theorem policyOf_ok {spec : List (String × Json)} {key : String} (h : ObjectAt spec key)
    (defaults : List (String × Json)) : exists policy, policyOf spec key defaults = .ok policy := by
  unfold policyOf
  cases hvalue : spec.lookup key with
  | none => exact ⟨_, rfl⟩
  | some value =>
      rcases h value hvalue with ⟨ms, hms⟩
      rw [hms]
      exact ⟨_, rfl⟩

theorem onlyRaises_policyOf_bind {spec : List (String × Json)} {key : String}
    {defaults : List (String × Json)} {q : Prop}
    {f : List (String × Json) -> Except PyExc SpecConfig}
    (hf : forall policy, OnlyRaises IsValueError (f policy) <-> q) :
    OnlyRaises IsValueError (policyOf spec key defaults >>= f) <-> ObjectAt spec key ∧ q :=
  onlyRaises_bind_iff (onlyRaises_policyOf spec key defaults) (fun h => policyOf_ok h defaults)
    fun policy _ => hf policy

theorem badSecretRef_obj (ref : List (String × Json)) :
    BadSecretRef (.obj ref) <->
      forall n k, SingletonGuard.textAt ref "name" = some n ->
        SingletonGuard.textAt ref "key" = some k -> n.isEmpty = true ∨ k.isEmpty = true := by
  constructor
  · exact fun h n k hname hkey => h.2 ref n k rfl hname hkey
  · intro h
    refine ⟨fun hnull => (by cases hnull), fun ref' n k href hname hkey => ?_⟩
    cases href
    exact h n k hname hkey

/-- The parse of the `secretRef` raises nothing but a `ValueError`, and that for a bad
one. -/
theorem redisSecretRef_cases (value : Json) :
    (BadSecretRef value ∧
        exists message, redisSecretRefFromSpec unicode value = .error (.valueError message)) ∨
      (¬ BadSecretRef value ∧ exists ref, redisSecretRefFromSpec unicode value = .ok ref) := by
  cases value with
  | null => exact Or.inr ⟨fun h => h.1 rfl, none, rfl⟩
  | obj ms =>
      rw [badSecretRef_obj]
      simp only [redisSecretRefFromSpec]
      cases hname : SingletonGuard.textAt ms "name" with
      | none => exact Or.inl ⟨fun n k hn _ => (by cases hn), _, rfl⟩
      | some n =>
          cases hkey : SingletonGuard.textAt ms "key" with
          | none => exact Or.inl ⟨fun n' k _ hk => (by cases hk), _, rfl⟩
          | some k =>
              dsimp only
              by_cases hempty : (n.isEmpty || k.isEmpty) = true
              · rw [if_pos hempty]
                refine Or.inl ⟨fun n' k' hn hk => ?_, _, rfl⟩
                cases hn
                cases hk
                exact (Bool.or_eq_true _ _).mp hempty
              · rw [if_neg hempty]
                refine Or.inr ⟨fun h => hempty ?_, _, rfl⟩
                exact (Bool.or_eq_true _ _).mpr (h n k rfl rfl)
  | _ =>
      refine Or.inl ⟨⟨fun h => (by cases h), fun ref n k href _ _ => ?_⟩, _, rfl⟩
      cases href

/-- After a bad `secretRef` nothing else is read. -/
theorem onlyRaises_redisSecretRef_bind {value : Json} {q : Prop}
    {f : Option RedisCredentials.RedisSecretRef -> Except PyExc SpecConfig}
    (hf : forall ref, OnlyRaises IsValueError (f ref) <-> q) :
    OnlyRaises IsValueError (redisSecretRefFromSpec unicode value >>= f) <->
      BadSecretRef value ∨ q := by
  rcases @redisSecretRef_cases unicode value with ⟨hbad, message, hraises⟩ | ⟨hgood, ref, href⟩
  · rw [hraises]
    exact ⟨fun _ => Or.inl hbad, fun _ => onlyRaises_error.mpr ⟨message, rfl⟩⟩
  · rw [href]
    exact ⟨fun h => Or.inr ((hf ref).mp h), fun h => (hf ref).mpr (h.resolve_left hgood)⟩

theorem orEmpty_eq (value : Option Json) :
    orEmpty value = if (value.getD .null).truthy then value.getD .null else .obj [] := by
  cases value with
  | none => rfl
  | some value => rfl

/-- The policies that are read after one another. -/
theorem onlyRaises_policies (spec : List (String × Json))
    (build : List (String × Json) -> List (String × Json) -> List (String × Json) ->
      List (String × Json) -> List (String × Json) -> SpecConfig) :
    OnlyRaises IsValueError (do
        let analysis <- policyOf spec "analysisPolicy" Spec.analysisDefaults
        let datapoint <- policyOf spec "datapointPolicy" Spec.datapointDefaults
        let worker <- policyOf spec "workerPolicy" Spec.workerDefaults
        let webBackground <- policyOf spec "webBackgroundPolicy" Spec.webBackgroundDefaults
        let storage <- policyOf spec "storagePolicy" Spec.storageDefaults
        return build analysis datapoint worker webBackground storage) <->
      forall key, key ∈ ["analysisPolicy", "datapointPolicy", "workerPolicy",
        "webBackgroundPolicy", "storagePolicy"] -> ObjectAt spec key := by
  refine Iff.trans (onlyRaises_policyOf_bind fun analysis =>
    onlyRaises_policyOf_bind fun datapoint => onlyRaises_policyOf_bind fun worker =>
    onlyRaises_policyOf_bind fun webBackground => onlyRaises_policyOf_bind fun storage =>
    iff_true_intro (onlyRaises_ok (build analysis datapoint worker webBackground storage))) ?_
  simp only [List.forall_mem_cons, List.not_mem_nil, false_implies, implies_true]

/-- The parse of a spec raises nothing but a `ValueError` exactly when it is readable. -/
theorem onlyRaises_fromSpec (spec : List (String × Json)) :
    OnlyRaises IsValueError (fromSpec unicode spec) <-> Readable spec := by
  unfold fromSpec
  dsimp only
  rw [← orEmpty_eq]
  refine Iff.trans (onlyRaises_bind_iff (onlyRaises_fieldsPresent _ _)
    (fun h => fieldsPresent_ok h _) fun _ _ =>
    (onlyRaises_bind_iff (q := forall creds, orEmpty (spec.lookup "redisCredentials") = .obj creds ->
        BadSecretRef ((creds.lookup "secretRef").getD .null) ∨
          forall key, key ∈ ["analysisPolicy", "datapointPolicy", "workerPolicy",
            "webBackgroundPolicy", "storagePolicy"] -> ObjectAt spec key)
      (onlyRaises_membersOf _) membersOf_ok fun creds hcreds => ?_)) ?_
  · refine Iff.trans (onlyRaises_redisSecretRef_bind fun ref => onlyRaises_policies spec _) ?_
    have hobj := eq_obj_of_membersOf hcreds
    constructor
    · intro h creds' hcreds'
      rw [hobj] at hcreds'
      cases hcreds'
      exact h
    · exact fun h => h creds hobj
  · constructor
    · rintro ⟨hanalysis, ⟨creds, hcreds⟩, hpolicies⟩
      refine ⟨fun value hvalue => ?_, ⟨creds, hcreds⟩, ?_⟩
      · rw [hvalue] at hanalysis
        exact hanalysis
      · exact (hpolicies creds hcreds).imp_left fun hbad => ⟨creds, hcreds, hbad⟩
    · intro h
      refine ⟨?_, h.credentials, fun creds hcreds => ?_⟩
      · cases hvalue : spec.lookup "analysisPolicy" with
        | none => exact fun _ => trivial
        | some value => exact h.analysis value hvalue
      · refine h.policies.imp_left ?_
        rintro ⟨creds', hcreds', hbad⟩
        rw [hcreds] at hcreds'
        cases hcreds'
        exact hbad

theorem onlyRaises_configFromSpec (spec : Json) :
    OnlyRaises IsValueError (configFromSpec unicode spec) <->
      exists members, spec = .obj members ∧ Readable members := by
  unfold configFromSpec
  refine Iff.trans (onlyRaises_bind_iff (onlyRaises_fieldsPresent _ _)
    (fun h => fieldsPresent_ok h _) fun _ _ =>
    (onlyRaises_bind_iff (q := forall members, spec = .obj members -> Readable members)
      (onlyRaises_membersOf _) membersOf_ok fun members hmembers => ?_)) ?_
  · have hobj := eq_obj_of_membersOf hmembers
    rw [onlyRaises_fromSpec]
    constructor
    · intro h members' hmembers'
      rw [hobj] at hmembers'
      cases hmembers'
      exact h
    · exact fun h => h members hobj
  · constructor
    · rintro ⟨_, ⟨members, hmembers⟩, hreadable⟩
      exact ⟨members, hmembers, hreadable members hmembers⟩
    · rintro ⟨members, hmembers, hreadable⟩
      refine ⟨fun _ => ?_, ⟨members, hmembers⟩, fun members' hmembers' => ?_⟩
      · rw [hmembers]
        trivial
      · rw [hmembers] at hmembers'
        cases hmembers'
        exact hreadable

/-!
## The election
-/

theorem created_ok_iff (cr : CrObject) :
    (exists t, created unicode cr = .ok t) <-> Dated unicode cr := by
  unfold created Dated
  cases hraw : (metaOf cr).lookup "creationTimestamp" with
  | none => exact ⟨fun _ raw h => (by cases h), fun _ => ⟨_, rfl⟩⟩
  | some raw =>
      rw [Option.getD_some]
      dsimp only
      cases htruthy : raw.truthy with
      | false =>
          rw [if_neg Bool.false_ne_true]
          refine ⟨fun _ raw' h htrue => ?_, fun _ => ⟨_, rfl⟩⟩
          cases h
          rw [htruthy] at htrue
          cases htrue
      | true =>
          rw [if_pos rfl]
          unfold parseUtc
          constructor
          · rintro ⟨t, ht⟩ raw' h _
            cases h
            cases hparse : StatusDocument.parseIsoUtc unicode raw with
            | ok t' => exact ⟨t', rfl⟩
            | error exc =>
                rw [hparse] at ht
                cases exc <;> cases ht
          · intro h
            rcases h raw rfl htruthy with ⟨t, ht⟩
            rw [ht]
            exact ⟨t, rfl⟩

theorem keyed_ok_iff (cr : CrObject) :
    (exists keyed, (do return (<- seniorityKey unicode cr, cr)) =
      (.ok keyed : Except GuardError (SingletonGuard.SeniorityKey × CrObject))) <->
      Dated unicode cr := by
  rw [← created_ok_iff]
  unfold seniorityKey
  constructor
  · rintro ⟨keyed, hkeyed⟩
    rcases bind_ok_iff.mp hkeyed with ⟨key, hkey, _⟩
    rcases bind_ok_iff.mp hkey with ⟨t, ht, _⟩
    exact ⟨t, ht⟩
  · rintro ⟨t, ht⟩
    rw [ht]
    exact ⟨_, rfl⟩

/-- There is an election exactly when every resource is dated. -/
theorem resolveActiveCr_ok_iff (crs : List CrObject) :
    (exists active, resolveActiveCr unicode crs = .ok active) <->
      forall cr, cr ∈ crs -> Dated unicode cr := by
  have hkeyed : (forall cr, cr ∈ crs -> Dated unicode cr) <-> _ :=
    forall₂_congr fun cr _ => (@keyed_ok_iff unicode cr).symm
  rw [hkeyed, ← mapM_ok_iff]
  unfold resolveActiveCr sortCrsBySeniority
  constructor
  · rintro ⟨active, hactive⟩
    rcases bind_ok_iff.mp hactive with ⟨sorted, hsorted, _⟩
    rcases bind_ok_iff.mp hsorted with ⟨keyed, hmap, _⟩
    exact ⟨keyed, hmap⟩
  · rintro ⟨keyed, hmap⟩
    rw [hmap]
    exact ⟨_, rfl⟩

theorem eq_nil_of_resolveActiveCr {crs : List CrObject}
    (h : resolveActiveCr unicode crs = .ok none) : crs = [] := by
  unfold resolveActiveCr sortCrsBySeniority at h
  rcases bind_ok_iff.mp h with ⟨sorted, hsorted, hhead⟩
  rcases bind_ok_iff.mp hsorted with ⟨keyed, hmap, hkeyed⟩
  cases hkeyed
  have hnil : sortOn Prod.fst keyed = [] := by
    cases hsort : sortOn Prod.fst keyed with
    | nil => rfl
    | cons x rest =>
        rw [hsort] at hhead
        cases hhead
  have hlength := (sortOn_perm Prod.fst keyed).length_eq
  rw [hnil, length_of_mapM_ok hmap] at hlength
  exact List.length_eq_zero_iff.mp hlength.symm

theorem nameOf_ok_iff (cr : CrObject) :
    (exists name, nameOf unicode cr = .ok name) <-> IsObject (orEmpty (cr.lookup "metadata")) := by
  unfold nameOf
  constructor
  · rintro ⟨name, hname⟩
    rcases bind_ok_iff.mp hname with ⟨metadata, hmetadata, _⟩
    exact ⟨metadata, eq_obj_of_membersOf hmetadata⟩
  · intro h
    rcases membersOf_ok h with ⟨metadata, hmetadata⟩
    rw [hmetadata]
    exact ⟨_, rfl⟩

/-!
## The codes
-/

theorem serve_table {run : PruneRun} {config : SpecConfig} (h : Configured unicode run config)
    (name : String) :
    exists n, (serve run name config).exit = .code n ∧ Table unicode run n := by
  unfold serve
  cases hserver : config.serverUrl.truthy with
  | false => exact ⟨0, rfl, .noServer config h hserver⟩
  | true =>
      cases hredis : config.redisUrl.truthy with
      | false => exact ⟨3, rfl, .noRedis config h hserver hredis⟩
      | true =>
          cases hclient : run.clientFactory config.serverUrl with
          | error exc => exact ⟨5, rfl, .failed config exc h hserver hredis (Or.inl hclient)⟩
          | ok _ =>
              cases htick : run.runRetentionTick config with
              | error exc => exact ⟨5, rfl, .failed config exc h hserver hredis (Or.inr htick)⟩
              | ok _ => exact ⟨0, rfl, .ticked config h hserver hredis hclient htick⟩

theorem serve_ne_four (run : PruneRun) (name : String) (config : SpecConfig) :
    (serve run name config).exit ≠ .code 4 := by
  unfold serve
  split
  · simp
  split
  · simp
  split
  · simp
  split
  · simp
  · simp

theorem exit_four_iff (run : PruneRun) :
    (main unicode run).exit = .code 4 <->
      run.crNamespace.isEmpty = false ∧ exists exc, run.listed = .error exc := by
  unfold main
  cases hnamed : run.crNamespace.isEmpty with
  | true => simp
  | false =>
      cases hlisted : run.listed with
      | error exc => simp
      | ok items =>
          have hright : ¬ exists exc, (Except.ok items : Except ListError (List Json)) = .error exc := by
            rintro ⟨exc, hexc⟩
            cases hexc
          refine iff_of_false ?_ fun h => hright h.2
          rw [if_neg Bool.false_ne_true]
          dsimp only
          split
          · simp
          · simp
          split
          · simp
          split
          · exact serve_ne_four run _ _
          · simp
          · simp

/-- What follows the election of a resource. -/
theorem exit_of_elected {run : PruneRun} {crs : List CrObject} {cr : CrObject}
    (hlist : Listed unicode run crs) (hactive : resolveActiveCr unicode crs = .ok (some cr))
    (hlisted : exists items, run.listed = .ok items ∧ crs = listCrs items) :
    (exists n, (main unicode run).exit = .code n ∧ Table unicode run n) <->
      IsObject (orEmpty (cr.lookup "metadata")) ∧
        exists spec, orEmpty (cr.lookup "spec") = .obj spec ∧ Readable spec := by
  rcases hlisted with ⟨items, hitems, hcrs⟩
  unfold main
  rw [hlist.named, hitems, if_neg Bool.false_ne_true]
  dsimp only
  rw [← hcrs, hactive]
  dsimp only
  rw [← @nameOf_ok_iff unicode cr,
    ← @onlyRaises_configFromSpec unicode (orEmpty (cr.lookup "spec"))]
  cases hname : nameOf unicode cr with
  | error exc => simp
  | ok name =>
      dsimp only
      cases hconfig : configFromSpec unicode (orEmpty (cr.lookup "spec")) with
      | ok config =>
          exact iff_of_true (serve_table ⟨crs, cr, hlist, hactive, hconfig⟩ name)
            ⟨⟨name, rfl⟩, onlyRaises_ok config⟩
      | error exc =>
          rw [onlyRaises_error]
          cases exc with
          | valueError message =>
              exact iff_of_true ⟨5, rfl, .malformed crs cr _ hlist hactive hconfig⟩
                ⟨⟨name, rfl⟩, message, rfl⟩
          | _ => simp [IsValueError]

/-- A run that lists its resources ends with a code of the table exactly when the
resources are dated and the active one can be read. -/
theorem exit_of_listed {run : PruneRun} {items : List Json}
    (hnamed : run.crNamespace.isEmpty = false) (hlisted : run.listed = .ok items) :
    (exists n, (main unicode run).exit = .code n ∧ Table unicode run n) <->
      (forall cr, cr ∈ listCrs items -> Dated unicode cr) ∧
      forall cr, resolveActiveCr unicode (listCrs items) = .ok (some cr) ->
        IsObject (orEmpty (cr.lookup "metadata")) ∧
        exists spec, orEmpty (cr.lookup "spec") = .obj spec ∧ Readable spec := by
  cases hactive : resolveActiveCr unicode (listCrs items) with
  | error exc =>
      rw [← resolveActiveCr_ok_iff, hactive, main, hnamed, hlisted, if_neg Bool.false_ne_true]
      dsimp only
      rw [hactive]
      simp
  | ok active =>
      have hdated := (resolveActiveCr_ok_iff (listCrs items)).mp ⟨active, hactive⟩
      have hlist : Listed unicode run (listCrs items) := ⟨hnamed, ⟨items, hlisted, rfl⟩, hdated⟩
      cases active with
      | none =>
          rw [main, hnamed, hlisted, if_neg Bool.false_ne_true]
          dsimp only
          rw [hactive]
          rw [eq_nil_of_resolveActiveCr hactive] at hlist
          refine iff_of_true ⟨0, rfl, .noResource hlist⟩ ⟨hdated, fun cr h => ?_⟩
          cases h
      | some cr =>
          rw [exit_of_elected hlist hactive hlist.items]
          constructor
          · intro h
            refine ⟨hdated, fun cr' hcr' => ?_⟩
            cases hcr'
            exact h
          · exact fun h => h.2 cr rfl

end Parse

end Run

/-- A run on one resource. -/
def runOn (creationTimestamp : String) (spec : Json) : PruneRun where
  crNamespace := "os"
  listed := .ok [.obj [("metadata", .obj [("name", .str "main"),
    ("creationTimestamp", .str creationTimestamp)]), ("spec", spec)]]
  clientFactory := fun _ => .ok ()
  runRetentionTick := fun _ => .ok ()

end PruneExitCodes
end OpenStudioOperator
