import OpenStudioOperator.Config
import OpenStudioOperator.SingletonGuard

/-!
# The spec of a resource

The schema that the API server checks a spec against, and the configuration
that the operator makes of it.
-/

namespace OpenStudioOperator
namespace Spec

open Foundation
open Foundation.Regex
open RedisCredentials
open SingletonGuard (objectAt textAt redisSecretRefOf)
open StatusDocument (PyExc)

/-!
## Validation
-/

abbrev Validator := Json -> Bool

def stringOf (valid : String -> Bool) : Validator
  | .str s => valid s
  | _ => false

def integerFrom (minimum : Int) : Validator
  | .int n => decide (minimum <= n)
  | _ => false

def boolean : Validator
  | .bool _ => true
  | _ => false

/-- An object: the required members are there, the declared ones are valid, and
a rule holds of them together. -/
def objectOf (required : List String) (properties : List (String × Validator))
    (rule : List (String × Json) -> Bool) : Validator
  | .obj ms =>
      required.all (fun k => (ms.lookup k).isSome) &&
        ms.all (fun m =>
          match properties.lookup m.1 with
          | some valid => valid m.2
          | none => true) &&
        rule ms
  | _ => false

def noRule : List (String × Json) -> Bool := fun _ => true

def matchesPattern (pattern : Regex) (s : String) : Bool := pattern.accepts s.toList

/-!
## The schema
-/

/-- `^https?://<host>(:[0-9]{1,5})?(/.*)?$`. -/
def serverUrlPattern : Regex :=
  seq (lit "http") (seq (opt (char 's')) (seq (lit "://") (seq serviceHost (seq portPart
    (opt (seq (char '/') (star (cls fun c => c != '\n'))))))))

/-- `^rediss?://<host>(:[0-9]{1,5})?(/[0-9]+)?$|^$`. -/
def redisUrlPattern : Regex :=
  alt (seq (lit "redis") (seq (opt (char 's')) (seq (lit "://") (seq serviceHost
    (seq portPart databasePart))))) empty

def isLower (c : Char) : Bool := decide ('a' <= c ∧ c <= 'z')

def isUpper (c : Char) : Bool := decide ('A' <= c ∧ c <= 'Z')

def dashAlnum (c : Char) : Bool := c == '-' || isAlnum c

/-- `^openstudio-redis[a-z0-9-]*$`. -/
def redisSecretNamePattern : Regex := seq (lit "openstudio-redis") (star (cls dashAlnum))

/-- `^[A-Za-z0-9][-A-Za-z0-9._]*$`. -/
def redisSecretKeyPattern : Regex :=
  seq (cls fun c => isUpper c || isAlnum c)
    (star (cls fun c => dashAlnum c || isUpper c || c == '.' || c == '_'))

/-- `^os-archive-[a-z0-9-]+$`. -/
def archiveSecretPattern : Regex := seq (lit "os-archive-") (plus (cls dashAlnum))

/-- A Deployment that the operator may manage; the pattern of the field holds
of both. -/
def targetDeployment : Validator :=
  stringOf fun s => decide (s = "worker" ∨ s = "web-background")

def secretRefSchema : Validator :=
  objectOf ["name", "key"]
    [("name", stringOf fun s => matchesPattern redisSecretNamePattern s && decide (s.length <= 253)),
     ("key", stringOf fun s => matchesPattern redisSecretKeyPattern s && decide (s.length <= 253))]
    noRule

def redisCredentialsSchema : Validator :=
  objectOf ["secretRef"] [("secretRef", secretRefSchema)] noRule

/-- The grace period is shorter than the SLA budget when both are given. -/
def graceRule (ms : List (String × Json)) : Bool :=
  match ms.lookup "maxDurationMinutes", ms.lookup "gracefulStopTimeoutMinutes" with
  | some (.int maxDuration), some (.int grace) => decide (grace < maxDuration)
  | _, _ => true

def analysisPolicySchema : Validator :=
  objectOf []
    [("maxDurationMinutes", integerFrom 1), ("gracefulStopTimeoutMinutes", integerFrom 1),
     ("autoSoftStop", boolean), ("forceDeleteOnEscalation", boolean)] graceRule

def datapointPolicySchema : Validator :=
  objectOf [] [("maxDatapointRuntimeMinutes", integerFrom 1), ("maxAutoRequeues", integerFrom 0)]
    noRule

def workerPolicySchema : Validator :=
  objectOf []
    [("recycleWorkerIntervalHours", integerFrom 1), ("recycleAfterAnalysis", boolean),
     ("minRecycleIntervalMinutes", integerFrom 1)] noRule

def webBackgroundPolicySchema : Validator :=
  objectOf [] [("stallWindowMinutes", integerFrom 1)] noRule

def storagePolicySchema : Validator :=
  objectOf []
    [("archiveToS3", boolean),
     ("backend", stringOf fun s => decide (s = "s3" ∨ s = "gcs" ∨ s = "azure")),
     ("bucket", stringOf fun _ => true),
     ("secretRef", stringOf (matchesPattern archiveSecretPattern)),
     ("retentionDays", integerFrom 0), ("purgeCompletedNFSFiles", boolean)] noRule

def specProperties : List (String × Validator) :=
  [("serverUrl", stringOf (matchesPattern serverUrlPattern)),
   ("redisUrl", stringOf (matchesPattern redisUrlPattern)),
   ("redisCredentials", redisCredentialsSchema),
   ("dryRun", boolean),
   ("targetWorkerDeployment", targetDeployment),
   ("targetWebBackgroundDeployment", targetDeployment),
   ("analysisPolicy", analysisPolicySchema),
   ("datapointPolicy", datapointPolicySchema),
   ("workerPolicy", workerPolicySchema),
   ("webBackgroundPolicy", webBackgroundPolicySchema),
   ("storagePolicy", storagePolicySchema)]

/-- The schema of `spec`. -/
def specSchema : Validator := objectOf [] specProperties noRule

/-!
## The configuration

The values are taken as they stand; the schema has their types.
-/

structure SpecConfig where
  serverUrl : Json
  redisUrl : Json
  secretRef : Option RedisSecretRef
  dryRun : Json
  targetWorkerDeployment : Json
  targetWebBackgroundDeployment : Json
  analysisPolicy : List (String × Json)
  datapointPolicy : List (String × Json)
  workerPolicy : List (String × Json)
  webBackgroundPolicy : List (String × Json)
  storagePolicy : List (String × Json)
deriving DecidableEq

def analysisDefaults : List (String × Json) :=
  [("maxDurationMinutes", .int 180), ("gracefulStopTimeoutMinutes", .int 15),
   ("autoSoftStop", .bool true), ("forceDeleteOnEscalation", .bool false)]

def datapointDefaults : List (String × Json) :=
  [("maxDatapointRuntimeMinutes", .int 45), ("maxAutoRequeues", .int 3)]

def workerDefaults : List (String × Json) :=
  [("recycleWorkerIntervalHours", .int 12), ("recycleAfterAnalysis", .bool true),
   ("minRecycleIntervalMinutes", .int 30)]

def webBackgroundDefaults : List (String × Json) := [("stallWindowMinutes", .int 10)]

def storageDefaults : List (String × Json) :=
  [("archiveToS3", .bool false), ("backend", .null), ("bucket", .null), ("secretRef", .null),
   ("retentionDays", .int 7), ("purgeCompletedNFSFiles", .bool true)]

/-- `value.get`, which only objects have. -/
def membersOf (value : Json) : Except PyExc (List (String × Json)) :=
  match value with
  | .obj ms => .ok ms
  | other => .error (.attributeError ("'" ++ other.typeName ++ "' object has no attribute 'get'"))

/-- `_ANALYSIS_POLICY_FIELDS`. -/
def analysisPolicyFields : List String :=
  ["maxDurationMinutes", "gracefulStopTimeoutMinutes", "autoSoftStop", "forceDeleteOnEscalation"]

/-- `[k for k in fields if k in value] if value else []`, which is logged. -/
def fieldsPresent (fields : List String) (value : Json) : Except PyExc (List String) :=
  if !value.truthy then .ok []
  else
    match value with
    | .obj ms => .ok (fields.filter fun k => (ms.lookup k).isSome)
    | .arr items => .ok (fields.filter fun k => items.contains (.str k))
    | .str s => .ok (fields.filter fun k => decide (k.toList <:+: s.toList))
    | other => .error (.typeError ("argument of type '" ++ other.typeName ++ "' is not iterable"))

/-- A policy of the spec, each field with its default. -/
def policyOf (spec : List (String × Json)) (key : String) (defaults : List (String × Json)) :
    Except PyExc (List (String × Json)) := do
  let members <- membersOf ((spec.lookup key).getD (.obj []))
  return defaults.map fun field => (field.1, (members.lookup field.1).getD field.2)

section FromSpec

variable (unicode : UnicodeData)

/-- The `secretRef` of the spec; a malformed one is an error. -/
def redisSecretRefFromSpec (raw : Json) : Except PyExc (Option RedisSecretRef) :=
  match raw with
  | .null => .ok none
  | .obj ms =>
      let name := (ms.lookup "name").getD .null
      let key := (ms.lookup "key").getD .null
      match textAt ms "name", textAt ms "key" with
      | some n, some k =>
          if n.isEmpty || k.isEmpty then
            .error (.valueError
              ("spec.redisCredentials.secretRef requires non-empty string 'name' and 'key' "
                ++ "(issue #463); got name=" ++ name.pyRepr unicode ++ ", key="
                ++ key.pyRepr unicode))
          else .ok (some ⟨n, k⟩)
      | _, _ =>
          .error (.valueError
            ("spec.redisCredentials.secretRef requires non-empty string 'name' and 'key' "
              ++ "(issue #463); got name=" ++ name.pyRepr unicode ++ ", key="
              ++ key.pyRepr unicode))
  | other =>
      .error (.valueError
        ("spec.redisCredentials.secretRef must be an object with 'name' and 'key' (issue #463); "
          ++ "got " ++ other.typeName ++ ": " ++ other.pyRepr unicode))

def fromSpec (spec : List (String × Json)) : Except PyExc SpecConfig := do
  let _ <- fieldsPresent analysisPolicyFields ((spec.lookup "analysisPolicy").getD (.obj []))
  let credentials := (spec.lookup "redisCredentials").getD .null
  let credentials := if credentials.truthy then credentials else .obj []
  let raw <- membersOf credentials
  let secretRef <- redisSecretRefFromSpec unicode ((raw.lookup "secretRef").getD .null)
  let analysis <- policyOf spec "analysisPolicy" analysisDefaults
  let datapoint <- policyOf spec "datapointPolicy" datapointDefaults
  let worker <- policyOf spec "workerPolicy" workerDefaults
  let webBackground <- policyOf spec "webBackgroundPolicy" webBackgroundDefaults
  let storage <- policyOf spec "storagePolicy" storageDefaults
  return {
    serverUrl := (spec.lookup "serverUrl").getD (.str "")
    redisUrl := (spec.lookup "redisUrl").getD (.str "")
    secretRef := secretRef
    dryRun := (spec.lookup "dryRun").getD (.bool false)
    targetWorkerDeployment := (spec.lookup "targetWorkerDeployment").getD (.str "")
    targetWebBackgroundDeployment := (spec.lookup "targetWebBackgroundDeployment").getD (.str "")
    analysisPolicy := analysis
    datapointPolicy := datapoint
    workerPolicy := worker
    webBackgroundPolicy := webBackground
    storagePolicy := storage }

end FromSpec

/-!
## Accepted specs
-/

theorem member_accepted {required : List String} {properties : List (String × Validator)}
    {rule : List (String × Json) -> Bool} {ms : List (String × Json)}
    (h : objectOf required properties rule (.obj ms) = true) {k : String} {v : Json}
    {valid : Validator} (hv : ms.lookup k = some v) (hvalid : properties.lookup k = some valid) :
    valid v = true := by
  unfold objectOf at h
  rw [Bool.and_eq_true, Bool.and_eq_true] at h
  have hmember := List.all_eq_true.mp h.1.2 (k, v) (Members.mem_of_lookup hv)
  simpa [hvalid] using hmember

theorem required_accepted {required : List String} {properties : List (String × Validator)}
    {rule : List (String × Json) -> Bool} {ms : List (String × Json)}
    (h : objectOf required properties rule (.obj ms) = true) {k : String} (hk : k ∈ required) :
    exists v, ms.lookup k = some v := by
  unfold objectOf at h
  rw [Bool.and_eq_true, Bool.and_eq_true] at h
  exact Option.isSome_iff_exists.mp (List.all_eq_true.mp h.1.1 k hk)

theorem object_of_accepted {required : List String} {properties : List (String × Validator)}
    {rule : List (String × Json) -> Bool} {v : Json}
    (h : objectOf required properties rule v = true) : exists ms, v = .obj ms := by
  cases v with
  | obj ms => exact ⟨ms, rfl⟩
  | _ => cases h

theorem text_of_accepted {valid : String -> Bool} {v : Json} (h : stringOf valid v = true) :
    exists s, v = .str s ∧ valid s = true := by
  cases v with
  | str s => exact ⟨s, rfl, h⟩
  | _ => cases h

/-- The patterns of a Secret's name and key have no empty text. -/
theorem text_ne_empty {pattern : Regex} (hpattern : pattern.nullable = false) {s : String}
    (h : matchesPattern pattern s = true) : s.isEmpty = false := by
  cases hempty : s.isEmpty with
  | false => rfl
  | true =>
      have hnil : s = "" := String.isEmpty_iff.mp hempty
      unfold matchesPattern at h
      rw [hnil] at h
      exact absurd (show pattern.nullable = true from h) (by rw [hpattern]; exact Bool.false_ne_true)

/-- Accepted credentials name a Secret and a key. -/
theorem secretRef_accepted {spec : List (String × Json)} (h : specSchema (.obj spec) = true)
    {credentials : Json} (hcredentials : spec.lookup "redisCredentials" = some credentials) :
    exists creds secretRef n k, credentials = .obj creds ∧
      creds.lookup "secretRef" = some (.obj secretRef) ∧
      textAt secretRef "name" = some n ∧ textAt secretRef "key" = some k ∧
      n.isEmpty = false ∧ k.isEmpty = false := by
  have hschema : redisCredentialsSchema credentials = true :=
    member_accepted h hcredentials rfl
  rcases object_of_accepted hschema with ⟨creds, hcreds⟩
  rw [hcreds] at hschema
  rcases required_accepted hschema List.mem_cons_self with ⟨ref, href⟩
  have hrefSchema : secretRefSchema ref = true := member_accepted hschema href rfl
  rcases object_of_accepted hrefSchema with ⟨secretRef, hsecretRef⟩
  rw [hsecretRef] at hrefSchema href
  rcases required_accepted hrefSchema (k := "name") List.mem_cons_self with ⟨nv, hnv⟩
  rcases required_accepted hrefSchema (k := "key")
    (List.mem_cons_of_mem _ List.mem_cons_self) with ⟨kv, hkv⟩
  rcases text_of_accepted (member_accepted hrefSchema hnv rfl) with ⟨n, hn, hname⟩
  rcases text_of_accepted (member_accepted hrefSchema hkv rfl) with ⟨k, hk, hkey⟩
  rw [Bool.and_eq_true] at hname hkey
  have hnull : redisSecretNamePattern.nullable = false := by decide +kernel
  have hnull' : redisSecretKeyPattern.nullable = false := by decide +kernel
  exists creds, secretRef, n, k
  constructor
  · exact hcreds
  constructor
  · exact href
  constructor
  · unfold textAt
    rw [hnv, hn]
  constructor
  · unfold textAt
    rw [hkv, hk]
  · exact ⟨text_ne_empty hnull hname.1, text_ne_empty hnull' hkey.1⟩

/-- The guard finds a Secret in an accepted spec exactly when there are
credentials. -/
theorem hasRedisSecretRef_accepted {spec : List (String × Json)}
    (h : specSchema (.obj spec) = true) :
    SingletonGuard.hasRedisSecretRef spec = (spec.lookup "redisCredentials").isSome := by
  unfold SingletonGuard.hasRedisSecretRef redisSecretRefOf
  cases hcredentials : spec.lookup "redisCredentials" with
  | none =>
      have hnone : objectAt spec "redisCredentials" = none := by
        unfold objectAt
        rw [hcredentials]
      rw [hnone]
      rfl
  | some credentials =>
      rcases secretRef_accepted h hcredentials with
        ⟨creds, secretRef, n, k, hcreds, hsecretRef, hn, hk, hne, hke⟩
      have hobject : objectAt spec "redisCredentials" = some creds := by
        unfold objectAt
        rw [hcredentials, hcreds]
      have hobject' : objectAt creds "secretRef" = some secretRef := by
        unfold objectAt
        rw [hsecretRef]
      simp only [hobject, hobject', hn, hk, hne, hke, Option.bind_eq_bind, Option.bind_some,
        Bool.or_self, Bool.false_eq_true, if_false, Option.isSome_some]

theorem policyOf_accepted {spec : List (String × Json)} (h : specSchema (.obj spec) = true)
    (key : String) {required : List String} {properties : List (String × Validator)}
    {rule : List (String × Json) -> Bool}
    (hschema : specProperties.lookup key = some (objectOf required properties rule))
    (defaults : List (String × Json)) : exists policy, policyOf spec key defaults = .ok policy := by
  unfold policyOf
  cases hv : spec.lookup key with
  | none => exact ⟨_, rfl⟩
  | some v =>
      rcases object_of_accepted (member_accepted h hv hschema) with ⟨ms, hms⟩
      rw [hms]
      exact ⟨_, rfl⟩

theorem fieldsPresent_obj (fields : List String) (ms : List (String × Json)) :
    exists present, fieldsPresent fields (.obj ms) = .ok present := by
  unfold fieldsPresent
  split <;> exact ⟨_, rfl⟩

/-- An accepted spec parses, and its URLs are taken as they stand. -/
theorem fromSpec_accepted (unicode : UnicodeData) {spec : List (String × Json)}
    (h : specSchema (.obj spec) = true) :
    exists config, fromSpec unicode spec = .ok config ∧
      config.serverUrl = (spec.lookup "serverUrl").getD (.str "") ∧
      config.redisUrl = (spec.lookup "redisUrl").getD (.str "") := by
  have hsecret : exists raw ref, membersOf
      (if ((spec.lookup "redisCredentials").getD .null).truthy
        then (spec.lookup "redisCredentials").getD .null else .obj []) = .ok raw ∧
      redisSecretRefFromSpec unicode ((raw.lookup "secretRef").getD .null) = .ok ref := by
    cases hcredentials : spec.lookup "redisCredentials" with
    | none => exact ⟨[], none, rfl, rfl⟩
    | some credentials =>
        rcases secretRef_accepted h hcredentials with
          ⟨creds, secretRef, n, k, hcreds, hsecretRef, hn, hk, hne, hke⟩
        have hmem := Members.mem_of_lookup hsecretRef
        have htruthy : (Json.obj creds).truthy = true := by
          unfold Json.truthy
          cases creds with
          | nil => cases hmem
          | cons m rest => rfl
        exists creds, some ⟨n, k⟩
        constructor
        · rw [hcreds, Option.getD_some, if_pos htruthy]
          rfl
        · rw [hsecretRef, Option.getD_some]
          unfold redisSecretRefFromSpec
          simp only [hn, hk, hne, hke, Bool.or_self, Bool.false_eq_true, if_false]
  rcases hsecret with ⟨raw, ref, hraw, href⟩
  have hfields : exists present, fieldsPresent analysisPolicyFields
      ((spec.lookup "analysisPolicy").getD (.obj [])) = .ok present := by
    cases hpolicy : spec.lookup "analysisPolicy" with
    | none => exact fieldsPresent_obj _ []
    | some policy =>
        rcases object_of_accepted (member_accepted h hpolicy rfl) with ⟨ms, hms⟩
        rw [hms]
        exact fieldsPresent_obj _ ms
  rcases hfields with ⟨present, hpresent⟩
  rcases policyOf_accepted h "analysisPolicy" rfl analysisDefaults with
    ⟨analysis, hanalysis⟩
  rcases policyOf_accepted h "datapointPolicy" rfl datapointDefaults with
    ⟨datapoint, hdatapoint⟩
  rcases policyOf_accepted h "workerPolicy" rfl workerDefaults with ⟨worker, hworker⟩
  rcases policyOf_accepted h "webBackgroundPolicy" rfl webBackgroundDefaults with
    ⟨webBackground, hwebBackground⟩
  rcases policyOf_accepted h "storagePolicy" rfl storageDefaults with
    ⟨storage, hstorage⟩
  unfold fromSpec
  simp only []
  rw [hpresent, hraw]
  show exists config, (do
    let secretRef <- redisSecretRefFromSpec unicode ((raw.lookup "secretRef").getD .null)
    _) = Except.ok config ∧ _
  rw [href, hanalysis, hdatapoint, hworker, hwebBackground, hstorage]
  exact ⟨_, rfl, rfl, rfl⟩

end Spec
end OpenStudioOperator
