import OpenStudioOperator.Foundation.UrlParse
import OpenStudioOperator.RedisCredentials

/-!
# What a rejected Secret value tells

A value that does not match the pattern is named in the error by what a URL
parser makes of it: scheme, host, port and path.
-/

namespace OpenStudioOperator
namespace RedisCredentials

open Foundation
open UrlParse

/-!
## The target
-/

section Target

variable (unicode : UnicodeData) (data : UrlData)

/-- `parsed.hostname or "<unknown>"`. -/
def hostOrUnknown (hostname : Option String) : String :=
  match hostname with
  | none => "<unknown>"
  | some host => if host.isEmpty then "<unknown>" else host

/-- The text before the path. -/
def targetAuthority (scheme : String) (hostname : Option String) (port : Option Nat) :
    String :=
  let host := hostOrUnknown hostname
  let netloc := match port with
    | none => host
    | some port => host ++ ":" ++ toString port
  scheme ++ "://" ++ netloc

/-- `_redis_target_for_diagnostics`. -/
def redisTargetForDiagnostics (redisUrl : String) : Except String String :=
  match urlparse data redisUrl with
  | .error message => .error message
  | .ok parsed =>
      match parsed.port (reprStr unicode) with
      | .error message => .error message
      | .ok port =>
          .ok (targetAuthority parsed.scheme (parsed.hostname data) port ++ parsed.path)

/-- Secrets whose rejected values are named by this target. -/
def withUrlTarget (source : SecretSource) : SecretSource :=
  { source with redisTargetForDiagnostics := redisTargetForDiagnostics unicode data }

/-!
## What a message may depend on
-/

/-- The scheme, host and port that a URL parser finds in a value. -/
structure UrlView where
  scheme : String
  hostname : Option String
  port : Option Nat
deriving DecidableEq, Repr

/-- The view of a value, with the path beside it. -/
def viewed (value : String) : Except String (UrlView × String) :=
  match urlparse data value with
  | .error message => .error message
  | .ok parsed =>
      match parsed.port (reprStr unicode) with
      | .error message => .error message
      | .ok port => .ok (⟨parsed.scheme, parsed.hostname data, port⟩, parsed.path)

/-- The value is refused. -/
def Rejected (value : String) : Prop :=
  value = "" ∨ matchesToEnd secretRedisUrlPattern value = false

/-- Two refused values raise a resolution error, and the same one if a URL
parser finds the same scheme, host and port in both. -/
structure Discreet (source : SecretSource) (secretName secretKey value value' : String) :
    Prop where
  raises : forall v, v = value ∨ v = value' -> exists message,
    redisUrlFromSecretValue unicode (withUrlTarget unicode data source) v secretName secretKey =
      .error (.credentialResolutionError message none)
  hides : forall view path path', viewed unicode data value = .ok (view, path) ->
    viewed unicode data value' = .ok (view, path') ->
    redisUrlFromSecretValue unicode (withUrlTarget unicode data source) value
        secretName secretKey =
      redisUrlFromSecretValue unicode (withUrlTarget unicode data source) value'
        secretName secretKey

/-!
## The condition
-/

/-- A value is empty, or the URL parser takes it and its port. -/
def Parses (value : String) : Prop :=
  value = "" ∨ exists view path, viewed unicode data value = .ok (view, path)

/-- Values with the same scheme, host and port have the same path, and are both
empty or both not. -/
def SamePath (value value' : String) : Prop :=
  forall view path path', viewed unicode data value = .ok (view, path) ->
    viewed unicode data value' = .ok (view, path') ->
    path = path' ∧ (value = "" <-> value' = "")

/-!
## The message
-/

variable {unicode data}

/-- The message that names a target. -/
def rejectionMessage (unicode : UnicodeData) (secretName secretKey target : String) : String :=
  "Secret " ++ reprStr unicode secretName ++ " key " ++ reprStr unicode secretKey
    ++ " does not hold a valid in-cluster redis:// or rediss:// URL (issue #463): got "
    ++ target ++ ". The key must carry the FULL URL "
    ++ "(redis://[:password@]<service>[:port][/db], or the rediss:// TLS twin — issue #476); "
    ++ "off-cluster hosts and non-Redis schemes are rejected "
    ++ "(issue #390 fence preserved on the Secret path)."

theorem rejectionMessage_injective (unicode : UnicodeData) (secretName secretKey : String)
    {target target' : String}
    (h : rejectionMessage unicode secretName secretKey target =
      rejectionMessage unicode secretName secretKey target') : target = target' := by
  unfold rejectionMessage at h
  -- the texts after the target go first, then those before it
  rw [String.append_left_inj, String.append_left_inj, String.append_left_inj,
    String.append_left_inj, String.append_right_inj] at h
  exact h

/-- The target of a view and a path. -/
def UrlView.target (view : UrlView) (path : String) : String :=
  targetAuthority view.scheme view.hostname view.port ++ path

theorem UrlView.target_injective (view : UrlView) {path path' : String}
    (h : view.target path = view.target path') : path = path' :=
  (String.append_right_inj _).mp h

/-- A target has a colon, which the name of the empty value has not. -/
theorem UrlView.target_ne_empty (view : UrlView) (path : String) :
    view.target path ≠ "<empty>" := by
  intro h
  have hmem : ':' ∈ (view.target path).toList := by
    unfold UrlView.target targetAuthority
    rw [String.toList_append, String.toList_append, String.toList_append]
    apply List.mem_append_left
    apply List.mem_append_left
    apply List.mem_append_right
    decide +kernel
  rw [h] at hmem
  revert hmem
  decide +kernel

/-- The target is a function of the view and the path. -/
theorem redisTargetForDiagnostics_eq (value : String) :
    redisTargetForDiagnostics unicode data value =
      (viewed unicode data value).map fun found => found.1.target found.2 := by
  unfold redisTargetForDiagnostics viewed
  cases urlparse data value with
  | error message => rfl
  | ok parsed =>
      cases hport : parsed.port (reprStr unicode) with
      | error message =>
          simp only [hport]
          rfl
      | ok port =>
          simp only [hport]
          rfl

/-!
## What a refused value raises
-/

variable {source : SecretSource} {secretName secretKey : String}

theorem redisUrlFromSecretValue_empty :
    redisUrlFromSecretValue unicode (withUrlTarget unicode data source) "" secretName secretKey =
      .error (.credentialResolutionError
        (rejectionMessage unicode secretName secretKey "<empty>") none) :=
  rfl

theorem isEmpty_of_ne {value : String} (h : value ≠ "") : value.isEmpty = false := by
  cases hempty : value.isEmpty with
  | false => rfl
  | true => exact absurd (String.isEmpty_iff.mp hempty) h

theorem Rejected.not_matches {value : String} (h : Rejected value) (hvalue : value ≠ "") :
    matchesToEnd secretRedisUrlPattern value = false := by
  rcases h with hempty | hmatch
  · exact absurd hempty hvalue
  · exact hmatch

/-- A refused value that is not empty raises what its target says. -/
theorem Rejected.of_ne {value : String} (h : Rejected value) (hvalue : value ≠ "") :
    redisUrlFromSecretValue unicode (withUrlTarget unicode data source) value
        secretName secretKey =
      match redisTargetForDiagnostics unicode data value with
      | .error message => .error (.valueError message)
      | .ok target => .error (.credentialResolutionError
          (rejectionMessage unicode secretName secretKey target) none) := by
  unfold redisUrlFromSecretValue withUrlTarget
  simp only [h.not_matches hvalue, isEmpty_of_ne hvalue, Bool.not_false, Bool.or_true, if_true,
    Bool.false_eq_true, if_false]
  cases redisTargetForDiagnostics unicode data value with
  | error message => rfl
  | ok target => rfl

theorem Rejected.of_ok {value path : String} {view : UrlView} (h : Rejected value)
    (hvalue : value ≠ "") (hview : viewed unicode data value = .ok (view, path)) :
    redisUrlFromSecretValue unicode (withUrlTarget unicode data source) value
        secretName secretKey =
      .error (.credentialResolutionError
        (rejectionMessage unicode secretName secretKey (view.target path)) none) := by
  rw [h.of_ne hvalue, redisTargetForDiagnostics_eq, hview]
  rfl

theorem Rejected.of_error {value message : String} (h : Rejected value)
    (hvalue : value ≠ "") (hview : viewed unicode data value = .error message) :
    redisUrlFromSecretValue unicode (withUrlTarget unicode data source) value
        secretName secretKey = .error (.valueError message) := by
  rw [h.of_ne hvalue, redisTargetForDiagnostics_eq, hview]
  rfl

/-- A refused value raises a resolution error just when it is empty or parses. -/
theorem Rejected.raises_iff {value : String} (h : Rejected value) :
    (exists message, redisUrlFromSecretValue unicode (withUrlTarget unicode data source) value
        secretName secretKey = .error (.credentialResolutionError message none)) <->
      Parses unicode data value := by
  by_cases hvalue : value = ""
  · rw [hvalue]
    exact ⟨fun _ => Or.inl rfl, fun _ => ⟨_, redisUrlFromSecretValue_empty⟩⟩
  · cases hview : viewed unicode data value with
    | error message =>
        constructor
        · rintro ⟨raised, hraised⟩
          rw [h.of_error hvalue hview] at hraised
          cases hraised
        · rintro (hempty | ⟨view, path, hok⟩)
          · exact absurd hempty hvalue
          · rw [hview] at hok
            cases hok
    | ok found =>
        exact ⟨fun _ => Or.inr ⟨found.1, found.2, hview⟩,
          fun _ => ⟨_, h.of_ok hvalue hview⟩⟩

/-- The target that names a refused value of this view and path. -/
def namedTarget (value : String) (view : UrlView) (path : String) : String :=
  if value = "" then "<empty>" else view.target path

theorem Rejected.named {value path : String} {view : UrlView} (h : Rejected value)
    (hview : viewed unicode data value = .ok (view, path)) :
    redisUrlFromSecretValue unicode (withUrlTarget unicode data source) value
        secretName secretKey =
      .error (.credentialResolutionError
        (rejectionMessage unicode secretName secretKey (namedTarget value view path)) none) := by
  unfold namedTarget
  by_cases hvalue : value = ""
  · rw [if_pos hvalue, hvalue]
    exact redisUrlFromSecretValue_empty
  · rw [if_neg hvalue]
    exact h.of_ok hvalue hview

theorem viewed_empty : viewed unicode data "" = .ok (⟨"", none, none⟩, "") := rfl

/-- Values of one view are named alike just when their paths agree and both or
none of them are empty. -/
theorem namedTarget_eq_iff {value value' path path' : String} {view : UrlView}
    (hview : viewed unicode data value = .ok (view, path))
    (hview' : viewed unicode data value' = .ok (view, path')) :
    namedTarget value view path = namedTarget value' view path' <->
      path = path' ∧ (value = "" <-> value' = "") := by
  unfold namedTarget
  by_cases hvalue : value = ""
  · by_cases hvalue' : value' = ""
    · rw [if_pos hvalue, if_pos hvalue']
      -- the empty value has the empty path
      rw [hvalue, viewed_empty] at hview
      rw [hvalue', viewed_empty] at hview'
      cases hview
      cases hview'
      exact ⟨fun _ => ⟨rfl, fun _ => hvalue', fun _ => hvalue⟩, fun _ => rfl⟩
    · rw [if_pos hvalue, if_neg hvalue']
      exact ⟨fun h => absurd h.symm (view.target_ne_empty path'),
        fun h => absurd (h.2.mp hvalue) hvalue'⟩
  · by_cases hvalue' : value' = ""
    · rw [if_neg hvalue, if_pos hvalue']
      exact ⟨fun h => absurd h (view.target_ne_empty path),
        fun h => absurd (h.2.mpr hvalue') hvalue⟩
    · rw [if_neg hvalue, if_neg hvalue']
      constructor
      · intro h
        exact ⟨view.target_injective h, fun h => absurd h hvalue, fun h => absurd h hvalue'⟩
      · intro h
        rw [h.1]

/-- The same outcome is the same name. -/
theorem Rejected.same_iff {value value' path path' : String} {view : UrlView}
    (h : Rejected value) (h' : Rejected value')
    (hview : viewed unicode data value = .ok (view, path))
    (hview' : viewed unicode data value' = .ok (view, path')) :
    redisUrlFromSecretValue unicode (withUrlTarget unicode data source) value
        secretName secretKey =
      redisUrlFromSecretValue unicode (withUrlTarget unicode data source) value'
        secretName secretKey <->
      path = path' ∧ (value = "" <-> value' = "") := by
  rw [h.named hview, h'.named hview', <- namedTarget_eq_iff hview hview']
  constructor
  · intro heq
    have hmessage := (RedisUrlError.credentialResolutionError.inj (Except.error.inj heq)).1
    exact rejectionMessage_injective unicode secretName secretKey hmessage
  · intro heq
    rw [heq]

/-!
## Two refused values
-/

/-- What two refused values tell: they are told apart by no more than scheme,
host and port just when both parse and these determine the path. -/
theorem secret_message_discreet_iff (unicode : UnicodeData) (data : UrlData)
    (source : SecretSource) (secretName secretKey value value' : String)
    (hvalue : Rejected value) (hvalue' : Rejected value') :
    Discreet unicode data source secretName secretKey value value' <->
      Parses unicode data value ∧ Parses unicode data value' ∧
        SamePath unicode data value value' := by
  constructor
  · intro h
    refine ⟨hvalue.raises_iff.mp (h.raises value (Or.inl rfl)),
      hvalue'.raises_iff.mp (h.raises value' (Or.inr rfl)), ?_⟩
    intro view path path' hview hview'
    exact (hvalue.same_iff hvalue' hview hview').mp (h.hides view path path' hview hview')
  · rintro ⟨hparses, hparses', hsame⟩
    refine ⟨?_, ?_⟩
    · rintro v (rfl | rfl)
      · exact hvalue.raises_iff.mpr hparses
      · exact hvalue'.raises_iff.mpr hparses'
    · intro view path path' hview hview'
      exact (hvalue.same_iff hvalue' hview hview').mpr (hsame view path path' hview hview')

/-- Two passwords for one host outside the cluster are not told apart. -/
theorem secret_message_discreet_userinfo :
    Rejected "redis://:pw@evil.com:6379" ∧ Rejected "redis://:qx@evil.com:6379" ∧
      Discreet UnicodeData.ascii UrlData.ascii unreadableSecrets "os/openstudio-redis" "url"
        "redis://:pw@evil.com:6379" "redis://:qx@evil.com:6379" := by
  have hrejected : Rejected "redis://:pw@evil.com:6379" := Or.inr (by decide +kernel)
  have hrejected' : Rejected "redis://:qx@evil.com:6379" := Or.inr (by decide +kernel)
  have hview : viewed UnicodeData.ascii UrlData.ascii "redis://:pw@evil.com:6379" =
      .ok (⟨"redis", some "evil.com", some 6379⟩, "") := rfl
  have hview' : viewed UnicodeData.ascii UrlData.ascii "redis://:qx@evil.com:6379" =
      .ok (⟨"redis", some "evil.com", some 6379⟩, "") := rfl
  refine ⟨hrejected, hrejected', (secret_message_discreet_iff _ _ _ _ _ _ _ hrejected
    hrejected').mpr ⟨Or.inr ⟨_, _, hview⟩, Or.inr ⟨_, _, hview'⟩, ?_⟩⟩
  intro view path path' hok hok'
  rw [hview] at hok
  rw [hview'] at hok'
  cases hok
  cases hok'
  exact ⟨rfl, fun h => absurd h (by decide), fun h => absurd h (by decide)⟩

/-- A bare password is the path of a URL without scheme and host, so the message
shows it; a port that is not a number raises a plain `ValueError`, which shows
what stands in its place. -/
theorem secret_message_discreet_counterexample :
    Rejected "hunter2" ∧ Rejected "swordfish" ∧
      viewed UnicodeData.ascii UrlData.ascii "hunter2" =
        .ok (⟨"", none, none⟩, "hunter2") ∧
      viewed UnicodeData.ascii UrlData.ascii "swordfish" =
        .ok (⟨"", none, none⟩, "swordfish") ∧
      redisUrlFromSecretValue UnicodeData.ascii
          (withUrlTarget UnicodeData.ascii UrlData.ascii unreadableSecrets) "hunter2"
          "os/openstudio-redis" "url" =
        .error (.credentialResolutionError (rejectionMessage UnicodeData.ascii
          "os/openstudio-redis" "url" "://<unknown>hunter2") none) ∧
      ¬ Discreet UnicodeData.ascii UrlData.ascii unreadableSecrets "os/openstudio-redis" "url"
        "hunter2" "swordfish" ∧
      Rejected "redis://queue:hunter2" ∧
      redisUrlFromSecretValue UnicodeData.ascii
          (withUrlTarget UnicodeData.ascii UrlData.ascii unreadableSecrets)
          "redis://queue:hunter2" "os/openstudio-redis" "url" =
        .error (.valueError "Port could not be cast to integer value as 'hunter2'") := by
  have hrejected : Rejected "hunter2" := Or.inr (by decide +kernel)
  have hrejected' : Rejected "swordfish" := Or.inr (by decide +kernel)
  have hport : Rejected "redis://queue:hunter2" := Or.inr (by decide +kernel)
  have hview : viewed UnicodeData.ascii UrlData.ascii "hunter2" =
      .ok (⟨"", none, none⟩, "hunter2") := rfl
  have hview' : viewed UnicodeData.ascii UrlData.ascii "swordfish" =
      .ok (⟨"", none, none⟩, "swordfish") := rfl
  have hfailed : viewed UnicodeData.ascii UrlData.ascii "redis://queue:hunter2" =
      .error "Port could not be cast to integer value as 'hunter2'" := rfl
  have htarget : UrlView.target ⟨"", none, none⟩ "hunter2" = "://<unknown>hunter2" := by
    decide +kernel
  have hraised := @Rejected.of_ok _ _ unreadableSecrets "os/openstudio-redis" "url" _ _ _
    hrejected (by decide) hview
  rw [htarget] at hraised
  refine ⟨hrejected, hrejected', hview, hview', hraised, ?_, hport,
    hport.of_error (by decide) hfailed⟩
  intro h
  have hpaths := (hrejected.same_iff hrejected' hview hview').mp (h.hides _ _ _ hview hview')
  exact absurd hpaths.1 (by decide)

end Target

end RedisCredentials
end OpenStudioOperator
