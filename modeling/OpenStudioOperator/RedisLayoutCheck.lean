import OpenStudioOperator.ClientFactory
import OpenStudioOperator.EventsSinks
import OpenStudioOperator.Foundation.Pacing
import OpenStudioOperator.KeyLayout
import OpenStudioOperator.Spec

/-!
# The check of the key layout

The check runs on watch events and on the ticks of the stall monitor.  A watch
event that is not part of a listing is passed over while the last verdict is
fresh; the ticks keep a clock of their own.  Every end of a check sets three
gauges, and a drift queues a Warning.
-/

namespace OpenStudioOperator
namespace RedisLayoutCheck

open Foundation ClientFactory RedisCredentials
open EventsSinks (Deferral)
open KeyLayout (LayoutError validateKeyLayout missingKeys workerRegistryKey workerHeartbeatHashKey)

/-!
## Gauges
-/

inductive LayoutStatus where
  | ok
  | degraded
  | unreachable
  | error
  | skipped
deriving DecidableEq, Repr

/-- `_REASON_LABELS`. -/
def LayoutStatus.reasonLabel : LayoutStatus -> String
  | .ok => "ok"
  | .degraded => "layout_mismatch"
  | .unreachable => "unreachable"
  | .error => "error"
  | .skipped => "skipped"

/-- The status, the time of the last verdict, and the reasons whose series is 1. -/
structure Gauges where
  redisKeyLayoutStatus : Nat := 0
  redisKeyLayoutStatusFresh : Instant := 0
  redisKeyLayoutStatusReason : Finset String := ∅
deriving DecidableEq

/-- `_set_redis_key_layout_status`; no series of a reason is set back. -/
def setRedisKeyLayoutStatus (status : LayoutStatus) (now : Instant) (gauges : Gauges) : Gauges where
  redisKeyLayoutStatus := if status = .ok then 1 else 0
  redisKeyLayoutStatusFresh := now
  redisKeyLayoutStatusReason := insert status.reasonLabel gauges.redisKeyLayoutStatusReason

/-- `REDIS_KEY_LAYOUT_REVALIDATION_INTERVAL`. -/
def redisKeyLayoutRevalidationInterval : Duration := minutes 5

/-- `_key_layout_validation_is_fresh`. -/
def keyLayoutValidationIsFresh (now : Instant) (gauges : Gauges) : Bool :=
  decide (now - gauges.redisKeyLayoutStatusFresh < redisKeyLayoutRevalidationInterval)

/-!
## One check
-/

/-- What a handler is given as a resource: `kopf.Body` is a mapping and no dict. -/
inductive Item where
  | mapping (isDict : Bool) (members : List (String × Json))
  | other
deriving DecidableEq

/-- What ends a check early. -/
inductive Raised where
  | operatorConfigError (message : String)
  | redisClientError
  | other
deriving DecidableEq, Repr

def Raised.ofFactory : FactoryError -> Raised
  | .resolution (.credentialResolutionError _ _) => .redisClientError
  | .resolution (.valueError _) => .other
  | .constructor (.operatorConfigError message) => .operatorConfigError message
  | .constructor (.valueError _) => .other

def Raised.ofProbe : LayoutError -> Raised
  | .operatorConfigError message => .operatorConfigError message
  | .redisClientError _ => .redisClientError
  | .writeCommandForbidden _ => .other

/-- The arms of the `except` clauses. -/
def LayoutStatus.ofRaised : Option Raised -> LayoutStatus
  | none => .ok
  | some (.operatorConfigError _) => .degraded
  | some .redisClientError => .unreachable
  | some .other => .error

/-- A probe of a server that has come back. -/
structure Probe (unicode : UnicodeData) where
  redisTarget : String
  server : KeyLayout.Server
  calls : Nat
  verdict : Except LayoutError Unit
  returned : validateKeyLayout unicode redisTarget server calls = some verdict

/-- What a check meets: the Secrets, what a constructor raises, the probe by way
of each client, and the clock at its end. -/
structure Surroundings (unicode : UnicodeData) where
  source : SecretSource
  raises : String -> Option ConstructorError
  probe : Client -> Probe unicode
  finishedAt : Instant

section Check

variable (unicode : UnicodeData)

/-- `str(value or "")`. -/
def textOr (members : List (String × Json)) (key : String) : String :=
  let value := (members.lookup key).getD .null
  if value.truthy then value.pyStr unicode else ""

/-- `_validate_item_meta`: namespace and name. -/
def validateItemMeta (item : Item) : Option (String × String) :=
  match item with
  | .other => none
  | .mapping isDict members =>
      let found :=
        match members.lookup "metadata" with
        | some (.obj metadata) => some metadata
        | _ => if isDict then some members else none
      match found with
      | none => none
      | some metadata =>
          let ns := textOr unicode metadata "namespace"
          let nm := textOr unicode metadata "name"
          if ns.isEmpty || nm.isEmpty then none else some (ns, nm)

/-- `OperatorConfig.from_spec(item.get("spec") or {})`; what is no object has no `get`. -/
def configOf (item : Item) : Except Unit Spec.SpecConfig :=
  match item with
  | .other => .error ()
  | .mapping _ members =>
      let spec := (members.lookup "spec").getD .null
      match if spec.truthy then spec else .obj [] with
      | .obj fields =>
          match Spec.fromSpec unicode fields with
          | .ok config => .ok config
          | .error _ => .error ()
      | _ => .error ()

/-- The request for the client.  With a Secret the inline URL is not looked at;
without one a URL that is no text makes the constructor or the cache raise. -/
def requestOf (config : Spec.SpecConfig) (ns : String) (around : Surroundings unicode) :
    Option Request :=
  match config.secretRef, config.redisUrl with
  | none, .str url => some ⟨url, none, ns, around.source, around.raises⟩
  | none, _ => none
  | some ref, _ => some ⟨"", some ref, ns, around.source, around.raises⟩

/-- The message of the Warning of a drift. -/
def driftMessage (exc : String) : String :=
  "Redis key layout validation failed (issue #163): " ++ exc
    ++ ". Modules 3/5 (worker recycler / web_background stall) may produce noisy signals or "
    ++ "stay silent — the centralized Resque key constants in "
    ++ "src/openstudio_operator/redis_client.py do not match the live Redis layout. Verify with "
    ++ "`redis-cli -u <redis_url> KEYS 'resque:*'` and update the constants (see issue #44 / "
    ++ "docs/kind-validation.md)."

/-- `_emit_redis_key_layout_event`, on the arm of a drift. -/
def driftOf (ns nm : String) : Option Raised -> Option Deferral
  | some (.operatorConfigError exc) =>
      some ⟨ns, nm, "RedisKeyLayoutDrift", driftMessage exc⟩
  | _ => none

/-- What the guarded part raises, and the clients after it. -/
def probeClient (request : Request) (around : Surroundings unicode)
    (clients : ClientCache redisClientCacheMaxsize) :
    Option Raised × ClientCache redisClientCacheMaxsize :=
  let answer := getReadOnlyRedisClient unicode request clients
  match answer.1 with
  | .error e => (some (Raised.ofFactory e), answer.2)
  | .ok client =>
      match (around.probe client).verdict with
      | .error e => (some (Raised.ofProbe e), answer.2)
      | .ok () => (none, answer.2)

/-- How a check ends, and what it leaves behind. -/
structure Outcome where
  status : LayoutStatus
  drift : Option Deferral := none
  clients : ClientCache redisClientCacheMaxsize

/-- `_check_redis_key_layout_for_cr`, up to the gauges. -/
def outcomeOf (item : Item) (around : Surroundings unicode)
    (clients : ClientCache redisClientCacheMaxsize) : Outcome :=
  match validateItemMeta unicode item with
  | none => ⟨.skipped, none, clients⟩
  | some (ns, nm) =>
      match configOf unicode item with
      | .error () => ⟨.error, none, clients⟩
      | .ok config =>
          if !config.redisUrl.truthy && config.secretRef.isNone then ⟨.skipped, none, clients⟩
          else
            match requestOf unicode config ns around with
            | none => ⟨.error, none, clients⟩
            | some request =>
                let probed := probeClient unicode request around clients
                ⟨.ofRaised probed.1, driftOf ns nm probed.1, probed.2⟩

end Check

/-!
## The monitor
-/

/-- What made a check run. -/
inductive Trigger where
  | listing
  | event
  | stallTick
deriving DecidableEq, Repr

/-- A check that was made, with the clients as it found them. -/
structure Made (unicode : UnicodeData) where
  trigger : Trigger
  startedAt : Instant
  item : Item
  around : Surroundings unicode
  clients : ClientCache redisClientCacheMaxsize

/-- The memory of the process; `history` has the checks made, the newest first. -/
structure Monitor (unicode : UnicodeData) where
  gauges : Gauges := {}
  clients : ClientCache redisClientCacheMaxsize := {}
  deferred : List Deferral := []
  lastKeyLayoutRevalidation : Option Instant := none
  history : List (Made unicode) := []

section Steps

variable {unicode : UnicodeData}

def Made.outcome (c : Made unicode) : Outcome := outcomeOf unicode c.item c.around c.clients

/-- `_check_redis_key_layout_for_cr`. -/
def checkRedisKeyLayoutForCr (trigger : Trigger) (item : Item) (now : Instant)
    (around : Surroundings unicode) (m : Monitor unicode) : Monitor unicode :=
  let outcome := outcomeOf unicode item around m.clients
  { m with
    gauges := setRedisKeyLayoutStatus outcome.status around.finishedAt m.gauges
    clients := outcome.clients
    deferred := m.deferred ++ outcome.drift.toList
    history := ⟨trigger, now, item, around, m.clients⟩ :: m.history }

/-- `_redis_key_layout_check`; an event of a listing has no type. -/
def redisKeyLayoutCheck (type : Option String) (item : Item) (now : Instant)
    (around : Surroundings unicode) (m : Monitor unicode) : Monitor unicode :=
  match type with
  | none => checkRedisKeyLayoutForCr .listing item now around m
  | some _ =>
      if keyLayoutValidationIsFresh now m.gauges then m
      else checkRedisKeyLayoutForCr .event item now around m

/-- `_maybe_revalidate_redis_key_layout`. -/
def maybeRevalidateRedisKeyLayout (item : Item) (now : Instant) (around : Surroundings unicode)
    (m : Monitor unicode) : Monitor unicode :=
  match m.lastKeyLayoutRevalidation with
  | some last =>
      if now - last < redisKeyLayoutRevalidationInterval then m
      else
        checkRedisKeyLayoutForCr .stallTick item now around
          { m with lastKeyLayoutRevalidation := some now }
  | none =>
      checkRedisKeyLayoutForCr .stallTick item now around
        { m with lastKeyLayoutRevalidation := some now }

inductive Step (unicode : UnicodeData) where
  | watch (type : Option String) (item : Item) (now : Instant) (around : Surroundings unicode)
  | stallTick (item : Item) (now : Instant) (around : Surroundings unicode)

def Step.run (s : Step unicode) (m : Monitor unicode) : Monitor unicode :=
  match s with
  | .watch type item now around => redisKeyLayoutCheck type item now around m
  | .stallTick item now around => maybeRevalidateRedisKeyLayout item now around m

/-- The steps of a process in order. -/
def runSteps : List (Step unicode) -> Monitor unicode -> Monitor unicode
  | [], m => m
  | s :: later, m => runSteps later (s.run m)

end Steps

/-!
## What a probe tells
-/

/-- The server says that both keys are there. -/
def KeysPresent (server : KeyLayout.Server) : Prop :=
  forall key, key ∈ [workerRegistryKey, workerHeartbeatHashKey] ->
    exists n, server.keyExists key = .ok n ∧ n ≠ 0

/-- The server says that one of the keys is not there. -/
def KeyMissing (server : KeyLayout.Server) : Prop :=
  exists key, key ∈ [workerRegistryKey, workerHeartbeatHashKey] ∧ server.keyExists key = .ok 0

section Probes

variable {unicode : UnicodeData} {server : KeyLayout.Server}

theorem missingKeys_cons (key : String) (rest : List String) :
    missingKeys unicode server (key :: rest) =
      (match server.keyExists key with
        | .error text =>
            .error (.redisClientError ("exists".toUpper ++ " failed: " ++ text))
        | .ok found => (missingKeys unicode server rest).map fun missing =>
            if found = 0 then key :: missing else missing) := by
  rw [missingKeys, KeyLayout.execute_of_allowed unicode KeyLayout.exists_allowed]
  cases server.keyExists key with
  | error text => rfl
  | ok found => cases missingKeys unicode server rest <;> rfl

theorem missingKeys_cons_ok {first : String} {rest missing : List String}
    (h : missingKeys unicode server (first :: rest) = .ok missing) :
    exists found others, server.keyExists first = .ok found ∧
      missingKeys unicode server rest = .ok others ∧
      missing = if found = 0 then first :: others else others := by
  rw [missingKeys_cons] at h
  cases hfirst : server.keyExists first with
  | error text =>
      rw [hfirst] at h
      cases h
  | ok found =>
      rw [hfirst] at h
      cases hrest : missingKeys unicode server rest with
      | error e =>
          rw [hrest] at h
          cases h
      | ok others =>
          rw [hrest] at h
          exact ⟨found, others, rfl, rfl, (Except.ok.inj h).symm⟩

/-- Every key was asked for; those that are missing were not found. -/
theorem missingKeys_ok : forall {keys missing : List String},
    missingKeys unicode server keys = .ok missing ->
      (forall key, key ∈ missing -> key ∈ keys ∧ server.keyExists key = .ok 0) ∧
      (missing = [] ->
        forall key, key ∈ keys -> exists n, server.keyExists key = .ok n ∧ n ≠ 0) := by
  intro keys
  induction keys with
  | nil =>
      intro missing h
      rw [← Except.ok.inj h]
      exact ⟨fun _ hkey => absurd hkey List.not_mem_nil,
        fun _ _ hkey => absurd hkey List.not_mem_nil⟩
  | cons first rest ih =>
      intro missing h
      rcases missingKeys_cons_ok h with ⟨found, others, hfirst, hrest, rfl⟩
      rcases ih hrest with ⟨hothers, hpresent⟩
      have hkept : forall key, key ∈ others ->
          key ∈ first :: rest ∧ server.keyExists key = .ok 0 :=
        fun key hkey => ⟨List.mem_cons_of_mem _ (hothers key hkey).1, (hothers key hkey).2⟩
      by_cases hzero : found = 0
      · rw [if_pos hzero]
        refine ⟨?_, fun hnil => absurd hnil (List.cons_ne_nil _ _)⟩
        intro key hkey
        rcases List.mem_cons.mp hkey with hnew | hold
        · rw [hnew, hfirst, hzero]
          exact ⟨List.mem_cons_self, rfl⟩
        · exact hkept key hold
      · rw [if_neg hzero]
        refine ⟨hkept, ?_⟩
        intro hnil key hkey
        rcases List.mem_cons.mp hkey with hnew | hold
        · rw [hnew]
          exact ⟨found, hfirst, hzero⟩
        · exact hpresent hnil key hold

/-- A failed EXISTS is a connection failure. -/
theorem missingKeys_error : forall {keys : List String} {e : LayoutError},
    missingKeys unicode server keys = .error e ->
      exists message, e = .redisClientError message := by
  intro keys
  induction keys with
  | nil =>
      intro e h
      cases h
  | cons first rest ih =>
      intro e h
      rw [missingKeys_cons] at h
      cases hfirst : server.keyExists first with
      | error text =>
          rw [hfirst] at h
          exact ⟨_, (Except.error.inj h).symm⟩
      | ok found =>
          rw [hfirst] at h
          cases hrest : missingKeys unicode server rest with
          | error e' =>
              rw [hrest] at h
              rcases ih hrest with ⟨message, hmessage⟩
              exact ⟨message, (Except.error.inj h).symm.trans hmessage⟩
          | ok others =>
              rw [hrest] at h
              cases h

/-- A failed SCAN is a connection failure. -/
theorem scanLoop_error : forall {fuel n cursor : Nat} {seen : Finset String} {e : LayoutError},
    KeyLayout.scanLoop unicode server fuel n cursor seen = some (.error e) ->
      exists message, e = .redisClientError message := by
  intro fuel
  induction fuel with
  | zero =>
      intro n cursor seen e h
      cases h
  | succ fuel ih =>
      intro n cursor seen e h
      rw [KeyLayout.scanLoop, KeyLayout.execute_of_allowed unicode KeyLayout.scan_allowed] at h
      cases hscan : server.scan n cursor with
      | error text =>
          rw [hscan] at h
          exact ⟨_, (Except.error.inj (Option.some.inj h)).symm⟩
      | ok answer =>
          rw [hscan] at h
          simp only at h
          split at h
          · cases h
          · split at h
            · cases h
            · exact ih h

/-- A probe passes when both keys are there, finds a drift only when one is not,
and otherwise fails on the connection. -/
theorem Probe.verdict_cases (probe : Probe unicode) :
    (probe.verdict = .ok () ∧ KeysPresent probe.server) ∨
    (exists message, probe.verdict = .error (.operatorConfigError message) ∧
      KeyMissing probe.server) ∨
    (exists message, probe.verdict = .error (.redisClientError message) ∧
      ¬ KeysPresent probe.server) := by
  have hreturned := probe.returned
  unfold validateKeyLayout at hreturned
  cases hmissing : missingKeys unicode probe.server [workerRegistryKey, workerHeartbeatHashKey] with
  | error e =>
      rw [hmissing] at hreturned
      rcases missingKeys_error hmissing with ⟨message, hmessage⟩
      refine Or.inr (Or.inr ⟨message, ?_, ?_⟩)
      · rw [← Option.some.inj hreturned, hmessage]
      · intro hpresent
        -- with both keys there no EXISTS fails
        rw [missingKeys_cons, missingKeys_cons] at hmissing
        rcases hpresent workerRegistryKey List.mem_cons_self with ⟨n, hn, _⟩
        rcases hpresent workerHeartbeatHashKey (List.mem_cons_of_mem _ List.mem_cons_self) with
          ⟨n', hn', _⟩
        rw [hn, hn'] at hmissing
        cases hmissing
  | ok missing =>
      rw [hmissing] at hreturned
      cases missing with
      | nil =>
          exact Or.inl ⟨(Option.some.inj hreturned).symm, (missingKeys_ok hmissing).2 rfl⟩
      | cons key rest =>
          have hkey := (missingKeys_ok hmissing).1 key List.mem_cons_self
          have hnot : ¬ KeysPresent probe.server := by
            intro hpresent
            rcases hpresent key hkey.1 with ⟨n, hn, hne⟩
            rw [hkey.2] at hn
            exact hne (Except.ok.inj hn).symm
          simp only [List.isEmpty_cons, Bool.false_eq_true, if_false] at hreturned
          rcases Option.map_eq_some_iff.mp hreturned with ⟨scanned, hscan, hverdict⟩
          cases scanned with
          | error e =>
              rcases scanLoop_error hscan with ⟨message, hmessage⟩
              refine Or.inr (Or.inr ⟨message, ?_, hnot⟩)
              rw [← hverdict, hmessage]
          | ok found =>
              rcases found with ⟨completed, seen⟩
              simp only at hverdict
              by_cases hseen : seen = ∅
              · rw [if_pos hseen] at hverdict
                exact Or.inr (Or.inl ⟨_, hverdict.symm, key, hkey⟩)
              · rw [if_neg hseen] at hverdict
                exact Or.inr (Or.inl ⟨_, hverdict.symm, key, hkey⟩)

end Probes

/-!
## How a check ends
-/

section Outcomes

variable {unicode : UnicodeData} {c : Made unicode}

/-- The check finds the name of a resource, and its spec asks for a client. -/
structure Made.Asks (c : Made unicode) (ns nm : String) (request : Request) : Prop where
  named : validateItemMeta unicode c.item = some (ns, nm)
  configured : exists config, configOf unicode c.item = .ok config ∧
    (!config.redisUrl.truthy && config.secretRef.isNone) = false ∧
    requestOf unicode config ns c.around = some request

/-- The check gets a client. -/
def Made.Reaches (c : Made unicode) (ns nm : String) (client : Client) : Prop :=
  exists request, c.Asks ns nm request ∧
    (getReadOnlyRedisClient unicode request c.clients).1 = .ok client

/-- A setting of the environment keeps the check from its client. -/
def Made.Refused (c : Made unicode) (ns nm : String) : Prop :=
  exists request message, c.Asks ns nm request ∧
    (getReadOnlyRedisClient unicode request c.clients).1 =
      .error (.constructor (.operatorConfigError message))

theorem Made.Asks.outcome {ns nm : String} {request : Request} (h : c.Asks ns nm request) :
    c.outcome =
      let probed := probeClient unicode request c.around c.clients
      ⟨.ofRaised probed.1, driftOf ns nm probed.1, probed.2⟩ := by
  rcases h.configured with ⟨config, hconfig, hset, hrequest⟩
  unfold Made.outcome outcomeOf
  rw [h.named]
  simp only [hconfig, hset, Bool.false_eq_true, if_false, hrequest]

/-- A check that asks for no client says nothing of the layout. -/
theorem Made.asks_or (c : Made unicode) :
    (exists ns nm request, c.Asks ns nm request) ∨
      ((c.outcome.status = .skipped ∨ c.outcome.status = .error) ∧ c.outcome.drift = none) := by
  cases hnamed : validateItemMeta unicode c.item with
  | none =>
      have houtcome : c.outcome = ⟨.skipped, none, c.clients⟩ := by
        unfold Made.outcome outcomeOf
        rw [hnamed]
      rw [houtcome]
      exact Or.inr ⟨Or.inl rfl, rfl⟩
  | some named =>
      rcases named with ⟨ns, nm⟩
      cases hconfig : configOf unicode c.item with
      | error e =>
          have houtcome : c.outcome = ⟨.error, none, c.clients⟩ := by
            unfold Made.outcome outcomeOf
            rw [hnamed]
            simp only [hconfig]
          rw [houtcome]
          exact Or.inr ⟨Or.inr rfl, rfl⟩
      | ok config =>
          cases hset : (!config.redisUrl.truthy && config.secretRef.isNone) with
          | true =>
              have houtcome : c.outcome = ⟨.skipped, none, c.clients⟩ := by
                unfold Made.outcome outcomeOf
                rw [hnamed]
                simp only [hconfig, hset, if_true]
              rw [houtcome]
              exact Or.inr ⟨Or.inl rfl, rfl⟩
          | false =>
              cases hrequest : requestOf unicode config ns c.around with
              | none =>
                  have houtcome : c.outcome = ⟨.error, none, c.clients⟩ := by
                    unfold Made.outcome outcomeOf
                    rw [hnamed]
                    simp only [hconfig, hset, Bool.false_eq_true, if_false, hrequest]
                  rw [houtcome]
                  exact Or.inr ⟨Or.inr rfl, rfl⟩
              | some request =>
                  exact Or.inl ⟨ns, nm, request, hnamed, config, hconfig, hset, hrequest⟩

/-- What the guarded part raises, by the answer of the client factory. -/
theorem probeClient_raised (request : Request) (around : Surroundings unicode)
    (clients : ClientCache redisClientCacheMaxsize) :
    (exists e, (getReadOnlyRedisClient unicode request clients).1 = .error e ∧
      (probeClient unicode request around clients).1 = some (Raised.ofFactory e)) ∨
    (exists client, (getReadOnlyRedisClient unicode request clients).1 = .ok client ∧
      (probeClient unicode request around clients).1 =
        match (around.probe client).verdict with
        | .error e => some (Raised.ofProbe e)
        | .ok () => none) := by
  unfold probeClient
  simp only
  cases hanswer : (getReadOnlyRedisClient unicode request clients).1 with
  | error e => exact Or.inl ⟨e, rfl, rfl⟩
  | ok client =>
      refine Or.inr ⟨client, rfl, ?_⟩
      simp only
      cases (around.probe client).verdict with
      | error e => rfl
      | ok found => rfl

theorem not_keyMissing {server : KeyLayout.Server} (h : KeysPresent server) :
    ¬ KeyMissing server := by
  rintro ⟨key, hkey, hmissing⟩
  rcases h key hkey with ⟨n, hn, hne⟩
  rw [hmissing] at hn
  exact hne (Except.ok.inj hn).symm

/-- The verdict is good exactly when the server of the check has both keys. -/
theorem Made.status_ok_iff :
    c.outcome.status = .ok <->
      exists ns nm client, c.Reaches ns nm client ∧ KeysPresent (c.around.probe client).server := by
  constructor
  · intro h
    rcases c.asks_or with ⟨ns, nm, request, hasks⟩ | ⟨hquiet, _⟩
    · rw [hasks.outcome] at h
      rcases probeClient_raised request c.around c.clients with
        ⟨e, _, hraised⟩ | ⟨client, hclient, hraised⟩
      · simp only [hraised] at h
        revert h
        cases Raised.ofFactory e <;> intro h <;> cases h
      · refine ⟨ns, nm, client, ⟨request, hasks, hclient⟩, ?_⟩
        simp only [hraised] at h
        rcases (c.around.probe client).verdict_cases with
          ⟨_, hpresent⟩ | ⟨message, hverdict, _⟩ | ⟨message, hverdict, _⟩
        · exact hpresent
        · rw [hverdict] at h
          cases h
        · rw [hverdict] at h
          cases h
    · rcases hquiet with hskipped | herror
      · rw [h] at hskipped
        cases hskipped
      · rw [h] at herror
        cases herror
  · rintro ⟨ns, nm, client, ⟨request, hasks, hclient⟩, hpresent⟩
    rw [hasks.outcome]
    rcases probeClient_raised request c.around c.clients with
      ⟨e, hanswer, _⟩ | ⟨client', hanswer, hraised⟩
    · rw [hclient] at hanswer
      cases hanswer
    · rw [hclient] at hanswer
      cases hanswer
      simp only [hraised]
      rcases (c.around.probe client).verdict_cases with
        ⟨hverdict, _⟩ | ⟨message, _, hmissing⟩ | ⟨message, _, hnot⟩
      · rw [hverdict]
        rfl
      · exact absurd hmissing (not_keyMissing hpresent)
      · exact absurd hpresent hnot

/-- Exactly the degraded checks queue a Warning. -/
theorem Made.drift_isSome_iff : c.outcome.drift.isSome = true <-> c.outcome.status = .degraded := by
  rcases c.asks_or with ⟨ns, nm, request, hasks⟩ | ⟨hquiet, hdrift⟩
  · rw [hasks.outcome]
    simp only
    cases (probeClient unicode request c.around c.clients).1 with
    | none => simp [driftOf, LayoutStatus.ofRaised]
    | some raised => cases raised <;> simp [driftOf, LayoutStatus.ofRaised]
  · rw [hdrift]
    rcases hquiet with hskipped | herror
    · simp [hskipped]
    · simp [herror]

/-- A Warning of a drift stands for a missing key, or for a client that the
settings of the environment refuse. -/
theorem Made.drift_sound {d : Deferral} (h : c.outcome.drift = some d) :
    d.reason = "RedisKeyLayoutDrift" ∧
      ((exists client, c.Reaches d.ns d.name client ∧
        KeyMissing (c.around.probe client).server) ∨ c.Refused d.ns d.name) := by
  rcases c.asks_or with ⟨ns, nm, request, hasks⟩ | ⟨_, hdrift⟩
  · rw [hasks.outcome] at h
    rcases probeClient_raised request c.around c.clients with
      ⟨e, hanswer, hraised⟩ | ⟨client, hanswer, hraised⟩
    · simp only [hraised] at h
      cases e with
      | resolution error => cases error <;> cases h
      | constructor error =>
          cases error with
          | valueError message => cases h
          | operatorConfigError message =>
              cases h
              exact ⟨rfl, Or.inr ⟨request, message, hasks, hanswer⟩⟩
    · simp only [hraised] at h
      rcases (c.around.probe client).verdict_cases with
        ⟨hverdict, _⟩ | ⟨message, hverdict, hmissing⟩ | ⟨message, hverdict, _⟩
      · rw [hverdict] at h
        cases h
      · rw [hverdict] at h
        cases h
        exact ⟨rfl, Or.inl ⟨client, ⟨request, hasks, hanswer⟩, hmissing⟩⟩
      · rw [hverdict] at h
        cases h
  · rw [hdrift] at h
    cases h

end Outcomes

/-!
## Runs
-/

section Runs

variable {unicode : UnicodeData} {m : Monitor unicode} {s : Step unicode}

def Step.item : Step unicode -> Item
  | .watch _ item _ _ => item
  | .stallTick item _ _ => item

def Step.now : Step unicode -> Instant
  | .watch _ _ now _ => now
  | .stallTick _ now _ => now

def Step.around : Step unicode -> Surroundings unicode
  | .watch _ _ _ around => around
  | .stallTick _ _ around => around

/-- What lets a check run: a listing always does, an event when the verdict is
not fresh, a tick when its own clock has run down. -/
inductive Opened (m : Monitor unicode) (now : Instant) : Trigger -> Option Instant -> Prop where
  | listing : Opened m now .listing m.lastKeyLayoutRevalidation
  | event : redisKeyLayoutRevalidationInterval <= now - m.gauges.redisKeyLayoutStatusFresh ->
      Opened m now .event m.lastKeyLayoutRevalidation
  | stallTick : (forall last, m.lastKeyLayoutRevalidation = some last ->
        redisKeyLayoutRevalidationInterval <= now - last) ->
      Opened m now .stallTick (some now)

/-- A step does nothing or makes one check. -/
theorem Step.run_cases (s : Step unicode) (m : Monitor unicode) :
    s.run m = m ∨
    exists trigger last, Opened m s.now trigger last ∧
      s.run m = checkRedisKeyLayoutForCr trigger s.item s.now s.around
        { m with lastKeyLayoutRevalidation := last } := by
  cases s with
  | watch type item now around =>
      cases type with
      | none => exact Or.inr ⟨.listing, _, .listing, rfl⟩
      | some type =>
          simp only [Step.run, redisKeyLayoutCheck]
          cases hfresh : keyLayoutValidationIsFresh now m.gauges with
          | true => exact Or.inl rfl
          | false =>
              exact Or.inr ⟨.event, _, .event (Int.not_lt.mp (of_decide_eq_false hfresh)), rfl⟩
  | stallTick item now around =>
      simp only [Step.run, maybeRevalidateRedisKeyLayout]
      cases hlast : m.lastKeyLayoutRevalidation with
      | none =>
          refine Or.inr ⟨.stallTick, some now, .stallTick ?_, rfl⟩
          intro last hsome
          rw [hlast] at hsome
          cases hsome
      | some last =>
          simp only
          by_cases hgate : now - last < redisKeyLayoutRevalidationInterval
          · rw [if_pos hgate]
            exact Or.inl rfl
          · rw [if_neg hgate]
            refine Or.inr ⟨.stallTick, some now, .stallTick ?_, rfl⟩
            intro last' hsome
            rw [hlast] at hsome
            cases hsome
            exact Int.not_lt.mp hgate

/-- What every check keeps, a run keeps. -/
theorem keeps_runSteps {p : Monitor unicode -> Prop}
    (hcheck : forall m trigger item now around last, p m ->
      p (checkRedisKeyLayoutForCr trigger item now around
        { m with lastKeyLayoutRevalidation := last })) :
    forall (steps : List (Step unicode)) {m : Monitor unicode}, p m -> p (runSteps steps m) := by
  intro steps
  induction steps with
  | nil =>
      intro m h
      exact h
  | cons s later ih =>
      intro m h
      apply ih
      rcases s.run_cases m with hsame | ⟨trigger, last, _, hrun⟩
      · rw [hsame]
        exact h
      · rw [hrun]
        exact hcheck _ _ _ _ _ _ h

theorem runSteps_append : forall (steps later : List (Step unicode)) (m : Monitor unicode),
    runSteps (steps ++ later) m = runSteps later (runSteps steps m) := by
  intro steps
  induction steps with
  | nil =>
      intro later m
      rfl
  | cons s rest ih =>
      intro later m
      exact ih later (s.run m)

/-- The gauges that a history of checks leaves. -/
def gaugesAfter : List (Made unicode) -> Gauges
  | [] => {}
  | c :: older =>
      setRedisKeyLayoutStatus c.outcome.status c.around.finishedAt (gaugesAfter older)

/-- Gauges and Warnings are those of the checks made. -/
def Accounted (m : Monitor unicode) : Prop :=
  m.gauges = gaugesAfter m.history ∧
    m.deferred = m.history.reverse.filterMap fun c => c.outcome.drift

theorem accounted_runSteps (steps : List (Step unicode)) : Accounted (runSteps steps {}) := by
  apply keeps_runSteps _ steps ⟨rfl, rfl⟩
  intro m trigger item now around last h
  constructor
  · show setRedisKeyLayoutStatus _ _ m.gauges = _
    rw [h.1]
    rfl
  · show m.deferred ++ _ = _
    rw [h.2]
    show _ = List.filterMap _ (List.reverse (_ :: m.history))
    rw [List.reverse_cons, List.filterMap_append]
    congr 1

theorem LayoutStatus.reasonLabel_injective {a b : LayoutStatus}
    (h : a.reasonLabel = b.reasonLabel) : a = b := by
  revert h
  cases a <;> cases b <;> decide

theorem mem_reasons_gaugesAfter {status : LayoutStatus} (history : List (Made unicode)) :
    status.reasonLabel ∈ (gaugesAfter history).redisKeyLayoutStatusReason <->
      exists c, c ∈ history ∧ c.outcome.status = status := by
  induction history with
  | nil =>
      constructor
      · intro h
        exact absurd h (Finset.notMem_empty _)
      · rintro ⟨c, hc, _⟩
        cases hc
  | cons c older ih =>
      show _ ∈ insert _ (gaugesAfter older).redisKeyLayoutStatusReason <-> _
      rw [Finset.mem_insert, ih]
      constructor
      · rintro (hnew | ⟨c', hc', hstatus⟩)
        · exact ⟨c, List.mem_cons_self, (LayoutStatus.reasonLabel_injective hnew).symm⟩
        · exact ⟨c', List.mem_cons_of_mem _ hc', hstatus⟩
      · rintro ⟨c', hc', hstatus⟩
        rcases List.mem_cons.mp hc' with hnew | hold
        · rw [hnew] at hstatus
          exact Or.inl (by rw [hstatus])
        · exact Or.inr ⟨c', hold, hstatus⟩

/-!
## Times
-/

/-- The clock does not go back: not from the start of a check to its end, and not
from one step to a later one. -/
def ClockForward (steps : List (Step unicode)) : Prop :=
  (forall s, s ∈ steps -> s.now <= s.around.finishedAt) ∧
    steps.Pairwise fun s s' => s.around.finishedAt <= s'.now

instance (steps : List (Step unicode)) : Decidable (ClockForward steps) :=
  inferInstanceAs (Decidable (_ ∧ _))

/-- A check of an event starts an interval after every earlier verdict, and one of
a tick starts an interval after every earlier one of a tick. -/
def Apart (later earlier : Made unicode) : Prop :=
  (later.trigger = .event ->
    redisKeyLayoutRevalidationInterval <= later.startedAt - earlier.around.finishedAt) ∧
  (later.trigger = .stallTick -> earlier.trigger = .stallTick ->
    redisKeyLayoutRevalidationInterval <= later.startedAt - earlier.startedAt)

/-- What the stamps tell of the checks made, at the time `now`. -/
structure Paced (m : Monitor unicode) (now : Instant) : Prop where
  apart : m.history.Pairwise Apart
  finished : forall c, c ∈ m.history -> c.startedAt <= c.around.finishedAt ∧
    c.around.finishedAt <= m.gauges.redisKeyLayoutStatusFresh ∧ c.around.finishedAt <= now
  ticked : forall c, c ∈ m.history -> c.trigger = .stallTick ->
    exists last, m.lastKeyLayoutRevalidation = some last ∧ c.startedAt <= last
  stamped : forall last, m.lastKeyLayoutRevalidation = some last ->
    last <= m.gauges.redisKeyLayoutStatusFresh ∧ last <= now

theorem paced_empty (now : Instant) : Paced ({} : Monitor unicode) now where
  apart := List.Pairwise.nil
  finished := fun _ hc => absurd hc List.not_mem_nil
  ticked := fun _ hc => absurd hc List.not_mem_nil
  stamped := fun _ hlast => nomatch hlast

theorem Paced.later {now later : Instant} (h : Paced m now) (hle : now <= later) :
    Paced m later where
  apart := h.apart
  finished := fun c hc =>
    ⟨(h.finished c hc).1, (h.finished c hc).2.1, Int.le_trans (h.finished c hc).2.2 hle⟩
  ticked := h.ticked
  stamped := fun last hlast =>
    ⟨(h.stamped last hlast).1, Int.le_trans (h.stamped last hlast).2 hle⟩

theorem Paced.check {now : Instant} {trigger : Trigger} {item : Item}
    {around : Surroundings unicode} {last : Option Instant} (h : Paced m now)
    (hopened : Opened m now trigger last) (hends : now <= around.finishedAt) :
    Paced (checkRedisKeyLayoutForCr trigger item now around
      { m with lastKeyLayoutRevalidation := last }) around.finishedAt where
  apart := by
    apply List.Pairwise.cons
    · intro c hc
      have hfinished := h.finished c hc
      constructor
      · intro htrigger
        cases hopened with
        | listing => cases htrigger
        | stallTick _ => cases htrigger
        | event hgate =>
            show _ <= now - _
            lia
      · intro htrigger hearlier
        cases hopened with
        | listing => cases htrigger
        | event _ => cases htrigger
        | stallTick hgate =>
            rcases h.ticked c hc hearlier with ⟨last, hlast, hle⟩
            have hopen := hgate last hlast
            show _ <= now - _
            lia
    · exact h.apart
  finished := by
    intro c hc
    rcases List.mem_cons.mp hc with hnew | hold
    · rw [hnew]
      exact ⟨hends, Int.le_refl _, Int.le_refl _⟩
    · have hle := Int.le_trans (h.finished c hold).2.2 hends
      exact ⟨(h.finished c hold).1, hle, hle⟩
  ticked := by
    intro c hc htrigger
    have hkept : forall c, c ∈ m.history -> c.trigger = .stallTick ->
        exists last', last = some last' ∧ c.startedAt <= last' := by
      intro c hold htick
      rcases h.ticked c hold htick with ⟨last', hlast', hle⟩
      cases hopened with
      | listing => exact ⟨last', hlast', hle⟩
      | event _ => exact ⟨last', hlast', hle⟩
      | stallTick _ => exact ⟨now, rfl, Int.le_trans hle (h.stamped last' hlast').2⟩
    rcases List.mem_cons.mp hc with hnew | hold
    · rw [hnew] at htrigger ⊢
      cases hopened with
      | listing => cases htrigger
      | event _ => cases htrigger
      | stallTick _ => exact ⟨now, rfl, Int.le_refl _⟩
    · exact hkept c hold htrigger
  stamped := by
    intro last' hlast'
    have hle : last' <= now := by
      cases hopened with
      | listing => exact (h.stamped last' hlast').2
      | event _ => exact (h.stamped last' hlast').2
      | stallTick _ => exact Int.le_of_eq (Option.some.inj hlast').symm
    exact ⟨Int.le_trans hle hends, Int.le_trans hle hends⟩

theorem paced_runSteps : forall (steps : List (Step unicode)) {m : Monitor unicode}
    {now : Instant}, Paced m now -> (forall s, s ∈ steps -> now <= s.now) -> ClockForward steps ->
    exists now', Paced (runSteps steps m) now' := by
  intro steps
  induction steps with
  | nil =>
      intro m now h _ _
      exact ⟨now, h⟩
  | cons s later ih =>
      intro m now h hstart hclock
      have hends := hclock.1 s List.mem_cons_self
      rcases List.pairwise_cons.mp hclock.2 with ⟨hfirst, hrest⟩
      have hnow := h.later (hstart s List.mem_cons_self)
      have hstep : Paced (s.run m) s.around.finishedAt := by
        rcases s.run_cases m with hsame | ⟨trigger, last, hopened, hrun⟩
        · rw [hsame]
          exact hnow.later hends
        · rw [hrun]
          exact hnow.check hopened hends
      exact ih hstep hfirst ⟨fun s' hs' => hclock.1 s' (List.mem_cons_of_mem _ hs'), hrest⟩

/-- The checks of a process whose clock goes forward are paced. -/
theorem paced_of_clockForward {steps : List (Step unicode)} (hclock : ClockForward steps) :
    exists now, Paced (runSteps steps {}) now := by
  cases steps with
  | nil => exact ⟨0, paced_empty 0⟩
  | cons s later =>
      apply paced_runSteps (s :: later) (paced_empty s.now) _ hclock
      intro s' hs'
      rcases List.mem_cons.mp hs' with hself | hlater
      · rw [hself]
      · exact Int.le_trans (hclock.1 s List.mem_cons_self)
          ((List.pairwise_cons.mp hclock.2).1 s' hlater)

/-!
## What the gauges and Warnings tell
-/

/-- In every run of watch events and ticks, the status is 1 exactly when the last
check got a client and its server had both keys; the stamp is the end of that
check; and the series of a reason is 1 exactly when some check ended so. -/
theorem layout_gauges_truthful (steps : List (Step unicode)) :
    (forall c older, (runSteps steps {}).history = c :: older ->
      ((runSteps steps {}).gauges.redisKeyLayoutStatus = 1 <->
        exists ns nm client, c.Reaches ns nm client ∧
          KeysPresent (c.around.probe client).server) ∧
      (runSteps steps {}).gauges.redisKeyLayoutStatusFresh = c.around.finishedAt) ∧
    forall status, LayoutStatus.reasonLabel status ∈
        (runSteps steps {}).gauges.redisKeyLayoutStatusReason <->
      exists c, c ∈ (runSteps steps {}).history ∧ c.outcome.status = status := by
  have hgauges := (accounted_runSteps steps).1
  constructor
  · intro c older hhistory
    rw [hgauges, hhistory]
    refine ⟨?_, rfl⟩
    rw [← Made.status_ok_iff]
    show (if c.outcome.status = .ok then 1 else 0) = 1 <-> _
    by_cases hok : c.outcome.status = .ok
    · rw [if_pos hok]
      exact ⟨fun _ => hok, fun _ => rfl⟩
    · rw [if_neg hok]
      exact ⟨fun h => absurd h (by decide), fun h => absurd h hok⟩
  · intro status
    rw [hgauges]
    exact mem_reasons_gaugesAfter _

/-- The checks of one trigger that started in an interval of time. -/
def startedIn (trigger : Trigger) (lo hi : Instant) (history : List (Made unicode)) :
    List (Made unicode) :=
  history.filter fun c => decide (c.trigger = trigger ∧ lo <= c.startedAt ∧ c.startedAt <= hi)

/-- Checks of one trigger that start an interval apart are few. -/
theorem length_startedIn_le {history : List (Made unicode)} {trigger : Trigger} {lo hi : Instant}
    (hapart : history.Pairwise fun later earlier => later.trigger = trigger ->
      earlier.trigger = trigger ->
      redisKeyLayoutRevalidationInterval <= later.startedAt - earlier.startedAt)
    (hle : lo <= hi) :
    ((startedIn trigger lo hi history).length : Int) <=
      (hi - lo) / redisKeyLayoutRevalidationInterval + 1 := by
  have hwithin : forall c, c ∈ startedIn trigger lo hi history ->
      c.trigger = trigger ∧ lo <= c.startedAt ∧ c.startedAt <= hi := by
    intro c hc
    exact of_decide_eq_true (List.mem_filter.mp hc).2
  have hspaced : Spaced (redisKeyLayoutRevalidationInterval - 1)
      ((startedIn trigger lo hi history).map Made.startedAt).reverse := by
    apply List.pairwise_reverse.mpr
    apply List.pairwise_map.mpr
    refine List.Pairwise.imp_of_mem ?_ (hapart.filter _)
    intro later earlier hlater hearlier h
    have hgap := h (hwithin later hlater).1 (hwithin earlier hearlier).1
    lia
  have hlength := hspaced.length_le (by decide) hle fun a ha => by
    rcases List.mem_map.mp (List.mem_reverse.mp ha) with ⟨c, hc, hca⟩
    rw [← hca]
    exact (hwithin c hc).2
  rw [List.length_reverse, List.length_map, Int.sub_add_cancel] at hlength
  exact hlength

/-- A server with both keys. -/
def healthyProbe : Probe UnicodeData.ascii where
  redisTarget := "redis://queue:6379"
  server := { keyExists := fun _ => .ok 1, scan := fun _ _ => .ok (0, []) }
  calls := 0
  verdict := .ok ()
  returned := by decide +kernel

def healthySurroundings (finishedAt : Instant) : Surroundings UnicodeData.ascii where
  source := unreadableSecrets
  raises := fun _ => none
  probe := fun _ => healthyProbe
  finishedAt := finishedAt

def watchedItem : Item :=
  .mapping false
    [("metadata", .obj [("name", .str "oscm"), ("namespace", .str "openstudio")]),
     ("spec", .obj [("redisUrl", .str "redis://queue:6379")])]

/-- A listing, two events and a tick. -/
def quietSteps : List (Step UnicodeData.ascii) :=
  [.watch none watchedItem (minutes 0) (healthySurroundings (minutes 0)),
   .watch (some "MODIFIED") watchedItem (minutes 1) (healthySurroundings (minutes 1)),
   .watch (some "MODIFIED") watchedItem (minutes 5) (healthySurroundings (minutes 5)),
   .stallTick watchedItem (minutes 6) (healthySurroundings (minutes 6))]

end Runs

end RedisLayoutCheck
end OpenStudioOperator
