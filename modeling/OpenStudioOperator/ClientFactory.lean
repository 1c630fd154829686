import OpenStudioOperator.Foundation.LruCache
import OpenStudioOperator.RedisCredentials

/-!
# The client factory

Clients are memoised by their URL.  The URL of the Redis client is resolved on
every call, outside the cache, from the inline field or from the Secret as it
is then; so a rotated Secret is a new key, and a failed resolution is not
remembered.
-/

namespace OpenStudioOperator
namespace ClientFactory

open Foundation RedisCredentials

def clientCacheMaxsize : Nat := 8

def redisClientCacheMaxsize : Nat := 8

/-- A client: the URL it connects to, and which of the process's clients it is. -/
structure Client where
  url : String
  serial : Nat
deriving DecidableEq, Repr

/-- What a constructor raises: an unusable setting of the process's environment,
or a URL that it cannot take. -/
inductive ConstructorError where
  | operatorConfigError (message : String)
  | valueError (message : String)
deriving DecidableEq, Repr

inductive FactoryError where
  | resolution (error : RedisUrlError)
  | constructor (error : ConstructorError)
deriving DecidableEq, Repr

/-- One memoised constructor, and how often it was entered. -/
structure ClientCache (maxsize : Nat) where
  cache : LruCache String Client maxsize := LruCache.empty
  made : Nat := 0

variable {maxsize : Nat}

/-- What making a client gives: the constructor may raise, as the environment
of the process has it at the time. -/
def construct (raises : String -> Option ConstructorError) (url : String) (serial : Nat) :
    Except FactoryError Client :=
  match raises url with
  | some error => .error (.constructor error)
  | none => .ok { url := url, serial := serial }

/-- `_redis_client_for_url`, and `get_openstudio_client`. -/
def clientForUrl (raises : String -> Option ConstructorError) (url : String)
    (clients : ClientCache maxsize) : Except FactoryError Client × ClientCache maxsize :=
  let answered := clients.cache.call url (construct raises url clients.made)
  let entered := (clients.cache.get? url).isNone
  (answered.1, { cache := answered.2, made := clients.made + entered.toNat })

/-- `get_openstudio_client`. -/
def getOpenstudioClient (raises : String -> Option ConstructorError) (serverUrl : String)
    (clients : ClientCache clientCacheMaxsize) :
    Except FactoryError Client × ClientCache clientCacheMaxsize :=
  clientForUrl raises serverUrl clients

/-- One request for the Redis client: the spec of the resource it is for, and
what the Secrets hold and the constructor raises at that time. -/
structure Request where
  redisUrl : String
  secretRef : Option RedisSecretRef
  crNamespace : String
  source : SecretSource
  raises : String -> Option ConstructorError

variable (unicode : UnicodeData)

/-- The effective URL at the time of the request. -/
def Request.resolved (request : Request) : Except RedisUrlError String :=
  resolveRedisUrl unicode request.source request.redisUrl request.secretRef request.crNamespace

def getReadOnlyRedisClient (request : Request) (clients : ClientCache redisClientCacheMaxsize) :
    Except FactoryError Client × ClientCache redisClientCacheMaxsize :=
  match request.resolved unicode with
  | .error e => (.error (.resolution e), clients)
  | .ok url => clientForUrl request.raises url clients

/-- The cache after the requests of a process. -/
def afterRequests : List Request -> ClientCache redisClientCacheMaxsize ->
    ClientCache redisClientCacheMaxsize
  | [], clients => clients
  | request :: later, clients =>
      afterRequests later (getReadOnlyRedisClient unicode request clients).2

/-!
## Clients and their URLs
-/

/-- Every cached client is of its URL and was made before. -/
def Sound (clients : ClientCache maxsize) : Prop :=
  clients.cache.Suits fun url client => client.url = url ∧ client.serial < clients.made

section ClientForUrl

variable {raises : String -> Option ConstructorError} {url : String} {clients : ClientCache maxsize}
variable {client : Client}

theorem construct_ok {serial : Nat} (h : construct raises url serial = .ok client) :
    client = { url := url, serial := serial } := by
  unfold construct at h
  split at h
  · cases h
  · exact (Except.ok.inj h).symm

/-- A call hands out a client that was made for this URL, or makes one. -/
theorem clientForUrl_ok (h : (clientForUrl raises url clients).1 = .ok client) :
    (url, client) ∈ clients.cache.entries ∨
      (clients.cache.get? url = none ∧ client = { url := url, serial := clients.made }) := by
  unfold clientForUrl at h
  rcases LruCache.call_cases clients.cache url (construct raises url clients.made) with
    ⟨v, hget, hcall⟩ | ⟨v, hget, hmade, hcall⟩ | ⟨e, _, _, hcall⟩
  · rw [hcall] at h
    rw [← Except.ok.inj h]
    exact Or.inl (LruCache.mem_of_get? hget)
  · rw [hcall] at h
    rw [← Except.ok.inj h]
    exact Or.inr ⟨hget, construct_ok hmade⟩
  · rw [hcall] at h
    cases h

/-- What the cache holds after a call it held before, or the call made it. -/
theorem mem_clientForUrl {e : String × Client}
    (he : e ∈ (clientForUrl raises url clients).2.cache.entries) :
    e ∈ clients.cache.entries ∨
      (clients.cache.get? url = none ∧ e = (url, { url := url, serial := clients.made })) := by
  unfold clientForUrl at he
  rcases LruCache.call_cases clients.cache url (construct raises url clients.made) with
    ⟨v, hget, hcall⟩ | ⟨v, hget, hmade, hcall⟩ | ⟨e', _, _, hcall⟩
  · rw [hcall] at he
    rcases LruCache.mem_put he with hnew | hold
    · rw [hnew]
      exact Or.inl (LruCache.mem_of_get? hget)
    · exact Or.inl hold
  · rw [hcall] at he
    rcases LruCache.mem_put he with hnew | hold
    · rw [hnew, construct_ok hmade]
      exact Or.inr ⟨hget, rfl⟩
    · exact Or.inl hold
  · rw [hcall] at he
    exact Or.inl he

theorem made_clientForUrl (h : clients.cache.get? url = none) :
    (clientForUrl raises url clients).2.made = clients.made + 1 := by
  unfold clientForUrl
  rw [h]
  rfl

theorem made_le_clientForUrl : clients.made <= (clientForUrl raises url clients).2.made :=
  Nat.le_add_right _ _

theorem Sound.clientForUrl (h : Sound clients) : Sound (clientForUrl raises url clients).2 := by
  intro e he
  rcases mem_clientForUrl he with hold | ⟨hmiss, hnew⟩
  · exact ⟨(h e hold).1, Nat.lt_of_lt_of_le (h e hold).2 made_le_clientForUrl⟩
  · rw [hnew, made_clientForUrl hmiss]
    exact ⟨rfl, Nat.lt_succ_self _⟩

/-- A call that raises leaves the cache as it was. -/
theorem cache_of_error {e : FactoryError}
    (h : (ClientFactory.clientForUrl raises url clients).1 = .error e) :
    (ClientFactory.clientForUrl raises url clients).2.cache = clients.cache ∧
      exists error, raises url = some error ∧ e = .constructor error := by
  unfold ClientFactory.clientForUrl at h ⊢
  rcases LruCache.call_cases clients.cache url (construct raises url clients.made) with
    ⟨v, _, hcall⟩ | ⟨v, _, _, hcall⟩ | ⟨e', _, hmade, hcall⟩
  · rw [hcall] at h
    cases h
  · rw [hcall] at h
    cases h
  · rw [hcall] at h ⊢
    refine ⟨rfl, ?_⟩
    unfold construct at hmade
    split at hmade
    · rename_i error hraises
      refine ⟨error, hraises, ?_⟩
      rw [← Except.error.inj h, ← Except.error.inj hmade]
    · cases hmade

theorem clientForUrl_returns (h : raises url = none) :
    exists client, (ClientFactory.clientForUrl raises url clients).1 = .ok client := by
  cases hanswer : (ClientFactory.clientForUrl raises url clients).1 with
  | ok client => exact ⟨client, rfl⟩
  | error e =>
      rcases (cache_of_error hanswer).2 with ⟨error, hraises, _⟩
      rw [h] at hraises
      cases hraises

/-- Whoever holds this serial number is this client. -/
def Sole (client : Client) (clients : ClientCache maxsize) : Prop :=
  client.serial < clients.made ∧
    forall e, e ∈ clients.cache.entries -> e.2.serial = client.serial -> e.2 = client

theorem Sole.clientForUrl (h : Sole client clients) :
    Sole client (ClientFactory.clientForUrl raises url clients).2 := by
  refine ⟨Nat.lt_of_lt_of_le h.1 made_le_clientForUrl, ?_⟩
  intro e he hserial
  rcases mem_clientForUrl he with hold | ⟨_, hnew⟩
  · exact h.2 e hold hserial
  · rw [hnew] at hserial
    exact absurd hserial (Nat.ne_of_gt h.1)

end ClientForUrl

/-!
## The requests of a process
-/

section Requests

variable {unicode : UnicodeData} {request request' : Request}
variable {clients : ClientCache redisClientCacheMaxsize} {client client' : Client}

/-- The URLs that requests were resolved to. -/
def resolvedUrls (unicode : UnicodeData) (requests : List Request) : Finset String :=
  (requests.filterMap fun request => (request.resolved unicode).toOption).toFinset

/-- A request either fails to resolve and touches nothing, or is a call with
its URL. -/
theorem getReadOnlyRedisClient_cases (unicode : UnicodeData) (request : Request)
    (clients : ClientCache redisClientCacheMaxsize) :
    (exists e, request.resolved unicode = .error e ∧
      getReadOnlyRedisClient unicode request clients = (.error (.resolution e), clients)) ∨
    (exists url, request.resolved unicode = .ok url ∧
      getReadOnlyRedisClient unicode request clients =
        clientForUrl request.raises url clients) := by
  unfold getReadOnlyRedisClient
  cases hresolved : request.resolved unicode with
  | error e => exact Or.inl ⟨e, rfl, rfl⟩
  | ok url => exact Or.inr ⟨url, rfl, rfl⟩

/-- What every call keeps, a request keeps. -/
theorem keeps_request {p : ClientCache redisClientCacheMaxsize -> Prop}
    (hcall : forall raises url clients, p clients -> p (clientForUrl raises url clients).2)
    (h : p clients) : p (getReadOnlyRedisClient unicode request clients).2 := by
  rcases getReadOnlyRedisClient_cases unicode request clients with
    ⟨e, _, hanswer⟩ | ⟨url, _, hanswer⟩
  · rw [hanswer]
    exact h
  · rw [hanswer]
    exact hcall _ _ _ h

theorem keeps_requests {p : ClientCache redisClientCacheMaxsize -> Prop}
    (hcall : forall raises url clients, p clients -> p (clientForUrl raises url clients).2) :
    forall (requests : List Request) {clients : ClientCache redisClientCacheMaxsize},
      p clients -> p (afterRequests unicode requests clients) := by
  intro requests
  induction requests with
  | nil =>
      intro clients h
      exact h
  | cons request later ih =>
      intro clients h
      exact ih (keeps_request hcall h)

theorem sound_afterRequests (unicode : UnicodeData) (requests : List Request) :
    Sound (afterRequests unicode requests {}) :=
  keeps_requests (fun _ _ _ h => h.clientForUrl) requests (LruCache.suits_empty _)

/-- A client that is handed out is of the URL of the request. -/
theorem resolved_of_answer (h : Sound clients)
    (hanswer : (getReadOnlyRedisClient unicode request clients).1 = .ok client) :
    request.resolved unicode = .ok client.url := by
  rcases getReadOnlyRedisClient_cases unicode request clients with
    ⟨e, _, hcases⟩ | ⟨url, hurl, hcases⟩
  · rw [hcases] at hanswer
    cases hanswer
  · rw [hcases] at hanswer
    rw [hurl]
    rcases clientForUrl_ok hanswer with hheld | ⟨_, hnew⟩
    · rw [(h _ hheld).1]
    · rw [hnew]

/-- Two cached clients with one serial number are one client. -/
def Distinct (clients : ClientCache maxsize) : Prop :=
  Sound clients ∧ forall e e', e ∈ clients.cache.entries -> e' ∈ clients.cache.entries ->
    e.2.serial = e'.2.serial -> e.2 = e'.2

theorem Distinct.clientForUrl {raises : String -> Option ConstructorError} {url : String}
    {clients : ClientCache maxsize} (h : Distinct clients) :
    Distinct (ClientFactory.clientForUrl raises url clients).2 := by
  refine ⟨h.1.clientForUrl, ?_⟩
  intro e e' he he' hserial
  rcases mem_clientForUrl he with hold | ⟨_, hnew⟩
  · rcases mem_clientForUrl he' with hold' | ⟨_, hnew'⟩
    · exact h.2 e e' hold hold' hserial
    · rw [hnew'] at hserial
      exact absurd hserial (Nat.ne_of_lt (h.1 e hold).2)
  · rcases mem_clientForUrl he' with hold' | ⟨_, hnew'⟩
    · rw [hnew] at hserial
      exact absurd hserial.symm (Nat.ne_of_lt (h.1 e' hold').2)
    · rw [hnew, hnew']

/-- The one with the serial number of a client that was handed out is this
client. -/
theorem sole_of_answer (h : Distinct clients)
    (hanswer : (getReadOnlyRedisClient unicode request clients).1 = .ok client) :
    Sole client (getReadOnlyRedisClient unicode request clients).2 := by
  rcases getReadOnlyRedisClient_cases unicode request clients with
    ⟨e, _, hcases⟩ | ⟨url, _, hcases⟩
  · rw [hcases] at hanswer
    cases hanswer
  · rw [hcases] at hanswer ⊢
    rcases clientForUrl_ok hanswer with hheld | ⟨hmiss, hnew⟩
    · refine Sole.clientForUrl ⟨(h.1 _ hheld).2, ?_⟩
      intro e he hserial
      exact h.2 e (url, client) he hheld hserial
    · constructor
      · rw [hnew, made_clientForUrl hmiss]
        exact Nat.lt_succ_self _
      · intro e he hserial
        rcases mem_clientForUrl he with hold | ⟨_, hmade⟩
        · rw [hnew] at hserial
          exact absurd hserial (Nat.ne_of_lt (h.1 e hold).2)
        · rw [hmade, hnew]

theorem distinct_afterRequests (unicode : UnicodeData) (requests : List Request) :
    Distinct (afterRequests unicode requests {}) :=
  keeps_requests (fun _ _ _ h => h.clientForUrl) requests
    ⟨LruCache.suits_empty _, fun _ _ he => absurd he List.not_mem_nil⟩

/-- The key of a client that was handed out is the most recent one. -/
theorem recent_of_answer (h : Sound clients) (others : Finset String)
    (hanswer : (getReadOnlyRedisClient unicode request clients).1 = .ok client) :
    LruCache.Recent (getReadOnlyRedisClient unicode request clients).2.cache client.url client
      others := by
  have hresolved := resolved_of_answer h hanswer
  rcases getReadOnlyRedisClient_cases unicode request clients with
    ⟨e, herror, _⟩ | ⟨url, hurl, hcases⟩
  · rw [herror] at hresolved
    cases hresolved
  · rw [hurl] at hresolved
    cases hresolved
    rw [hcases] at hanswer ⊢
    exact LruCache.recent_of_call (by decide) hanswer others

theorem recent_afterRequests {url : String} {others : Finset String}
    (hroom : others.card < redisClientCacheMaxsize) :
    forall (requests : List Request) {clients : ClientCache redisClientCacheMaxsize},
      LruCache.Recent clients.cache url client others ->
      (resolvedUrls unicode requests).erase url ⊆ others ->
      LruCache.Recent (afterRequests unicode requests clients).cache url client others := by
  intro requests
  induction requests with
  | nil =>
      intro clients h _
      exact h
  | cons request later ih =>
      intro clients h hothers
      apply ih
      · rcases getReadOnlyRedisClient_cases unicode request clients with
          ⟨e, _, hcases⟩ | ⟨url', hurl, hcases⟩
        · rw [hcases]
          exact h
        · rw [hcases]
          refine h.call (fun hne => hothers (Finset.mem_erase.mpr ⟨hne, ?_⟩)) hroom
          apply List.mem_toFinset.mpr
          exact List.mem_filterMap.mpr ⟨request, List.mem_cons_self, by rw [hurl]; rfl⟩
      · refine (Finset.erase_subset_erase url ?_).trans hothers
        intro u hu
        rcases List.mem_filterMap.mp (List.mem_toFinset.mp hu) with ⟨r, hr, hru⟩
        exact List.mem_toFinset.mpr (List.mem_filterMap.mpr ⟨r, List.mem_cons_of_mem _ hr, hru⟩)

/-- A Secret that holds one URL. -/
def secretHolding (url : String) : SecretSource where
  readNamespacedSecret := fun _ _ => .data [("redis-url", url)]
  decode := fun raw => .ok raw
  redisTargetForDiagnostics := fun _ => .ok "redis://queue"

/-- A request by way of the Secret. -/
def secretRequest (secretName url : String) : Request where
  redisUrl := "redis://inline:6379"
  secretRef := some { name := secretName, key := "redis-url" }
  crNamespace := "openstudio"
  source := secretHolding url
  raises := fun _ => none

/-- After any requests of the process: a client that is handed out connects to
the URL that the request is resolved to now, so a rotated Secret is met at the
next request; a request that is resolved is served unless the constructor
raises; and a request that fails leaves the cache as it was. -/
theorem redis_client_current (unicode : UnicodeData) (earlier : List Request)
    (request : Request) :
    (forall client,
      (getReadOnlyRedisClient unicode request (afterRequests unicode earlier {})).1 =
        .ok client -> request.resolved unicode = .ok client.url) ∧
    (forall url, request.resolved unicode = .ok url -> request.raises url = none ->
      exists client,
        (getReadOnlyRedisClient unicode request (afterRequests unicode earlier {})).1 =
          .ok client ∧ client.url = url) ∧
    (forall e, (getReadOnlyRedisClient unicode request (afterRequests unicode earlier {})).1 =
        .error e ->
      (getReadOnlyRedisClient unicode request (afterRequests unicode earlier {})).2.cache =
        (afterRequests unicode earlier {}).cache) := by
  have hsound := sound_afterRequests unicode earlier
  refine ⟨fun client h => resolved_of_answer hsound h, ?_, ?_⟩
  · intro url hurl hraises
    rcases getReadOnlyRedisClient_cases unicode request (afterRequests unicode earlier {}) with
      ⟨e, herror, _⟩ | ⟨url', hurl', hcases⟩
    · rw [hurl] at herror
      cases herror
    · rw [hurl] at hurl'
      cases hurl'
      rw [hcases]
      rcases clientForUrl_returns hraises with ⟨client, hclient⟩
      refine ⟨client, hclient, ?_⟩
      rw [← hcases] at hclient
      have hresolved := resolved_of_answer hsound hclient
      rw [hurl] at hresolved
      exact (Except.ok.inj hresolved).symm
  · intro e he
    rcases getReadOnlyRedisClient_cases unicode request (afterRequests unicode earlier {}) with
      ⟨e', _, hcases⟩ | ⟨url, _, hcases⟩
    · rw [hcases]
    · rw [hcases] at he ⊢
      exact (cache_of_error he).1

/-- The Secret is rotated between two requests. -/
theorem redis_client_rotated :
    exists client,
      (getReadOnlyRedisClient UnicodeData.ascii
        (secretRequest "openstudio-redis" "redis://:new@queue")
        (afterRequests UnicodeData.ascii
          [secretRequest "openstudio-redis" "redis://:old@queue"] {})).1 = .ok client ∧
      client.url = "redis://:new@queue" :=
  (redis_client_current UnicodeData.ascii [secretRequest "openstudio-redis" "redis://:old@queue"]
    (secretRequest "openstudio-redis" "redis://:new@queue")).2.1 "redis://:new@queue"
    (by decide +kernel) rfl

/-- Requests that are handed one client, at any two times, are resolved to one
URL. -/
theorem redis_clients_isolated (earlier between : List Request)
    (h : (getReadOnlyRedisClient unicode request (afterRequests unicode earlier {})).1 =
      .ok client)
    (h' : (getReadOnlyRedisClient unicode request' (afterRequests unicode between
      (getReadOnlyRedisClient unicode request (afterRequests unicode earlier {})).2)).1 =
      .ok client')
    (hserial : client'.serial = client.serial) :
    client' = client ∧ request'.resolved unicode = request.resolved unicode := by
  have hdistinct := distinct_afterRequests unicode earlier
  have hsole : Sole client (afterRequests unicode between
      (getReadOnlyRedisClient unicode request (afterRequests unicode earlier {})).2) :=
    keeps_requests (fun _ _ _ hs => hs.clientForUrl) between
      (sole_of_answer hdistinct h)
  have hsound : Sound (afterRequests unicode between
      (getReadOnlyRedisClient unicode request (afterRequests unicode earlier {})).2) :=
    keeps_requests (fun _ _ _ hs => hs.clientForUrl) between
      (keeps_request (fun _ _ _ hs => hs.clientForUrl) hdistinct.1)
  have hsame : client' = client := by
    rcases getReadOnlyRedisClient_cases unicode request' (afterRequests unicode between
      (getReadOnlyRedisClient unicode request (afterRequests unicode earlier {})).2) with
      ⟨e, _, hcases⟩ | ⟨url, _, hcases⟩
    · rw [hcases] at h'
      cases h'
    · rw [hcases] at h'
      rcases clientForUrl_ok h' with hheld | ⟨_, hnew⟩
      · exact hsole.2 _ hheld hserial
      · rw [hnew] at hserial
        exact absurd hserial (Nat.ne_of_gt hsole.1)
  rw [resolved_of_answer hsound h', resolved_of_answer hdistinct.1 h, hsame]
  exact ⟨rfl, rfl⟩

theorem redis_clients_isolated_rotated :
    ({ url := "redis://:old@queue", serial := 0 } : Client) =
        { url := "redis://:old@queue", serial := 0 } ∧
      (secretRequest "openstudio-redis-b" "redis://:old@queue").resolved UnicodeData.ascii =
        (secretRequest "openstudio-redis" "redis://:old@queue").resolved UnicodeData.ascii :=
  redis_clients_isolated [] [secretRequest "openstudio-redis" "redis://:new@queue"]
    (by decide +kernel) (by decide +kernel) rfl

/-- A request that is resolved to the URL of a client that was handed out is
handed the same client, whatever Secret it is read from, when fewer than eight
other URLs were requested in between. -/
theorem redis_client_reused (earlier between : List Request)
    (h : (getReadOnlyRedisClient unicode request (afterRequests unicode earlier {})).1 =
      .ok client)
    (hagain : request'.resolved unicode = .ok client.url)
    (hroom : ((resolvedUrls unicode between).erase client.url).card <
      redisClientCacheMaxsize) :
    (getReadOnlyRedisClient unicode request' (afterRequests unicode between
      (getReadOnlyRedisClient unicode request (afterRequests unicode earlier {})).2)).1 =
      .ok client := by
  have hrecent := recent_afterRequests hroom between
    (recent_of_answer (sound_afterRequests unicode earlier) _ h) (Finset.Subset.refl _)
  rcases getReadOnlyRedisClient_cases unicode request' (afterRequests unicode between
    (getReadOnlyRedisClient unicode request (afterRequests unicode earlier {})).2) with
    ⟨e, herror, _⟩ | ⟨url, hurl, hcases⟩
  · rw [hagain] at herror
    cases herror
  · rw [hagain] at hurl
    cases hurl
    rw [hcases]
    exact LruCache.call_of_get? hrecent.get? _

theorem redis_client_reused_rotated :
    (getReadOnlyRedisClient UnicodeData.ascii
      (secretRequest "openstudio-redis-b" "redis://:old@queue")
      (afterRequests UnicodeData.ascii [secretRequest "openstudio-redis" "redis://:new@queue"]
        (getReadOnlyRedisClient UnicodeData.ascii
          (secretRequest "openstudio-redis" "redis://:old@queue")
          (afterRequests UnicodeData.ascii [] {})).2)).1 =
      .ok { url := "redis://:old@queue", serial := 0 } :=
  redis_client_reused [] [secretRequest "openstudio-redis" "redis://:new@queue"]
    (by decide +kernel) (by decide +kernel) (by decide +kernel)

end Requests

end ClientFactory
end OpenStudioOperator
