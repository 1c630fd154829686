import Mathlib.Data.Finset.Sort
import Mathlib.Data.String.Basic
import OpenStudioOperator.Foundation.PyText

/-!
# The probe of the key layout

At boot the operator asks Redis for two keys.  If one is missing it collects
keys of the same prefix with SCAN, for the message of the error.  SCAN answers
with a cursor and a batch; the scan is complete when the cursor is 0.
-/

namespace OpenStudioOperator
namespace KeyLayout

open Foundation

def workerRegistryKey : String := "resque:workers"

def workerHeartbeatHashKey : String := "resque:workers:heartbeat"

/-- The pattern of `WORKER_REGISTRY_KEY` without its last part. -/
def scanPattern : String := "resque:*"

/-- `VALIDATE_SCAN_KEY_BUDGET`. -/
def validateScanKeyBudget : Nat := 1000

/-- `sorted(READ_ONLY_COMMANDS)`. -/
def readOnlyCommands : List String := ["EXISTS", "GET", "HGETALL", "LLEN", "SCAN", "SMEMBERS"]

inductive LayoutError where
  | writeCommandForbidden (message : String)
  | redisClientError (message : String)
  | operatorConfigError (message : String)
deriving DecidableEq, Repr

/-- What Redis answers: the number of keys found, and the reply to the n-th SCAN
call with the cursor of that call, or the text of a `RedisError`. -/
structure Server where
  keyExists : String -> Except String Nat
  scan : Nat -> Nat -> Except String (Nat × List String)

section Probe

variable (unicode : UnicodeData)

/-- `_execute`. -/
def execute {reply : Type} (command : String) (answer : Except String reply) :
    Except LayoutError reply :=
  if readOnlyCommands.contains command.toUpper then
    match answer with
    | .ok reply => .ok reply
    | .error text => .error (.redisClientError (command.toUpper ++ " failed: " ++ text))
  else
    .error (.writeCommandForbidden (reprStr unicode command
      ++ " is not in the read-only allowlist "
      ++ Json.pyRepr unicode (.arr (readOnlyCommands.map .str))))

/-- The keys of the list that EXISTS does not find. -/
def missingKeys (server : Server) : List String -> Except LayoutError (List String)
  | [] => .ok []
  | key :: rest => do
      let found ← execute unicode "exists" (server.keyExists key)
      let missing ← missingKeys server rest
      return if found = 0 then key :: missing else missing

/-- The SCAN loop from its n-th call on: whether the scan was completed, and the
keys seen.  It makes at most `fuel` calls; `none` if it has not ended by then. -/
def scanLoop (server : Server) : Nat -> Nat -> Nat -> Finset String ->
    Option (Except LayoutError (Bool × Finset String))
  | 0, _, _, _ => none
  | fuel + 1, n, cursor, seen =>
      -- `_execute` has turned every `RedisError` into a `RedisClientError`, which
      -- the handler around the loop does not catch
      match execute unicode "scan" (server.scan n cursor) with
      | .error exc => some (.error exc)
      | .ok (cursor, batch) =>
          let seen := seen ∪ batch.toFinset
          if cursor = 0 then some (.ok (true, seen))
          else if validateScanKeyBudget <= seen.card then some (.ok (false, seen))
          else scanLoop server fuel (n + 1) cursor seen

/-- The message when there is no key of the prefix. -/
def noKeysMessage (redisTarget : String) : String :=
  "No Resque keys found at " ++ redisTarget ++ " matching prefix '" ++ scanPattern
    ++ "'. The operator's redis_url may select a different logical DB than the server "
    ++ "writes to, or the live v3.11.0 Resque uses a different prefix. Verify against the "
    ++ "live Redis with `redis-cli -u <redis_url> KEYS 'resque:*'` and update "
    ++ "WORKER_REGISTRY_KEY in src/openstudio_operator/redis_client.py."

/-- What the message says about a scan that was cut off. -/
def completenessNote (scanCompleted : Bool) : String :=
  if scanCompleted then ""
  else
    " NOTE: the observed-keys sample is PARTIAL — the SCAN budget ("
      ++ toString validateScanKeyBudget
      ++ " keys) exhausted before the cursor loop completed, so more 'resque:*' keys exist "
      ++ "than listed (issue #688); the missing-key verdict above is anchored on direct "
      ++ "EXISTS probes, not on this sample."

/-- The message when a key is missing among others of the prefix. -/
def missingKeysMessage (redisTarget : String) (missing : List String) (scanCompleted : Bool)
    (seen : Finset String) : String :=
  let sample := seen.sort.take 5
  "Expected Resque key(s) " ++ Json.pyRepr unicode (.arr (missing.map .str)) ++ " not found at "
    ++ redisTarget ++ "; observed prefix keys: " ++ Json.pyRepr unicode (.arr (sample.map .str))
    ++ (if 5 < seen.card then "..." else "") ++ "." ++ completenessNote scanCompleted
    ++ " The centralized constants in src/openstudio_operator/redis_client.py "
    ++ "(WORKER_REGISTRY_KEY / WORKER_HEARTBEAT_HASH_KEY) do not match the live layout — see "
    ++ "the live-capture procedure in docs/kind-validation.md (#44/#66)."

/-- `validate_key_layout` with at most `fuel` SCAN calls; `none` if the scan has
not ended by then. -/
def validateKeyLayout (redisTarget : String) (server : Server) (fuel : Nat) :
    Option (Except LayoutError Unit) :=
  match missingKeys unicode server [workerRegistryKey, workerHeartbeatHashKey] with
  | .error exc => some (.error exc)
  | .ok missing =>
      if missing.isEmpty then some (.ok ())
      else
        (scanLoop unicode server fuel 0 0 ∅).map fun
          | .error exc => .error exc
          | .ok (scanCompleted, seen) =>
              if seen = ∅ then .error (.operatorConfigError (noKeysMessage redisTarget))
              else
                .error (.operatorConfigError
                  (missingKeysMessage unicode redisTarget missing scanCompleted seen))

end Probe

/-!
## The replies of a server
-/

namespace Server

variable (server : Server)

/-- The cursor of the n-th call: the one of the reply before. -/
def cursorAt : Nat -> Nat
  | 0 => 0
  | n + 1 =>
      match server.scan n (cursorAt n) with
      | .ok (cursor, _) => cursor
      | .error _ => 0

/-- The reply to the n-th call. -/
def reply (n : Nat) : Except String (Nat × List String) := server.scan n (server.cursorAt n)

/-- The keys of a reply. -/
def batch (n : Nat) : Finset String :=
  match server.reply n with
  | .ok (_, keys) => keys.toFinset
  | .error _ => ∅

/-- The keys of the first n replies. -/
def seen : Nat -> Finset String
  | 0 => ∅
  | n + 1 => seen n ∪ server.batch n

/-- The n-th reply ends the scan: it is an error, its cursor is 0, or the keys up
to it reach the budget. -/
def Ends (n : Nat) : Prop :=
  match server.reply n with
  | .error _ => True
  | .ok (cursor, _) => cursor = 0 ∨ validateScanKeyBudget <= (server.seen (n + 1)).card

/-- How many of the first n replies bring no key that is new. -/
def barren : Nat -> Nat
  | 0 => 0
  | n + 1 => barren n + if server.batch n ⊆ server.seen n then 1 else 0

/-- The probes answer, and a key is missing. -/
def Scans (unicode : UnicodeData) : Prop :=
  exists missing, missing ≠ [] ∧
    missingKeys unicode server [workerRegistryKey, workerHeartbeatHashKey] = .ok missing

/-- At most `limit` replies before the end of the scan bring no key that is new. -/
def BarrenWithin (limit : Nat) : Prop :=
  forall n, (forall i, i < n -> ¬ server.Ends i) -> server.barren n <= limit

/-!
## Progress
-/

/-- A reply adds a key or is barren. -/
theorem le_barren_add_card (n : Nat) : n <= server.barren n + (server.seen n).card := by
  induction n with
  | zero => exact Nat.zero_le _
  | succ n ih =>
      have hmono : (server.seen n).card <= (server.seen (n + 1)).card :=
        Finset.card_le_card Finset.subset_union_left
      simp only [barren]
      by_cases hbarren : server.batch n ⊆ server.seen n
      · rw [if_pos hbarren]
        omega
      · rw [if_neg hbarren]
        have hgrows : server.seen n ⊂ server.seen (n + 1) := by
          refine ⟨Finset.subset_union_left, fun hback => hbarren ?_⟩
          exact Finset.Subset.trans Finset.subset_union_right hback
        have hcard := Finset.card_lt_card hgrows
        omega

theorem barren_le (n : Nat) : server.barren n <= n := by
  induction n with
  | zero => exact Nat.le_refl _
  | succ n ih =>
      simp only [barren]
      split <;> omega

/-- A reply that does not end the scan leaves the keys below the budget. -/
theorem card_lt_of_not_ends {n : Nat} (h : ¬ server.Ends n) :
    (server.seen (n + 1)).card < validateScanKeyBudget := by
  unfold Ends at h
  cases hreply : server.reply n with
  | error text =>
      rw [hreply] at h
      exact absurd trivial h
  | ok answer =>
      rw [hreply] at h
      exact Nat.lt_of_not_le fun hcard => h (Or.inr hcard)

/-- As long as the scan has not ended, all replies but `validateScanKeyBudget` of
them are barren. -/
theorem lt_budget_add_barren {n : Nat} (h : forall i, i < n + 1 -> ¬ server.Ends i) :
    n + 1 < validateScanKeyBudget + server.barren (n + 1) := by
  have hprogress := server.le_barren_add_card (n + 1)
  have hcard := server.card_lt_of_not_ends (h n (Nat.lt_succ_self n))
  omega

end Server

/-!
## The loop
-/

section Loop

variable (unicode : UnicodeData) (server : Server)

theorem execute_of_allowed {reply : Type} {command : String}
    (h : readOnlyCommands.contains command.toUpper = true) (answer : Except String reply) :
    execute unicode command answer =
      match answer with
      | .ok reply => .ok reply
      | .error text => .error (.redisClientError (command.toUpper ++ " failed: " ++ text)) := by
  unfold execute
  rw [if_pos h]

theorem scan_allowed : readOnlyCommands.contains "scan".toUpper = true := by decide +kernel

theorem exists_allowed : readOnlyCommands.contains "exists".toUpper = true := by decide +kernel

/-- The loop has ended when a reply that ends it is among its calls. -/
theorem scanLoop_isSome_iff (fuel n : Nat) :
    (scanLoop unicode server fuel n (server.cursorAt n) (server.seen n)).isSome = true <->
      exists i, n <= i ∧ i < n + fuel ∧ server.Ends i := by
  induction fuel generalizing n with
  | zero =>
      constructor
      · intro h
        cases h
      · rintro ⟨i, hle, hlt, _⟩
        omega
  | succ fuel ih =>
      -- the n-th call ends the scan, or one of the later calls does
      have hsplit : (exists i, n <= i ∧ i < n + (fuel + 1) ∧ server.Ends i) <->
          server.Ends n ∨ exists i, n + 1 <= i ∧ i < n + 1 + fuel ∧ server.Ends i := by
        constructor
        · rintro ⟨i, hle, hlt, hends⟩
          by_cases hi : i = n
          · rw [hi] at hends
            exact Or.inl hends
          · exact Or.inr ⟨i, by omega, by omega, hends⟩
        · rintro (hends | ⟨i, hle, hlt, hends⟩)
          · exact ⟨n, Nat.le_refl n, by omega, hends⟩
          · exact ⟨i, by omega, by omega, hends⟩
      rw [hsplit, ← ih (n + 1)]
      simp only [scanLoop, execute_of_allowed unicode scan_allowed]
      cases hreply : server.scan n (server.cursorAt n) with
      | error text =>
          have hends : server.Ends n := by
            simp only [Server.Ends, Server.reply, hreply]
          exact ⟨fun _ => Or.inl hends, fun _ => rfl⟩
      | ok answer =>
          rcases answer with ⟨cursor, keys⟩
          have hcursor : server.cursorAt (n + 1) = cursor := by
            simp only [Server.cursorAt, hreply]
          have hseen : server.seen (n + 1) = server.seen n ∪ keys.toFinset := by
            simp only [Server.seen, Server.batch, Server.reply, hreply]
          have hends : server.Ends n <-> cursor = 0 ∨
              validateScanKeyBudget <= (server.seen (n + 1)).card := by
            simp only [Server.Ends, Server.reply, hreply]
          rw [hends, hcursor, hseen]
          dsimp only
          by_cases hzero : cursor = 0
          · rw [if_pos hzero]
            exact ⟨fun _ => Or.inl (Or.inl hzero), fun _ => rfl⟩
          · rw [if_neg hzero]
            by_cases hcard : validateScanKeyBudget <= (server.seen n ∪ keys.toFinset).card
            · rw [if_pos hcard]
              exact ⟨fun _ => Or.inl (Or.inr hcard), fun _ => rfl⟩
            · rw [if_neg hcard]
              exact ⟨Or.inr, fun h => h.resolve_left (not_or.mpr ⟨hzero, hcard⟩)⟩

/-- The probe has ended when it needs no scan or the scan has ended. -/
theorem validateKeyLayout_isSome_iff (redisTarget : String) (fuel : Nat) :
    (validateKeyLayout unicode redisTarget server fuel).isSome = true <->
      (server.Scans unicode -> exists i, i < fuel ∧ server.Ends i) := by
  have hloop := scanLoop_isSome_iff unicode server fuel 0
  simp only [Nat.zero_le, true_and, Nat.zero_add, Server.cursorAt, Server.seen] at hloop
  unfold validateKeyLayout Server.Scans
  cases hprobe : missingKeys unicode server [workerRegistryKey, workerHeartbeatHashKey] with
  | error exc =>
      refine ⟨?_, fun _ => rfl⟩
      rintro _ ⟨missing, _, hmissing⟩
      cases hmissing
  | ok missing =>
      cases missing with
      | nil =>
          refine ⟨?_, fun _ => rfl⟩
          rintro _ ⟨missing, hne, hmissing⟩
          cases hmissing
          exact absurd rfl hne
      | cons key rest =>
          simp only [List.isEmpty_cons, Bool.false_eq_true, if_false, Option.isSome_map]
          rw [hloop]
          exact ⟨fun h _ => h, fun h => h ⟨key :: rest, List.cons_ne_nil _ _, rfl⟩⟩

end Loop

/-!
## The bound
-/

section Bound

variable (unicode : UnicodeData) (redisTarget : String)

/-- One limit on the SCAN calls serves every server of the family. -/
def BoundedOn (family : Server -> Prop) : Prop :=
  exists limit, forall server, family server ->
    (validateKeyLayout unicode redisTarget server limit).isSome = true

/-- With few barren replies the scan ends. -/
theorem ends_of_barrenWithin {server : Server} {limit : Nat}
    (h : server.BarrenWithin limit) :
    exists i, i < validateScanKeyBudget + limit ∧ server.Ends i := by
  by_contra hnone
  have hopen : forall i, i < validateScanKeyBudget + limit -> ¬ server.Ends i :=
    fun i hi hends => hnone ⟨i, hi, hends⟩
  have hbarren := h _ hopen
  have hlt := @Server.lt_budget_add_barren server (validateScanKeyBudget + limit - 1)
  have hpos : 0 < validateScanKeyBudget := by decide
  rw [Nat.sub_add_cancel (by omega)] at hlt
  have := hlt hopen
  omega

/-- The scans of a family of servers are bounded exactly when their barren replies
are: then each ends within `validateScanKeyBudget` calls more. -/
theorem validate_key_layout_bounded_iff (family : Server -> Prop) :
    BoundedOn unicode redisTarget family <->
      exists limit, forall server, family server -> server.Scans unicode ->
        server.BarrenWithin limit := by
  constructor
  · rintro ⟨limit, hlimit⟩
    refine ⟨limit, fun server hserver hscans n hopen => ?_⟩
    have hsome := hlimit server hserver
    rw [validateKeyLayout_isSome_iff] at hsome
    rcases hsome hscans with ⟨i, hi, hends⟩
    have hn : n <= i := by
      by_contra hlt
      exact hopen i (Nat.lt_of_not_le hlt) hends
    have := server.barren_le n
    omega
  · rintro ⟨limit, hlimit⟩
    refine ⟨validateScanKeyBudget + limit, fun server hserver => ?_⟩
    rw [validateKeyLayout_isSome_iff]
    exact fun hscans => ends_of_barrenWithin (hlimit server hserver hscans)

/-- A database without a key of the prefix, which SCAN walks in `size` steps. -/
def keyspace (size : Nat) : Server where
  keyExists _ := .ok 0
  scan _ cursor := .ok (if cursor + 1 < size then cursor + 1 else 0, [])

theorem keyspace_seen (size n : Nat) : (keyspace size).seen n = ∅ := by
  induction n with
  | zero => rfl
  | succ n ih =>
      simp only [Server.seen, ih]
      rfl

theorem keyspace_cursorAt {size n : Nat} (h : n < size) : (keyspace size).cursorAt n = n := by
  induction n with
  | zero => rfl
  | succ n ih =>
      simp only [Server.cursorAt]
      rw [ih (Nat.lt_of_succ_lt h)]
      exact if_pos h

theorem keyspace_not_ends {size n : Nat} (h : n + 1 < size) : ¬ (keyspace size).Ends n := by
  have hreply : (keyspace size).reply n = .ok (n + 1, []) := by
    unfold Server.reply
    rw [keyspace_cursorAt (Nat.lt_of_succ_lt h)]
    simp only [keyspace, if_pos h]
  unfold Server.Ends
  rw [hreply, keyspace_seen]
  rintro (hzero | hcard)
  · cases hzero
  · exact absurd hcard (by decide)

theorem keyspace_scans (size : Nat) : (keyspace size).Scans unicode := by
  refine ⟨[workerRegistryKey, workerHeartbeatHashKey], List.cons_ne_nil _ _, ?_⟩
  simp only [missingKeys, execute_of_allowed unicode exists_allowed]
  rfl

/-- A scan of `limit + 1` steps is not over after `limit` calls, so no limit serves
every server. -/
theorem validate_key_layout_bounded_counterexample :
    (forall limit, validateKeyLayout UnicodeData.ascii "redis://queue:6379"
      (keyspace (limit + 1)) limit = none) ∧
    ¬ BoundedOn UnicodeData.ascii "redis://queue:6379" (fun _ => True) := by
  have hopen : forall limit, (validateKeyLayout UnicodeData.ascii "redis://queue:6379"
      (keyspace (limit + 1)) limit).isSome ≠ true := by
    intro limit hsome
    rw [validateKeyLayout_isSome_iff] at hsome
    rcases hsome (keyspace_scans UnicodeData.ascii (limit + 1)) with ⟨i, hi, hends⟩
    exact keyspace_not_ends (Nat.succ_lt_succ hi) hends
  constructor
  · exact fun limit => Option.not_isSome_iff_eq_none.mp (hopen limit)
  · rintro ⟨limit, hlimit⟩
    exact hopen limit (hlimit (keyspace (limit + 1)) trivial)

end Bound

end KeyLayout
end OpenStudioOperator
