import OpenStudioOperator.AnalysisSlaEvictionCount
import OpenStudioOperator.Foundation.JsonText
import OpenStudioOperator.Foundation.Program
import OpenStudioOperator.KeyLayout

/-!
# Reads of a moving Redis

The client asks Redis one command at a time, and the workers write between any two of them.
What it reads of the workers on an analysis is no state that Redis was ever in.
-/

namespace OpenStudioOperator
namespace RedisReads

open Foundation
open KeyLayout (LayoutError execute readOnlyCommands workerRegistryKey)
open SlaEviction (Registry WorkerRecord onAnalysis processes readable_of_workersForAnalysis
  visitWorker visitWorker_eq workersForAnalysis_eq)

/-!
## The connection
-/

inductive Value where
  | set (members : List String)
  | hash (fields : List (String × String))
  | text (value : String)
  | list (length : Nat)
deriving DecidableEq, Repr

abbrev Keyspace := String -> Option Value

/-- What the n-th command of a call meets: the keys at its moment, or a `RedisError`. -/
structure Connection where
  keyspace : Nat -> Keyspace
  fault : Nat -> Option String

structure Command where
  name : String
  key : String
deriving DecidableEq, Repr

/-- A call of the client, with the commands that it has sent. -/
abbrev RedisM := Prog Connection LayoutError (List Command)

def wrongType : String := "WRONGTYPE Operation against a key holding the wrong kind of value"

def smembersReply : Option Value -> Except String (List String)
  | none => .ok []
  | some (.set members) => .ok members
  | some _ => .error wrongType

def getReply : Option Value -> Except String (Option String)
  | none => .ok none
  | some (.text value) => .ok (some value)
  | some _ => .error wrongType

def llenReply : Option Value -> Except String Nat
  | none => .ok 0
  | some (.list length) => .ok length
  | some _ => .error wrongType

/-- The answer to the n-th command. -/
def Connection.answer (conn : Connection) (n : Nat) (key : String) {reply : Type}
    (replyOf : Option Value -> Except String reply) : Except String reply :=
  match conn.fault n with
  | some text => .error text
  | none => replyOf (conn.keyspace n key)

section Client

variable (unicode : UnicodeData)

/-- `_execute`: a command that is not allowed is not sent. -/
def send {reply : Type} (name key : String)
    (replyOf : Option Value -> Except String reply) : RedisM reply := fun conn sent =>
  let sent' :=
    if readOnlyCommands.contains name.toUpper then sent ++ [⟨name.toUpper, key⟩] else sent
  match execute unicode name (conn.answer sent.length key replyOf) with
  | .ok reply => .ok reply sent'
  | .error e => .error e sent'

/-!
## The methods
-/

/-- `queue_depth`. -/
def queueDepth (queue : String) : RedisM Nat := send unicode "llen" queue llenReply

def simulationsQueue : String := "resque:queue:simulations"

def requeuedQueue : String := "resque:queue:requeued"

/-- `queue_depths`. -/
def queueDepths : RedisM (List (String × Nat)) := do
  let simulations <- queueDepth unicode simulationsQueue
  let requeued <- queueDepth unicode requeuedQueue
  return [(simulationsQueue, simulations), (requeuedQueue, requeued)]

def workerKey (workerId : String) : String := "resque:worker:" ++ workerId

variable (loads : String -> Option Json)

/-- The body of the loop; `loads` is `json.loads`, where it decodes. -/
def visit (analysisId : String) (matched : List String) (workerId : String) :
    RedisM (List String) := do
  let raw <- send unicode "get" (workerKey workerId) getReply
  match raw with
  | none => return matched
  | some raw =>
      match loads raw with
      | none => throw (.redisClientError ("unparseable worker record for "
          ++ reprStr unicode workerId ++ ": " ++ reprStr unicode raw))
      | some record =>
          return if processes analysisId record then matched ++ [workerId] else matched

/-- `workers_for_analysis`. -/
def workersForAnalysis (analysisId : String) : RedisM (List String) := do
  let workerIds <- send unicode "smembers" workerRegistryKey smembersReply
  workerIds.foldlM (visit unicode loads analysisId) []

end Client

/-!
## One command
-/

/-- Every command that has been sent is on the list. -/
def ReadOnly (sent : List Command) : Prop :=
  forall c, c ∈ sent -> readOnlyCommands.contains c.name = true

section Commands

variable {unicode : UnicodeData} {conn : Connection} {sent : List Command}
variable {reply : Type} {replyOf : Option Value -> Except String reply}

/-- No name whatever makes the client send a command that is not on the list. -/
theorem send_readOnly (name key : String) :
    Prog.Preserves ReadOnly (send unicode name key replyOf) conn := by
  intro sent hsent
  have hsent' : ReadOnly
      (if readOnlyCommands.contains name.toUpper then sent ++ [⟨name.toUpper, key⟩] else sent) := by
    split
    · rename_i hallowed
      intro c hc
      rcases List.mem_append.mp hc with hc | hc
      · exact hsent c hc
      · rw [List.mem_singleton.mp hc]
        exact hallowed
    · exact hsent
  unfold Prog.wp send
  cases execute unicode name (conn.answer sent.length key replyOf) with
  | ok reply => exact hsent'
  | error e => exact hsent'

theorem wp_send {name upper key : String} {Q : reply -> List Command -> Prop}
    {E : LayoutError -> List Command -> Prop} (hupper : name.toUpper = upper)
    (hallowed : readOnlyCommands.contains upper = true)
    (hok : forall r, conn.answer sent.length key replyOf = .ok r -> Q r (sent ++ [⟨upper, key⟩]))
    (herror : forall text, conn.answer sent.length key replyOf = .error text ->
      E (.redisClientError (upper ++ " failed: " ++ text)) (sent ++ [⟨upper, key⟩])) :
    Prog.wp (send unicode name key replyOf) conn sent Q E := by
  unfold Prog.wp send
  simp only [execute, hupper, hallowed, if_true]
  cases hanswer : conn.answer sent.length key replyOf with
  | ok r => exact hok r hanswer
  | error text => exact herror text hanswer

theorem smembers_upper : "smembers".toUpper = "SMEMBERS" := by decide +kernel

theorem get_upper : "get".toUpper = "GET" := by decide +kernel

theorem smembers_allowed : readOnlyCommands.contains "SMEMBERS" = true := by decide +kernel

theorem get_allowed : readOnlyCommands.contains "GET" = true := by decide +kernel

theorem answer_ok {n : Nat} {key : String} {r : reply}
    (h : conn.answer n key replyOf = .ok r) : replyOf (conn.keyspace n key) = .ok r := by
  unfold Connection.answer at h
  split at h
  · cases h
  · exact h

theorem queueDepths_readOnly : Prog.Preserves ReadOnly (queueDepths unicode) conn :=
  (send_readOnly _ _).bind fun _ => (send_readOnly _ _).bind fun _ => .pure _

end Commands

/-!
## The workers on an analysis
-/

section Workers

variable (loads : String -> Option Json) (conn : Connection) (analysisId : String)

/-- At the moment of the n-th command the args of the worker's job contain the id. -/
def namesAt (n : Nat) (workerId : String) : Bool :=
  match conn.keyspace n (workerKey workerId) with
  | some (.text raw) => ((loads raw).map (processes analysisId)).getD false
  | _ => false

/-- The members of the registry at the first command. -/
def registered : List String :=
  match conn.keyspace 0 workerRegistryKey with
  | some (.set members) => members
  | _ => []

/-- The workers that are named at the moment of their own GET, the first at command `n`. -/
def picked (n : Nat) : List String -> List String
  | [] => []
  | workerId :: rest =>
      if namesAt loads conn analysisId n workerId then workerId :: picked (n + 1) rest
      else picked (n + 1) rest

def registryCommand : Command := ⟨"SMEMBERS", workerRegistryKey⟩

def recordCommand (workerId : String) : Command := ⟨"GET", workerKey workerId⟩

variable {loads conn analysisId}

theorem picked_append (xs ys : List String) : forall n,
    picked loads conn analysisId n (xs ++ ys) =
      picked loads conn analysisId n xs ++ picked loads conn analysisId (n + xs.length) ys := by
  induction xs with
  | nil => exact fun _ => rfl
  | cons x xs ih =>
      intro n
      have hn : n + 1 + xs.length = n + (x :: xs).length := by
        rw [List.length_cons]
        omega
      simp only [List.cons_append, picked, ih, hn]
      split <;> rfl

theorem picked_sublist (xs : List String) : forall n,
    (picked loads conn analysisId n xs).Sublist xs := by
  induction xs with
  | nil => exact fun _ => List.Sublist.slnil
  | cons x xs ih =>
      intro n
      simp only [picked]
      split
      · exact (ih _).cons_cons x
      · exact (ih _).cons x

theorem mem_picked_iff {workerId : String} (xs : List String) : forall n,
    workerId ∈ picked loads conn analysisId n xs <->
      exists i, xs[i]? = some workerId ∧ namesAt loads conn analysisId (n + i) workerId = true := by
  induction xs with
  | nil => simp [picked]
  | cons x xs ih =>
      intro n
      have hsplit : workerId ∈ picked loads conn analysisId n (x :: xs) <->
          (x = workerId ∧ namesAt loads conn analysisId n workerId = true) ∨
            workerId ∈ picked loads conn analysisId (n + 1) xs := by
        simp only [picked]
        split
        · rename_i hyes
          rw [List.mem_cons]
          exact or_congr_left ⟨fun h => ⟨h.symm, h ▸ hyes⟩, fun h => h.1.symm⟩
        · rename_i hno
          exact ⟨.inr, fun h => h.resolve_left fun hx => hno (hx.1 ▸ hx.2)⟩
      rw [hsplit, ih]
      constructor
      · rintro (⟨rfl, hnames⟩ | ⟨i, hi, hnames⟩)
        · exact ⟨0, rfl, hnames⟩
        · refine ⟨i + 1, hi, ?_⟩
          rw [Nat.add_comm i 1, <- Nat.add_assoc]
          exact hnames
      · rintro ⟨_ | i, hi, hnames⟩
        · exact .inl ⟨Option.some.inj hi, hnames⟩
        · refine .inr ⟨i, hi, ?_⟩
          rw [Nat.add_assoc, Nat.add_comm 1 i]
          exact hnames

variable (loads conn) in
/-- The GET of a worker at the n-th command is answered, and its record decodes. -/
def Readable (n : Nat) (workerId : String) : Prop :=
  exists raw, conn.answer n (workerKey workerId) getReply = .ok raw ∧
    forall text, raw = some text -> (loads text).isSome = true

/-- The commands of a call for these workers. -/
def commandsFor (workerIds : List String) : List Command :=
  registryCommand :: workerIds.map recordCommand

theorem length_commandsFor (workerIds : List String) :
    (commandsFor workerIds).length = 1 + workerIds.length := by
  rw [commandsFor, List.length_cons, List.length_map, Nat.add_comm]

theorem commandsFor_append (xs : List String) (workerId : String) :
    commandsFor (xs ++ [workerId]) = commandsFor xs ++ [recordCommand workerId] := by
  simp [commandsFor]

theorem readOnly_commandsFor (workerIds : List String) : ReadOnly (commandsFor workerIds) := by
  intro c hc
  rcases List.mem_cons.mp hc with rfl | hc
  · exact smembers_allowed
  · rcases List.mem_map.mp hc with ⟨workerId, _, rfl⟩
    exact get_allowed

theorem registered_eq {members : List String}
    (h : conn.answer 0 workerRegistryKey smembersReply = .ok members) :
    registered conn = members := by
  have hreply := answer_ok h
  unfold registered
  unfold smembersReply at hreply
  split at hreply
  · rename_i hnone
    rw [hnone]
    exact Except.ok.inj hreply
  · rename_i found hset
    rw [hset]
    exact Except.ok.inj hreply
  · cases hreply

/-- What a call returns: each worker of the registry is asked for once, in order, and counts
when its own answer names the id. -/
def Returns (loads : String -> Option Json) (conn : Connection) (analysisId : String)
    (found : List String) (sent : List Command) : Prop :=
  sent = commandsFor (registered conn) ∧
    found = picked loads conn analysisId 1 (registered conn) ∧
    forall i workerId, (registered conn)[i]? = some workerId -> Readable loads conn (1 + i) workerId

/-- Why a call raises, always a `RedisClientError`. -/
def Raises (loads : String -> Option Json) (conn : Connection) (e : LayoutError)
    (sent : List Command) : Prop :=
  (exists message, e = .redisClientError message) ∧ ReadOnly sent ∧
    ((exists text, conn.answer 0 workerRegistryKey smembersReply = .error text) ∨
      exists i workerId, (registered conn)[i]? = some workerId ∧
        ¬ Readable loads conn (1 + i) workerId)

/-- One pass of the loop. -/
theorem wp_visit {unicode : UnicodeData} {matched : List String} {sent : List Command}
    {workerId : String} {Q : List String -> List Command -> Prop}
    {E : LayoutError -> List Command -> Prop}
    (hok : Readable loads conn sent.length workerId ->
      Q (matched ++ picked loads conn analysisId sent.length [workerId])
        (sent ++ [recordCommand workerId]))
    (herror : ¬ Readable loads conn sent.length workerId -> forall message,
      E (.redisClientError message) (sent ++ [recordCommand workerId])) :
    Prog.wp (visit unicode loads analysisId matched workerId) conn sent Q E := by
  unfold visit
  rw [Prog.wp_bind]
  have hkeyspace {raw : Option String}
      (h : conn.answer sent.length (workerKey workerId) getReply = .ok raw) :
      conn.keyspace sent.length (workerKey workerId) = raw.map .text := by
    have hreply := answer_ok h
    unfold getReply at hreply
    split at hreply
    · rename_i hkey
      rw [hkey, <- Except.ok.inj hreply]
      rfl
    · rename_i value hkey
      rw [hkey, <- Except.ok.inj hreply]
      rfl
    · cases hreply
  apply wp_send get_upper get_allowed
  · intro raw hraw
    cases raw with
    | none =>
        have hpicked : picked loads conn analysisId sent.length [workerId] = [] := by
          simp [picked, namesAt, hkeyspace hraw]
        have hthis := hok ⟨none, hraw, fun _ h => nomatch h⟩
        rw [hpicked, List.append_nil] at hthis
        exact hthis
    | some text =>
        cases hloads : loads text with
        | none =>
            have hbroken : ¬ Readable loads conn sent.length workerId := by
              rintro ⟨raw, hraw', hdecodes⟩
              rw [hraw] at hraw'
              have hsome := hdecodes text (Except.ok.inj hraw').symm
              rw [hloads] at hsome
              cases hsome
            simp only [hloads]
            exact herror hbroken _
        | some record =>
            have hreadable : Readable loads conn sent.length workerId := by
              refine ⟨some text, hraw, fun t ht => ?_⟩
              rw [<- Option.some.inj ht, hloads]
              rfl
            have hpicked : picked loads conn analysisId sent.length [workerId] =
                if processes analysisId record then [workerId] else [] := by
              simp [picked, namesAt, hkeyspace hraw, hloads]
            have hthis := hok hreadable
            rw [hpicked] at hthis
            simp only [hloads]
            have hmatched :
                (if processes analysisId record then matched ++ [workerId] else matched) =
                  matched ++ if processes analysisId record then [workerId] else [] := by
              split
              · rfl
              · rw [List.append_nil]
            rw [Prog.wp_pure, hmatched]
            exact hthis
  · intro text htext
    refine herror ?_ _
    rintro ⟨raw, hraw, _⟩
    rw [htext] at hraw
    cases hraw

theorem wp_workersForAnalysis (unicode : UnicodeData) :
    Prog.wp (workersForAnalysis unicode loads analysisId) conn []
      (Returns loads conn analysisId) (Raises loads conn) := by
  unfold workersForAnalysis
  rw [Prog.wp_bind]
  apply wp_send smembers_upper smembers_allowed
  · intro members hmembers
    have hregistered := registered_eq hmembers
    apply Prog.wp_foldlM (fun rest matched sent => exists asked,
      registered conn = asked ++ rest ∧ sent = commandsFor asked ∧
        matched = picked loads conn analysisId 1 asked ∧
        forall i workerId, asked[i]? = some workerId -> Readable loads conn (1 + i) workerId)
    · rintro workerId rest matched sent ⟨asked, hsplit, rfl, rfl, hreadable⟩
      have hposition : (registered conn)[asked.length]? = some workerId := by
        rw [hsplit]
        simp
      apply wp_visit
      · intro hthis
        rw [length_commandsFor] at hthis
        refine ⟨asked ++ [workerId], by simp [hsplit], (commandsFor_append _ _).symm, ?_, ?_⟩
        · rw [picked_append, length_commandsFor]
        · intro i workerId' hi
          by_cases hlt : i < asked.length
          · rw [List.getElem?_append_left hlt] at hi
            exact hreadable i workerId' hi
          · have heq : i = asked.length := by
              have := (List.getElem?_eq_some_iff.mp hi).1
              simp only [List.length_append, List.length_singleton] at this
              omega
            subst heq
            rw [List.getElem?_concat_length] at hi
            rw [<- Option.some.inj hi]
            exact hthis
      · intro hbroken message
        rw [length_commandsFor] at hbroken
        refine ⟨⟨message, rfl⟩, ?_, .inr ⟨_, workerId, hposition, hbroken⟩⟩
        rw [<- commandsFor_append]
        exact readOnly_commandsFor _
    · rintro matched sent ⟨asked, hsplit, hsent, hmatched, hreadable⟩
      rw [List.append_nil] at hsplit
      rw [Returns, hsplit]
      exact ⟨hsent, hmatched, hreadable⟩
    · exact ⟨[], hregistered, rfl, rfl, fun _ _ h => nomatch h⟩
  · intro text htext
    exact ⟨⟨_, rfl⟩, readOnly_commandsFor [], .inl ⟨text, htext⟩⟩

end Workers

/-!
## A Redis that keeps still
-/

section Quiet

variable (loads : String -> Option Json)

def recordOf : Option Value -> Option WorkerRecord
  | some (.text raw) => some ((loads raw).elim .unparseable .document)
  | _ => none

/-- The registry that a state of Redis holds. -/
def snapshot (keys : Keyspace) : Registry where
  workers :=
    match keys workerRegistryKey with
    | some (.set members) => members
    | _ => []
  record := fun workerId => recordOf loads (keys (workerKey workerId))

/-- Nobody writes, no command fails, and the keys have the types that Resque gives them. -/
structure Quiet (conn : Connection) (keys : Keyspace) : Prop where
  still : forall n, conn.keyspace n = keys
  sound : forall n, conn.fault n = none
  registry : exists members, smembersReply (keys workerRegistryKey) = .ok members
  records : forall workerId, exists raw, getReply (keys (workerKey workerId)) = .ok raw

variable {loads} {conn : Connection} {keys : Keyspace} {analysisId : String}

theorem Quiet.registered_eq (h : Quiet conn keys) :
    registered conn = (snapshot loads keys).workers := by
  rw [registered, h.still]
  rfl

theorem Quiet.namesAt_eq (h : Quiet conn keys) (n : Nat) (workerId : String) :
    namesAt loads conn analysisId n workerId =
      onAnalysis (snapshot loads keys) analysisId workerId := by
  simp only [namesAt, onAnalysis, snapshot, h.still]
  cases keys (workerKey workerId) with
  | none => rfl
  | some value =>
      cases value with
      | text raw => cases hloads : loads raw <;> simp [recordOf, hloads]
      | set _ => rfl
      | hash _ => rfl
      | list _ => rfl

theorem Quiet.picked_eq (h : Quiet conn keys) (workerIds : List String) : forall n,
    picked loads conn analysisId n workerIds =
      workerIds.filter (onAnalysis (snapshot loads keys) analysisId) := by
  induction workerIds with
  | nil => exact fun _ => rfl
  | cons workerId rest ih =>
      intro n
      simp only [picked, List.filter_cons, ih, h.namesAt_eq]

/-- A worker can be read exactly when its record in the snapshot decodes. -/
theorem Quiet.readable_iff (h : Quiet conn keys) (n : Nat) (workerId : String) :
    Readable loads conn n workerId <->
      (snapshot loads keys).record workerId ≠ some .unparseable := by
  rcases h.records workerId with ⟨raw, hraw⟩
  have hanswer : conn.answer n (workerKey workerId) getReply = .ok raw := by
    rw [Connection.answer, h.sound, h.still]
    exact hraw
  have hiff : Readable loads conn n workerId <->
      forall text, raw = some text -> (loads text).isSome = true := by
    constructor
    · rintro ⟨raw', hraw', hdecodes⟩
      rw [hanswer] at hraw'
      exact Except.ok.inj hraw' ▸ hdecodes
    · exact fun hdecodes => ⟨raw, hanswer, hdecodes⟩
  rw [hiff]
  simp only [snapshot]
  unfold getReply at hraw
  split at hraw
  · rename_i hkey
    simp [hkey, <- Except.ok.inj hraw, recordOf]
  · rename_i text hkey
    simp only [hkey, <- Except.ok.inj hraw, recordOf]
    cases hloads : loads text <;> simp [hloads]
  · cases hraw

/-- A record that does not decode stops the read. -/
theorem error_of_unparseable {registry : Registry} {workerId : String}
    (hmem : workerId ∈ registry.workers) (hrecord : registry.record workerId = some .unparseable) :
    registry.workersForAnalysis analysisId = .error .redisClientError := by
  have hloop : forall (workers matched : List String), workerId ∈ workers ->
      workers.foldlM (visitWorker registry analysisId) matched = .error .redisClientError := by
    intro workers
    induction workers with
    | nil => exact fun _ h => nomatch h
    | cons first rest ih =>
        intro matched hmem
        rw [List.foldlM_cons]
        by_cases hfirst : registry.record first = some .unparseable
        · rw [visitWorker, hfirst]
          rfl
        · rw [visitWorker_eq matched hfirst]
          refine ih _ ((List.mem_cons.mp hmem).resolve_left ?_)
          rintro rfl
          exact hfirst hrecord
  exact hloop _ _ hmem

/-- Where Redis keeps still during a call, the call agrees with one read of the whole registry
at once. -/
theorem workers_for_analysis_quiet (unicode : UnicodeData) (h : Quiet conn keys) :
    match workersForAnalysis unicode loads analysisId conn [] with
    | .ok found _ => (snapshot loads keys).workersForAnalysis analysisId = .ok found
    | .error _ _ =>
        (snapshot loads keys).workersForAnalysis analysisId = .error .redisClientError := by
  have hcall := @wp_workersForAnalysis loads conn analysisId unicode
  unfold Prog.wp at hcall
  have hregistered := @Quiet.registered_eq loads conn keys h
  cases hrun : workersForAnalysis unicode loads analysisId conn [] with
  | ok found sent =>
      rw [hrun] at hcall
      rcases hcall with ⟨_, rfl, hreadable⟩
      rw [hregistered] at hreadable
      have hregistry : (snapshot loads keys).Readable := by
        intro workerId hmem record hrecord
        rcases List.getElem?_of_mem hmem with ⟨i, hi⟩
        have hparses := (h.readable_iff _ workerId).mp (hreadable i workerId hi)
        cases record with
        | unparseable => exact absurd hrecord hparses
        | document json => exact ⟨json, rfl⟩
      simp only
      rw [workersForAnalysis_eq hregistry, h.picked_eq, hregistered]
  | error e sent =>
      rw [hrun] at hcall
      rcases hcall with ⟨_, _, ⟨text, htext⟩ | ⟨i, workerId, hi, hbroken⟩⟩
      · rcases h.registry with ⟨members, hmembers⟩
        rw [Connection.answer, h.sound, h.still, hmembers] at htext
        cases htext
      · rw [h.readable_iff, not_not] at hbroken
        rw [hregistered] at hi
        exact error_of_unparseable (List.mem_of_getElem? hi) hbroken

end Quiet

/-- A worker on a job of the analysis. -/
def oneJob : Keyspace := fun key =>
  if key = workerRegistryKey then some (.set ["worker-0:7:simulations"])
  else some (.text "\x7b\"payload\": \x7b\"args\": [\"a\", \"dp\"]\x7d\x7d")

def stillConnection : Connection where
  keyspace := fun _ => oneJob
  fault := fun _ => none

/-- `json.loads` of a text without floats. -/
def loadsText (raw : String) : Option Json :=
  JsonText.loads (fun _ => .infinite false) raw.toList

theorem quiet_stillConnection : Quiet stillConnection oneJob where
  still := fun _ => rfl
  sound := fun _ => rfl
  registry := ⟨["worker-0:7:simulations"], by decide +kernel⟩
  records := by
    intro workerId
    have hne : workerKey workerId ≠ workerRegistryKey := by
      intro heq
      have hchars := congrArg (fun s => (s.toList)[13]?) heq
      simp [workerKey, workerRegistryKey] at hchars
    exact ⟨_, by rw [oneJob, if_neg hne, getReply]⟩

theorem workers_for_analysis_quiet_oneJob :
    (snapshot loadsText oneJob).workersForAnalysis "a" = .ok ["worker-0:7:simulations"] := by
  have hcall := @workers_for_analysis_quiet loadsText stillConnection oneJob "a"
    UnicodeData.ascii quiet_stillConnection
  have hfound : (match workersForAnalysis UnicodeData.ascii loadsText "a" stillConnection [] with
      | .ok found _ => some found
      | .error _ _ => none) = some ["worker-0:7:simulations"] := by
    decide +kernel
  cases hrun : workersForAnalysis UnicodeData.ascii loadsText "a" stillConnection [] with
  | error e sent =>
      rw [hrun] at hfound
      cases hfound
  | ok found sent =>
      rw [hrun] at hcall hfound
      rw [<- Option.some.inj hfound]
      exact hcall

end RedisReads
end OpenStudioOperator
