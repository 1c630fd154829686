import OpenStudioOperator.Foundation.Program

/-!
# The REST client

Every call of the client goes through one request loop.  A `GET` is tried again
after a transient failure, with a backoff before each further attempt; every
other method is meant to be sent once, since the server may have committed the
first request before the failure was seen.

The transport answers the n-th attempt of a call.  A call keeps a log of what
it did, newest step first.
-/

namespace OpenStudioOperator
namespace OpenStudioClient

open Foundation

/-!
## Requests and outcomes
-/

structure Response where
  statusCode : Nat
  text : String
deriving DecidableEq, Repr

/-- An exception of the transport: its class name and its text. -/
structure TransportException where
  className : String
  text : String
deriving DecidableEq, Repr

/-- The outcome of one HTTP attempt.  `transient` is an exception of one of the
classes in `_TRANSIENT_EXCEPTIONS`, `raised` any other exception. -/
inductive TransportOutcome where
  | response (response : Response)
  | transient (exc : TransportException)
  | raised (exc : TransportException)
deriving DecidableEq, Repr

inductive RequestError where
  | openStudioApiError (message : String) (cause : Option TransportException)
  | raised (exc : TransportException)
deriving DecidableEq, Repr

structure Request where
  method : String
  path : String
  params : List (String × String) := []
  data : List (String × String) := []
deriving DecidableEq, Repr

inductive ClientStep where
  | countRetry (method : String)
  | sleep (retry : Nat)
  | send (method url : String) (params data : List (String × String))
deriving DecidableEq, Repr

structure Client where
  base : String
  maxRetries : Nat := 3
deriving DecidableEq, Repr

/-- The client of a server URL; trailing slashes of the URL are dropped. -/
def Client.ofUrl (baseUrl : String) (maxRetries : Nat) : Client where
  base := String.ofList (baseUrl.toList.reverse.dropWhile (· == '/')).reverse
  maxRetries := maxRetries

abbrev ClientProg := Prog (Nat -> TransportOutcome) RequestError (List ClientStep)

def record (step : ClientStep) : ClientProg Unit :=
  modify (step :: ·)

/-- The texts of responses are cut to 200 characters in messages. -/
def shortText (response : Response) : String :=
  String.ofList (response.text.toList.take 200)

/-- `GET` requests are recognised in either case, as the transport does. -/
def Request.isGet (request : Request) : Bool :=
  request.method.toUpper == "GET"

/-!
## The request loop
-/

/-- One HTTP attempt, after the backoff when it is not the first. -/
def Client.attempt (client : Client) (request : Request) (n : Nat) :
    ClientProg TransportOutcome := do
  if n ≠ 0 then
    record (.countRetry request.method.toUpper)
    record (.sleep n)
  record (.send request.method (client.base ++ request.path) request.params request.data)
  return (<- read) n

def Client.requestLoop (client : Client) (request : Request) :
    List Nat -> String -> Option TransportException -> ClientProg Response
  | [], lastError, lastExc =>
      throw (.openStudioApiError
        (request.method ++ " " ++ request.path ++ " failed after "
          ++ toString (client.maxRetries + 1) ++ " attempts: " ++ lastError) lastExc)
  | n :: rest, _, _ => do
      match <- client.attempt request n with
      | .raised exc => throw (.raised exc)
      -- The loop goes on here whatever the method is.
      | .transient exc =>
          client.requestLoop request rest (exc.className ++ ": " ++ exc.text) (some exc)
      | .response response =>
          if response.statusCode < 400 then
            return response
          else if response.statusCode < 500 then
            throw (.openStudioApiError
              (request.method ++ " " ++ request.path ++ " returned HTTP "
                ++ toString response.statusCode ++ ": " ++ shortText response) none)
          else if request.isGet = false then
            throw (.openStudioApiError
              (request.method ++ " " ++ request.path ++ " returned HTTP "
                ++ toString response.statusCode
                ++ " (no retry: non-GET verb is non-idempotent per RFC 9110 §9.2.2, see issue #226): "
                ++ shortText response) none)
          else
            client.requestLoop request rest ("HTTP " ++ toString response.statusCode) none

def Client.request (client : Client) (request : Request) : ClientProg Response :=
  client.requestLoop request (List.range (client.maxRetries + 1)) "" none

def Client.softStopAnalysis (client : Client) (analysisId : String) : ClientProg Response :=
  client.request { method := "GET", path := "/analyses/" ++ analysisId ++ "/soft_stop" }

def Client.stopAnalysis (client : Client) (analysisId : String) : ClientProg Response :=
  client.request { method := "POST", path := "/analyses/" ++ analysisId ++ "/action",
                   data := [("analysis_action", "stop")] }

def Client.requeueDatapoint (client : Client) (datapointId : String) : ClientProg Response :=
  client.request { method := "POST", path := "/data_points/" ++ datapointId ++ "/requeue" }

def Client.deleteAnalysis (client : Client) (analysisId : String) : ClientProg Response :=
  client.request { method := "DELETE", path := "/analyses/" ++ analysisId }

/-!
## What a call shows

A call is judged by its result and by the requests that it sent.
-/

def ClientStep.isSend : ClientStep -> Bool
  | .send .. => true
  | _ => false

/-- The number of HTTP attempts in a log. -/
def sends (log : List ClientStep) : Nat :=
  log.countP ClientStep.isSend

def Client.call (client : Client) (request : Request)
    (transport : Nat -> TransportOutcome) : Except RequestError Response × List ClientStep :=
  match client.request request transport [] with
  | .ok response log => (.ok response, log)
  | .error err log => (.error err, log)

def ApiError (result : Except RequestError Response) : Prop :=
  exists message cause, result = .error (.openStudioApiError message cause)

/-- The result that a final outcome stands for: the response itself below 400,
an API error otherwise. -/
def EndsWith : TransportOutcome -> Except RequestError Response -> Prop
  | .response response, result =>
      (response.statusCode < 400 -> result = .ok response) ∧
        (400 <= response.statusCode -> ApiError result)
  | _, result => ApiError result

/-- A status below 500 settles a `GET`; every status from 500 on is a server
error. -/
def Settled (outcome : TransportOutcome) : Prop :=
  exists response, outcome = .response response ∧ response.statusCode < 500

def ServerError (outcome : TransportOutcome) : Prop :=
  exists response, outcome = .response response ∧ 500 <= response.statusCode

def Transient (outcome : TransportOutcome) : Prop :=
  exists exc, outcome = .transient exc

/-- The transport answers with a response or a transient exception. -/
def Regular (outcome : TransportOutcome) : Prop :=
  forall exc, outcome ≠ .raised exc

/-- The loop goes on after this outcome. -/
def goesOn (request : Request) : TransportOutcome -> Bool
  | .response response => request.isGet && !decide (response.statusCode < 500)
  | .transient _ => true
  | .raised _ => false

/-!
## The run of the loop
-/

@[simp] theorem sends_nil : sends [] = 0 := rfl

@[simp] theorem sends_send (method url : String) (params data : List (String × String))
    (log : List ClientStep) :
    sends (.send method url params data :: log) = sends log + 1 := by
  exact List.countP_cons_of_pos rfl

@[simp] theorem sends_sleep (retry : Nat) (log : List ClientStep) :
    sends (.sleep retry :: log) = sends log := by
  simp [sends, ClientStep.isSend]

@[simp] theorem sends_countRetry (method : String) (log : List ClientStep) :
    sends (.countRetry method :: log) = sends log := by
  simp [sends, ClientStep.isSend]

/-- A program ends with a result and a log that satisfy `P`. -/
def Yields (m : ClientProg Response) (transport : Nat -> TransportOutcome)
    (log : List ClientStep) (P : Except RequestError Response -> List ClientStep -> Prop) :
    Prop :=
  Prog.wp m transport log (fun response => P (.ok response)) (fun err => P (.error err))

theorem wp_record (step : ClientStep) (transport : Nat -> TransportOutcome)
    (log : List ClientStep) (Q : Unit -> List ClientStep -> Prop)
    (E : RequestError -> List ClientStep -> Prop) :
    Prog.wp (record step) transport log Q E <-> Q () (step :: log) := Iff.rfl

/-- One attempt sends one request and returns the transport's answer. -/
theorem wp_attempt (client : Client) (request : Request) (n : Nat)
    (transport : Nat -> TransportOutcome) (log : List ClientStep)
    (E : RequestError -> List ClientStep -> Prop) :
    Prog.wp (client.attempt request n) transport log
      (fun outcome log' => outcome = transport n ∧ sends log' = sends log + 1) E := by
  unfold Client.attempt
  by_cases hn : n = 0
  · simp only [hn, ne_eq, not_true_eq_false, if_false, Prog.wp_bind, wp_record,
      Prog.wp_read, Prog.wp_pure, sends_send, and_self]
  · simp only [hn, ne_eq, not_false_eq_true, if_true, Prog.wp_bind, wp_record,
      Prog.wp_read, Prog.wp_pure, sends_send, sends_sleep, sends_countRetry, and_self]

/-- After an outcome that does not end it, the loop is at the next attempt. -/
theorem loop_goesOn {client : Client} {request : Request} {n : Nat} {rest : List Nat}
    {transport : Nat -> TransportOutcome} {log : List ClientStep}
    {P : Except RequestError Response -> List ClientStep -> Prop}
    (hon : goesOn request (transport n) = true)
    (h : forall lastError lastExc log', sends log' = sends log + 1 ->
      Yields (client.requestLoop request rest lastError lastExc) transport log' P)
    (lastError : String) (lastExc : Option TransportException) :
    Yields (client.requestLoop request (n :: rest) lastError lastExc) transport log P := by
  unfold Yields Client.requestLoop
  rw [Prog.wp_bind]
  apply Prog.wp_mono (wp_attempt client request n transport log (fun _ _ => False))
  · intro outcome log' hattempt
    rw [← hattempt.1] at hon
    cases outcome with
    | raised exc => exact absurd hon (by simp [goesOn])
    | transient exc => exact h _ _ log' hattempt.2
    | response response =>
        have hget : request.isGet = true ∧ ¬ response.statusCode < 500 := by
          simpa [goesOn] using hon
        have hlow : ¬ response.statusCode < 400 := by omega
        simp only [hlow, hget.2, hget.1, if_false, Bool.true_eq_false]
        exact h _ _ log' hattempt.2
  · intro err log' hfalse
    exact hfalse.elim

/-- An outcome that ends the loop decides its result. -/
theorem loop_ends {client : Client} {request : Request} {n : Nat} {rest : List Nat}
    {transport : Nat -> TransportOutcome} {log : List ClientStep}
    (hregular : Regular (transport n)) (hon : goesOn request (transport n) = false)
    (lastError : String) (lastExc : Option TransportException) :
    Yields (client.requestLoop request (n :: rest) lastError lastExc) transport log
      (fun result log' => EndsWith (transport n) result ∧ sends log' = sends log + 1) := by
  unfold Yields Client.requestLoop
  rw [Prog.wp_bind]
  apply Prog.wp_mono (wp_attempt client request n transport log (fun _ _ => False))
  · intro outcome log' hattempt
    rw [← hattempt.1] at hon hregular ⊢
    cases outcome with
    | raised exc => exact absurd rfl (hregular exc)
    | transient exc => exact absurd hon (by simp [goesOn])
    | response response =>
        by_cases hlow : response.statusCode < 400
        · simp only [hlow, if_true, Prog.wp_pure]
          exact ⟨⟨fun _ => rfl, fun hhigh => absurd hlow (by omega)⟩, hattempt.2⟩
        · have hfails : forall message,
              EndsWith (.response response)
                (.error (.openStudioApiError message none)) :=
            fun message => ⟨fun h => absurd h hlow, fun _ => ⟨message, none, rfl⟩⟩
          by_cases hclient : response.statusCode < 500
          · simp only [hlow, hclient, if_true, if_false, Prog.wp_throw]
            exact ⟨hfails _, hattempt.2⟩
          · have hget : request.isGet = false := by
              cases hcase : request.isGet with
              | false => rfl
              | true => exact absurd hon (by simp [goesOn, hcase, hclient])
            simp only [hlow, hclient, hget, if_true, if_false, Prog.wp_throw]
            exact ⟨hfails _, hattempt.2⟩
  · intro err log' hfalse
    exact hfalse.elim

/-- The run of the loop over consecutive attempts: it goes on up to some
attempt, and that one ends it, unless there was none left. -/
theorem loop_run (client : Client) (request : Request)
    {transport : Nat -> TransportOutcome} (hregular : forall n, Regular (transport n)) :
    forall (m n : Nat) (log : List ClientStep) (lastError : String)
      (lastExc : Option TransportException),
      Yields (client.requestLoop request (List.range' n m) lastError lastExc) transport log
        (fun result log' => exists k, k <= m ∧
          (forall i, i < k -> goesOn request (transport (n + i)) = true) ∧
          ((k < m ∧ goesOn request (transport (n + k)) = false ∧
              EndsWith (transport (n + k)) result ∧ sends log' = sends log + k + 1) ∨
            (k = m ∧ ApiError result ∧ sends log' = sends log + k))) := by
  intro m
  induction m with
  | zero =>
      intro n log lastError lastExc
      exact ⟨0, Nat.le_refl 0, fun i hi => absurd hi (Nat.not_lt_zero i),
        Or.inr ⟨rfl, ⟨_, _, rfl⟩, rfl⟩⟩
  | succ m ih =>
      intro n log lastError lastExc
      rw [List.range'_succ]
      cases hon : goesOn request (transport n) with
      | false =>
          apply Prog.wp_mono (loop_ends (hregular n) hon lastError lastExc)
          · intro response log' h
            exact ⟨0, Nat.zero_le _, fun i hi => absurd hi (Nat.not_lt_zero i),
              Or.inl ⟨Nat.succ_pos m, hon, h.1, h.2⟩⟩
          · intro err log' h
            exact ⟨0, Nat.zero_le _, fun i hi => absurd hi (Nat.not_lt_zero i),
              Or.inl ⟨Nat.succ_pos m, hon, h.1, h.2⟩⟩
      | true =>
          apply loop_goesOn hon
          intro lastError' lastExc' log' hlog'
          -- the attempts of the rest, counted from this one
          have hshift : forall result log'',
              (exists k, k <= m ∧
                (forall i, i < k -> goesOn request (transport (n + 1 + i)) = true) ∧
                ((k < m ∧ goesOn request (transport (n + 1 + k)) = false ∧
                    EndsWith (transport (n + 1 + k)) result ∧
                    sends log'' = sends log' + k + 1) ∨
                  (k = m ∧ ApiError result ∧ sends log'' = sends log' + k))) ->
              exists k, k <= m + 1 ∧
                (forall i, i < k -> goesOn request (transport (n + i)) = true) ∧
                ((k < m + 1 ∧ goesOn request (transport (n + k)) = false ∧
                    EndsWith (transport (n + k)) result ∧ sends log'' = sends log + k + 1) ∨
                  (k = m + 1 ∧ ApiError result ∧ sends log'' = sends log + k)) := by
            intro result log'' h
            rcases h with ⟨k, hk, hons, hend⟩
            have hnext : n + (k + 1) = n + 1 + k := by omega
            have hall : forall i, i < k + 1 -> goesOn request (transport (n + i)) = true := by
              intro i hi
              cases i with
              | zero => exact hon
              | succ i =>
                  have hi' : n + (i + 1) = n + 1 + i := by omega
                  rw [hi']
                  exact hons i (by omega)
            constructor
            constructor
            · exact Nat.succ_le_succ hk
            constructor
            · exact hall
            rw [hnext]
            rcases hend with ⟨hlt, hoff, hresult, hsends⟩ | ⟨heq, hresult, hsends⟩
            · exact Or.inl ⟨Nat.succ_lt_succ hlt, hoff, hresult, by omega⟩
            · exact Or.inr ⟨by omega, hresult, by omega⟩
          exact Prog.wp_mono (ih (n + 1) log' lastError' lastExc')
            (fun response log'' h => hshift _ log'' h) (fun err log'' h => hshift _ log'' h)

/-- A whole call: `k` attempts after which it went on, and one more that ended
it, unless they were all that the client makes. -/
theorem call_run (client : Client) (request : Request)
    {transport : Nat -> TransportOutcome} (hregular : forall n, Regular (transport n)) :
    exists k, k <= client.maxRetries + 1 ∧
      (forall i, i < k -> goesOn request (transport i) = true) ∧
      ((k < client.maxRetries + 1 ∧ goesOn request (transport k) = false ∧
          EndsWith (transport k) (client.call request transport).1 ∧
          sends (client.call request transport).2 = k + 1) ∨
        (k = client.maxRetries + 1 ∧ ApiError (client.call request transport).1 ∧
          sends (client.call request transport).2 = k)) := by
  have hrun := loop_run client request hregular
    (client.maxRetries + 1) 0 [] "" none
  rw [← List.range_eq_range'] at hrun
  unfold Yields Prog.wp at hrun
  unfold Client.call Client.request
  simp only [Nat.zero_add, sends_nil] at hrun
  cases hcall : client.requestLoop request (List.range (client.maxRetries + 1)) "" none
      transport [] with
  | ok response log =>
      rw [hcall] at hrun
      exact hrun
  | error err log =>
      rw [hcall] at hrun
      exact hrun

/-!
## The discipline of the client
-/

/-- A call that sends one request and ends with its outcome. -/
structure SingleAttempt (transport : Nat -> TransportOutcome)
    (call : Except RequestError Response × List ClientStep) : Prop where
  sent : sends call.2 = 1
  result : EndsWith (transport 0) call.1

/-- A call with at most `maxRetries` further attempts, each after a transient
exception or a server error. -/
structure BoundedRetries (maxRetries : Nat) (transport : Nat -> TransportOutcome)
    (call : Except RequestError Response × List ClientStep) : Prop where
  sent_le : sends call.2 <= maxRetries + 1
  again : forall n, n + 1 < sends call.2 ->
    Transient (transport n) ∨ ServerError (transport n)
  first_settled : forall n, n <= maxRetries -> Settled (transport n) ->
    (forall i, i < n -> ¬ Settled (transport i)) -> EndsWith (transport n) call.1
  none_settled : (forall n, n <= maxRetries -> ¬ Settled (transport n)) -> ApiError call.1

/-- The discipline of the client for one call. -/
def Disciplined (client : Client) (request : Request)
    (transport : Nat -> TransportOutcome) : Prop :=
  if request.isGet then
    BoundedRetries client.maxRetries transport (client.call request transport)
  else
    SingleAttempt transport (client.call request transport)

theorem goesOn_get {request : Request} (hget : request.isGet = true)
    (outcome : TransportOutcome) :
    goesOn request outcome = true <-> Transient outcome ∨ ServerError outcome := by
  cases outcome <;> simp [goesOn, Transient, ServerError, hget]

theorem goesOn_mutating {request : Request} (hget : request.isGet = false)
    (outcome : TransportOutcome) :
    goesOn request outcome = true <-> Transient outcome := by
  cases outcome <;> simp [goesOn, Transient, hget]

theorem not_settled {outcome : TransportOutcome}
    (h : Transient outcome ∨ ServerError outcome) : ¬ Settled outcome := by
  intro hsettled
  rcases hsettled with ⟨response, hresponse, hlow⟩
  rcases h with ⟨exc, hexc⟩ | ⟨response', hresponse', hhigh⟩
  · rw [hresponse] at hexc
    cases hexc
  · rw [hresponse] at hresponse'
    cases hresponse'
    omega

theorem settled_of_ends {request : Request} (hget : request.isGet = true)
    {outcome : TransportOutcome} (hregular : Regular outcome)
    (hoff : goesOn request outcome = false) : Settled outcome := by
  cases outcome with
  | response response => exact ⟨response, rfl, by simpa [goesOn, hget] using hoff⟩
  | transient exc => cases hoff
  | raised exc => exact absurd rfl (hregular exc)

/-- A `GET` keeps the discipline whatever the transport does. -/
theorem get_bounded (client : Client) {request : Request} (hget : request.isGet = true)
    {transport : Nat -> TransportOutcome} (hregular : forall n, Regular (transport n)) :
    BoundedRetries client.maxRetries transport (client.call request transport) := by
  rcases call_run client request hregular with ⟨k, hk, hons, hend⟩
  have hunsettled : forall i, i < k -> ¬ Settled (transport i) :=
    fun i hi => not_settled ((goesOn_get hget _).mp (hons i hi))
  constructor
  · rcases hend with ⟨hlt, _, _, hsends⟩ | ⟨heq, _, hsends⟩ <;> omega
  · intro n hn
    apply (goesOn_get hget _).mp
    rcases hend with ⟨_, _, _, hsends⟩ | ⟨_, _, hsends⟩
    · exact hons n (by omega)
    · exact hons n (by omega)
  · intro n hn hsettled hfirst
    rcases hend with ⟨_, hoff, hresult, _⟩ | ⟨heq, _, _⟩
    · -- the attempt that ended the loop is the first settled one
      have hkn : ¬ k < n := fun hlt =>
        hfirst k hlt (settled_of_ends hget (hregular k) hoff)
      have hnk : ¬ n < k := fun hlt => hunsettled n hlt hsettled
      have heq : n = k := by omega
      rw [heq]
      exact hresult
    · exact absurd hsettled (hunsettled n (by omega))
  · intro hnone
    rcases hend with ⟨hlt, hoff, _, _⟩ | ⟨_, hresult, _⟩
    · exact absurd (settled_of_ends hget (hregular k) hoff) (hnone k (by omega))
    · exact hresult

/-- Another method is sent once exactly when its first attempt does not end in
a transient exception, or no retry is configured. -/
theorem mutating_single_iff (client : Client) {request : Request}
    (hget : request.isGet = false) {transport : Nat -> TransportOutcome}
    (hregular : forall n, Regular (transport n)) :
    SingleAttempt transport (client.call request transport) <->
      client.maxRetries = 0 ∨ ¬ Transient (transport 0) := by
  rcases call_run client request hregular with ⟨k, hk, hons, hend⟩
  constructor
  · intro hsingle
    have hsent := hsingle.sent
    rcases hend with ⟨_, hoff, _, hsends⟩ | ⟨heq, _, hsends⟩
    · apply Or.inr
      have hk0 : k = 0 := by omega
      rw [hk0] at hoff
      intro htransient
      rw [(goesOn_mutating hget _).mpr htransient] at hoff
      cases hoff
    · exact Or.inl (by omega)
  · intro h
    -- going on after the first attempt needs a transient exception there
    have hgone : 0 < k -> Transient (transport 0) ∧ client.maxRetries = 0 := by
      intro hpos
      have hfirst := (goesOn_mutating hget _).mp (hons 0 hpos)
      rcases h with hzero | hnot
      · exact ⟨hfirst, hzero⟩
      · exact absurd hfirst hnot
    rcases hend with ⟨hlt, _, hresult, hsends⟩ | ⟨heq, hresult, hsends⟩
    · have hk0 : k = 0 := by
        cases k with
        | zero => rfl
        | succ k =>
            have hzero := (hgone (Nat.succ_pos k)).2
            omega
      rw [hk0] at hresult hsends
      exact ⟨hsends, hresult⟩
    · rcases hgone (by omega) with ⟨⟨exc, hexc⟩, hzero⟩
      constructor
      · omega
      · rw [hexc]
        exact hresult

/-- Which calls keep the discipline: the ones whose first attempt of a method
other than `GET` does not end in a transient exception. -/
theorem request_disciplined_iff (client : Client) (request : Request)
    (transport : Nat -> TransportOutcome) (hregular : forall n, Regular (transport n)) :
    Disciplined client request transport <->
      request.isGet = true ∨ client.maxRetries = 0 ∨ ¬ Transient (transport 0) := by
  unfold Disciplined
  cases hget : request.isGet with
  | true =>
      simp only [if_true, true_or, iff_true]
      exact get_bounded client hget hregular
  | false =>
      simp only [Bool.false_eq_true, if_false, false_or]
      exact mutating_single_iff client hget hregular

/-- A requeue whose first attempt times out after the server has done it. -/
def timedOutRequeue : Nat -> TransportOutcome
  | 0 => .transient { className := "ReadTimeout", text := "timed out" }
  | _ => .response { statusCode := 204, text := "" }

def requeueRequest : Request :=
  { method := "POST", path := "/data_points/d1/requeue" }

/-- The condition at a call that meets it: a server error on a `POST`. -/
theorem request_disciplined_badGateway :
    Disciplined { base := "http://web:8080" } requeueRequest
        (fun _ => .response { statusCode := 502, text := "" }) <->
      requeueRequest.isGet = true ∨ (3 : Nat) = 0 ∨
        ¬ Transient (.response { statusCode := 502, text := "" }) :=
  request_disciplined_iff { base := "http://web:8080" } requeueRequest
    (fun _ => .response { statusCode := 502, text := "" }) (fun _ _ h => by cases h)

/-- The requeue is sent a second time after its timeout. -/
theorem requeue_refired :
    ¬ Disciplined { base := "http://web:8080" } requeueRequest timedOutRequeue ∧
      sends (Client.call { base := "http://web:8080" } requeueRequest timedOutRequeue).2 = 2 := by
  have hsent : sends
      (Client.call { base := "http://web:8080" } requeueRequest timedOutRequeue).2 = 2 := by
    decide +kernel
  constructor
  · intro hdisciplined
    have hpost : requeueRequest.isGet = false := by decide +kernel
    unfold Disciplined at hdisciplined
    rw [hpost] at hdisciplined
    have hone := hdisciplined.sent
    rw [hsent] at hone
    cases hone
  · exact hsent

end OpenStudioClient
end OpenStudioOperator
