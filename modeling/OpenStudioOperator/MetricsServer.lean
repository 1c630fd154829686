import OpenStudioOperator.Foundation.Dict
import OpenStudioOperator.Foundation.PyText

/-!
# The metrics endpoint

The first start of the server that binds decides, for the rest of the process, whether the
exposition is open or behind a token.  The token is read from its file at every request, and
the file may be written, unmounted and mounted again between them.
-/

namespace OpenStudioOperator
namespace MetricsServer

open Foundation

/-!
## Tokens
-/

/-- What a read of a file comes to; a file that is no UTF-8 raises a `UnicodeDecodeError`. -/
inductive FileRead where
  | unreadable
  | undecodable
  | text (content : String)
deriving DecidableEq, Repr

section Server

variable (unicode : UnicodeData)

/-- `str.strip()`. -/
def strip (s : String) : String :=
  String.ofList
    (((s.toList.dropWhile unicode.isSpace).reverse.dropWhile unicode.isSpace).reverse)

/-- `_read_bearer_token`. -/
def readBearerToken : FileRead -> Except Unit (Option String)
  | .unreadable => .ok none
  | .undecodable => .error ()
  | .text content => .ok (some (strip unicode content))

/-- `str.partition(" ")`, without the separator. -/
def partitionSpace (cs : List Char) : List Char × List Char :=
  (cs.takeWhile (· != ' '), (cs.dropWhile (· != ' ')).tail)

/-- `_bearer_authorized`. -/
def bearerAuthorized (header token : String) : Bool :=
  let parts := partitionSpace header.toList
  if (String.ofList parts.1).toLower != "bearer" then false
  else strip unicode (String.ofList parts.2) == token

/-!
## Requests
-/

/-- The path, and the `Authorization` header; no header is an empty one. -/
structure Request where
  path : String
  authorization : String
deriving DecidableEq, Repr

/-- An answer: from the exposition of the client library, written here, raised, or none. -/
inductive Response where
  | exposition
  | own (status : String) (headers : List (String × String)) (body : String)
  | raised
  | refused
deriving DecidableEq, Repr

def plainText (status body : String) (more : List (String × String)) : Response :=
  .own status
    ([("Content-Type", "text/plain; charset=utf-8"),
      ("Content-Length", toString body.length)] ++ more) body

def unauthorized : Response :=
  plainText "401 Unauthorized" "Unauthorized\n"
    [("WWW-Authenticate", "Bearer realm=\"openstudio-operator-metrics\"")]

def healthy : Response := plainText "200 OK" "ok\n" []

def notFound : Response := plainText "404 Not Found" "Not Found\n" []

/-- What is served: the exposition for any path, or the app with the token of a file. -/
inductive App where
  | plain
  | bearer (tokenFile : String)
deriving DecidableEq, Repr

/-- The app of `_make_bearer_auth_wsgi_app`. -/
def bearerApp (file : FileRead) (request : Request) : Response :=
  if request.path == "/metrics" then
    match readBearerToken unicode file with
    | .error _ => .raised
    | .ok none => unauthorized
    | .ok (some token) =>
        if token.isEmpty || !bearerAuthorized unicode request.authorization token then unauthorized
        else .exposition
  else if request.path == "/healthz" then healthy
  else notFound

/-!
## The server
-/

/-- A call of `start_metrics_server`: its arguments, the environment variable, and what the
bind comes to. -/
structure Start where
  port : Option Nat
  addr : String
  tokenFile : Option String
  env : Option String
  bind : Except Unit Nat

def defaultMetricsPort : Nat := 9090

structure MetricsProcess where
  files : String -> FileRead := fun _ => .unreadable
  app : Option App := none
  activePort : Option Nat := none
  bindGaugeLatched : Bool := false
  serverBound : Dict (String × String) Bool := .empty

/-- The token file that a start is configured with; an empty name is none. -/
def Start.app (s : Start) : App :=
  let name := s.tokenFile.getD (strip unicode (s.env.getD ""))
  if name.isEmpty then .plain else .bearer name

def Start.labels (s : Start) : String × String :=
  (s.addr, toString (s.port.getD defaultMetricsPort))

/-- The check of the wiring raises. -/
def wiringRaises (files : String -> FileRead) : App -> Bool
  | .plain => false
  | .bearer tokenFile => files tokenFile == .undecodable

/-- The bind gauge, which the first attempt sets. -/
def latchBound (s : Start) (bound : Bool) (p : MetricsProcess) : MetricsProcess :=
  if p.bindGaugeLatched then p
  else { p with bindGaugeLatched := true, serverBound := p.serverBound.set s.labels bound }

/-- `start_metrics_server`, and the port that it returns. -/
def startMetricsServer (s : Start) (p : MetricsProcess) :
    Except Unit (Option Nat) × MetricsProcess :=
  if p.app.isSome then (.ok p.activePort, p)
  else if wiringRaises p.files (s.app unicode) then (.error (), p)
  else
    match s.bind with
    | .error _ => (.ok none, latchBound s false p)
    | .ok port =>
        (.ok (some port),
          { latchBound s true p with app := some (s.app unicode), activePort := some port })

/-- The answer to a request. -/
def respond (p : MetricsProcess) (request : Request) : Response :=
  match p.app with
  | none => .refused
  | some .plain => .exposition
  | some (.bearer tokenFile) => bearerApp unicode (p.files tokenFile) request

/-!
## Runs
-/

inductive Step where
  | start (s : Start)
  | write (path : String) (file : FileRead)

def step : Step -> MetricsProcess -> MetricsProcess
  | .start s, p => (startMetricsServer unicode s p).2
  | .write path file, p =>
      { p with files := fun other => if other = path then file else p.files other }

/-- The process after a history, the newest step first. -/
def stateAfter : List Step -> MetricsProcess
  | [] => {}
  | s :: older => step unicode s (stateAfter older)

/-!
## What a history comes to
-/

/-- What was written last to a file. -/
def lastWritten (path : String) : List Step -> FileRead
  | [] => .unreadable
  | .write other file :: older => if path = other then file else lastWritten path older
  | .start _ :: older => lastWritten path older

/-- The first start that bound, and its port. -/
def firstBound : List Step -> Option (Start × Nat)
  | [] => none
  | .write _ _ :: older => firstBound older
  | .start s :: older =>
      (firstBound older).or
        (if wiringRaises (fun path => lastWritten path older) (s.app unicode) then none
        else s.bind.toOption.map fun port => (s, port))

/-- The first start that tried to bind. -/
def firstAttempt : List Step -> Option Start
  | [] => none
  | .write _ _ :: older => firstAttempt older
  | .start s :: older =>
      (firstAttempt older).or
        (if wiringRaises (fun path => lastWritten path older) (s.app unicode) then none
        else some s)

/-- The header presents the token, under the scheme in any case. -/
def Presents (header token : String) : Prop :=
  exists scheme rest, header.toList = scheme ++ ' ' :: rest ∧ ' ' ∉ scheme ∧
    (String.ofList scheme).toLower = "bearer" ∧ strip unicode (String.ofList rest) = token

/-- The answer is the exposition by right. -/
def MayRead (history : List Step) (request : Request) : App -> Prop
  | .plain => True
  | .bearer tokenFile =>
      request.path = "/metrics" ∧ exists content, lastWritten tokenFile history = .text content ∧
        strip unicode content ≠ "" ∧ Presents unicode request.authorization (strip unicode content)

end Server

section Headers

variable {unicode : UnicodeData}

/-- What stands before the first blank, and after it. -/
theorem partitionSpace_append {scheme rest : List Char} (h : ' ' ∉ scheme) :
    partitionSpace (scheme ++ ' ' :: rest) = (scheme, rest) := by
  have hall : forall c, c ∈ scheme -> (c != ' ') = true := by
    intro c hc
    rw [bne_iff_ne]
    rintro rfl
    exact h hc
  rw [partitionSpace, List.takeWhile_append_of_pos hall, List.dropWhile_append_of_pos hall]
  simp

theorem partitionSpace_cases (cs : List Char) :
    (' ' ∉ (partitionSpace cs).1 ∧ cs = (partitionSpace cs).1 ++ ' ' :: (partitionSpace cs).2) ∨
      (partitionSpace cs).2 = [] := by
  induction cs with
  | nil => exact .inr rfl
  | cons c cs ih =>
      by_cases hc : c = ' '
      · subst hc
        exact .inl ⟨by simp [partitionSpace], by simp [partitionSpace]⟩
      · have hpass : (c != ' ') = true := bne_iff_ne.mpr hc
        have hparts : partitionSpace (c :: cs) =
            (c :: (partitionSpace cs).1, (partitionSpace cs).2) := by
          simp [partitionSpace, hpass]
        rw [hparts]
        rcases ih with ⟨hblank, heq⟩ | hnone
        · refine .inl ⟨?_, congrArg (c :: ·) heq⟩
          intro hmem
          rcases List.mem_cons.mp hmem with hmem | hmem
          · exact hc hmem.symm
          · exact hblank hmem
        · exact .inr hnone

theorem strip_empty : strip unicode (String.ofList []) = "" := rfl

/-- A header is accepted for a token exactly when it presents it. -/
theorem bearerAuthorized_iff {header token : String} (htoken : token ≠ "") :
    bearerAuthorized unicode header token = true <-> Presents unicode header token := by
  unfold bearerAuthorized
  simp only [bne_iff_ne, ne_eq, ite_not]
  constructor
  · intro h
    split at h
    · rename_i hscheme
      have hstrip := eq_of_beq h
      rcases partitionSpace_cases header.toList with ⟨hblank, heq⟩ | hnone
      · exact ⟨_, _, heq, hblank, hscheme, hstrip⟩
      · rw [hnone, strip_empty] at hstrip
        exact absurd hstrip.symm htoken
    · cases h
  · rintro ⟨scheme, rest, heq, hblank, hscheme, hstrip⟩
    rw [heq, partitionSpace_append hblank, if_pos hscheme, hstrip]
    exact beq_self_eq_true token

theorem bearerApp_iff {file : FileRead} {request : Request} :
    bearerApp unicode file request = .exposition <->
      request.path = "/metrics" ∧ exists content, file = .text content ∧
        strip unicode content ≠ "" ∧
          Presents unicode request.authorization (strip unicode content) := by
  unfold bearerApp
  by_cases hpath : request.path = "/metrics"
  · rw [if_pos (beq_iff_eq.mpr hpath)]
    cases file with
    | unreadable => simp [readBearerToken, unauthorized, plainText]
    | undecodable => simp [readBearerToken]
    | text content =>
        simp only [readBearerToken, hpath, true_and, FileRead.text.injEq, exists_eq_left']
        by_cases htoken : strip unicode content = ""
        · simp [htoken, unauthorized, plainText]
        · have hiff := @bearerAuthorized_iff unicode request.authorization _ htoken
          have hempty : (strip unicode content).isEmpty = false := by
            rw [Bool.eq_false_iff, ne_eq, String.isEmpty_iff]
            exact htoken
          rw [hempty, Bool.false_or, <- hiff]
          cases bearerAuthorized unicode request.authorization (strip unicode content) <;>
            simp [htoken, unauthorized, plainText]
  · rw [if_neg (fun h => hpath (eq_of_beq h))]
    constructor
    · intro h
      split at h <;> cases h
    · exact fun h => absurd h.1 hpath

end Headers

section Runs

variable (unicode : UnicodeData)

theorem files_stateAfter (history : List Step) :
    (stateAfter unicode history).files = fun path => lastWritten path history := by
  induction history with
  | nil => rfl
  | cons s older ih =>
      cases s with
      | write path file => simp only [stateAfter, step, ih, lastWritten]
      | start s =>
          simp only [stateAfter, step, startMetricsServer, lastWritten]
          rw [<- ih]
          split
          · rfl
          · split
            · rfl
            · cases s.bind <;> simp only [latchBound] <;> split <;> rfl

/-- The app and the port are those of the first start that bound. -/
theorem served_stateAfter (history : List Step) :
    (stateAfter unicode history).app =
        (firstBound unicode history).map (fun b => b.1.app unicode) ∧
      (stateAfter unicode history).activePort = (firstBound unicode history).map Prod.snd := by
  induction history with
  | nil => exact ⟨rfl, rfl⟩
  | cons s older ih =>
      cases s with
      | write path file => exact ih
      | start s =>
          have hfiles := files_stateAfter unicode older
          simp only [stateAfter, step, startMetricsServer, firstBound, hfiles]
          cases hfirst : firstBound unicode older with
          | some b =>
              rw [hfirst] at ih
              simp only [ih.1, Option.map_some, Option.isSome_some, if_true, Option.or]
              exact ⟨trivial, ih.2⟩
          | none =>
              rw [hfirst] at ih
              simp only [ih.1, Option.map_none, Option.isSome_none, Bool.false_eq_true, if_false,
                Option.none_or]
              split
              · exact ih
              · cases s.bind with
                | error e =>
                    simp only [latchBound, Except.toOption, Option.map_none]
                    split <;> exact ih
                | ok port => exact ⟨rfl, rfl⟩

theorem firstAttempt_of_firstBound {history : List Step}
    (h : (firstBound unicode history).isSome = true) :
    (firstAttempt unicode history).isSome = true := by
  induction history with
  | nil => cases h
  | cons s older ih =>
      cases s with
      | write path file => exact ih h
      | start s =>
          simp only [firstBound, firstAttempt, Option.isSome_or, Bool.or_eq_true] at h ⊢
          rcases h with h | h
          · exact .inl (ih h)
          · right
            split at h
            · cases h
            · rename_i hraises
              rw [if_neg hraises]
              rfl

/-- The bind gauge shows the first attempt, under its labels and no others. -/
theorem bound_stateAfter (history : List Step) :
    (stateAfter unicode history).bindGaugeLatched = (firstAttempt unicode history).isSome ∧
      (stateAfter unicode history).serverBound =
        match firstAttempt unicode history with
        | none => .empty
        | some s => Dict.empty.set s.labels s.bind.toOption.isSome := by
  induction history with
  | nil => exact ⟨rfl, rfl⟩
  | cons s older ih =>
      cases s with
      | write path file => exact ih
      | start s =>
          have hfiles := files_stateAfter unicode older
          have happ := (served_stateAfter unicode older).1
          simp only [stateAfter, step, startMetricsServer, firstAttempt, hfiles, happ,
            Option.isSome_map]
          cases hfirst : firstAttempt unicode older with
          | some first =>
              rw [hfirst] at ih
              simp only [Option.or]
              have hkeep (bound : Bool) :
                  latchBound s bound (stateAfter unicode older) = stateAfter unicode older := by
                rw [latchBound, ih.1, Option.isSome_some, if_pos rfl]
              split
              · exact ih
              · split
                · exact ih
                · cases s.bind <;> simp only [hkeep] <;> exact ih
          | none =>
              rw [hfirst] at ih
              have hunbound : (firstBound unicode older).isSome = false := by
                rw [Bool.eq_false_iff]
                intro h
                have hsome := firstAttempt_of_firstBound unicode h
                rw [hfirst] at hsome
                cases hsome
              have hlatch (bound : Bool) : latchBound s bound (stateAfter unicode older) =
                  { stateAfter unicode older with
                    bindGaugeLatched := true
                    serverBound := Dict.empty.set s.labels bound } := by
                rw [latchBound, ih.1, ih.2]
                rfl
              simp only [hunbound, Bool.false_eq_true, if_false, Option.none_or]
              split
              · exact ih
              · cases hbind : s.bind <;> simp only [hlatch] <;>
                  exact ⟨rfl, by rw [hbind]; rfl⟩

/-- In any order of starts, writes to the token files and requests, the exposition is the answer
exactly where some start has bound, and the first that has was open, or the path is `/metrics`
and the header presents the token that its file holds at that moment. -/
theorem exposition_iff (history : List Step) (request : Request) :
    respond unicode (stateAfter unicode history) request = .exposition <->
      exists s port, firstBound unicode history = some (s, port) ∧
        MayRead unicode history request (s.app unicode) := by
  have hfiles := files_stateAfter unicode history
  have happ := (served_stateAfter unicode history).1
  unfold respond
  rw [happ]
  cases firstBound unicode history with
  | none => simp
  | some b =>
      simp only [Option.map_some, Option.some.injEq]
      cases hmode : b.1.app unicode with
      | plain =>
          exact ⟨fun _ => ⟨b.1, b.2, rfl, by rw [hmode]; trivial⟩, fun _ => rfl⟩
      | bearer tokenFile =>
          simp only [hfiles]
          rw [bearerApp_iff]
          constructor
          · intro h
            exact ⟨b.1, b.2, rfl, by rw [hmode]; exact h⟩
          · rintro ⟨s, port, rfl, h⟩
            rw [hmode] at h
            exact h

/-- One server at most: after any history a further start returns the port of the first that has
bound, and changes nothing, and the bind gauge shows what the first attempt came to. -/
theorem server_started_once (history : List Step) :
    (forall s first port, firstBound unicode history = some (first, port) ->
      startMetricsServer unicode s (stateAfter unicode history) =
        (.ok (some port), stateAfter unicode history)) ∧
      (stateAfter unicode history).serverBound =
        match firstAttempt unicode history with
        | none => .empty
        | some s => Dict.empty.set s.labels s.bind.toOption.isSome := by
  refine ⟨?_, (bound_stateAfter unicode history).2⟩
  intro s first port hfirst
  rcases served_stateAfter unicode history with ⟨happ, hport⟩
  rw [hfirst] at happ hport
  rw [startMetricsServer, happ, hport]
  rfl

end Runs

end MetricsServer
end OpenStudioOperator
