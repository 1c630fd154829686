import OpenStudioOperator.Foundation.PyText
import OpenStudioOperator.Foundation.Regex
import OpenStudioOperator.Foundation.SortOn
import Mathlib.Data.List.TakeWhile
import Mathlib.Data.String.Basic

/-!
# Redis credentials

The Redis URL of a resource may live in a Secret.  The value read from it is
matched against a pattern whose host is that of an in-cluster Service, and the
Redis client then connects to the host that a URL parser finds in it.
-/

namespace OpenStudioOperator
namespace RedisCredentials

open Foundation
open Foundation.Regex

/-!
## The host grammar
-/

def isDigit (c : Char) : Bool := decide ('0' <= c ∧ c <= '9')

/-- `[a-z0-9]`. -/
def isAlnum (c : Char) : Bool := decide ('a' <= c ∧ c <= 'z') || isDigit c

/-- `[a-z0-9]([-a-z0-9]*[a-z0-9])?`. -/
def label : Regex :=
  seq (cls isAlnum) (opt (seq (star (cls fun c => c == '-' || isAlnum c)) (cls isAlnum)))

/-- `\.svc(\.cluster\.local)?`. -/
def svcSuffix : Regex :=
  seq (lit ".svc") (opt (lit ".cluster.local"))

/-- The host of an in-cluster Service: a service, a service below `svc`, or a
service and its namespace below `svc`. -/
def serviceHost : Regex :=
  seq label (opt (alt svcSuffix (seq (lit ".") (seq label svcSuffix))))

/-- `(:[0-9]{1,5})?`. -/
def portPart : Regex :=
  opt (seq (char ':') (upTo (cls isDigit) 4))

/-- `(/[0-9]+)?`. -/
def databasePart : Regex :=
  opt (seq (char '/') (plus (cls isDigit)))

/-- `([^@]+@)?`. -/
def userinfoPart : Regex :=
  opt (seq (plus (cls fun c => c != '@')) (char '@'))

/-- `SECRET_REDIS_URL_PATTERN` between its anchors. -/
def secretRedisUrlPattern : Regex :=
  seq (lit "redis") (seq (opt (char 's')) (seq (lit "://")
    (seq userinfoPart (seq serviceHost (seq portPart databasePart)))))

/-- `match` of a pattern that ends in `$`: the end of the text, or a line break
that ends it. -/
def matchesToEnd (pattern : Regex) (value : String) : Bool :=
  pattern.accepts value.toList ||
    (value.toList.getLast? == some '\n' && pattern.accepts value.toList.dropLast)

/-!
## Reading the Secret
-/

structure RedisSecretRef where
  name : String
  key : String
deriving DecidableEq, Repr

/-- `cause` is the status of the API error that a resolution error was raised
from. -/
inductive RedisUrlError where
  | credentialResolutionError (message : String) (cause : Option (Option Nat))
  | valueError (message : String)
deriving DecidableEq, Repr

/-- The answer of a Secret read. -/
inductive SecretRead where
  | apiException (status : Option Nat) (reason : String)
  | data (entries : List (String × String))
deriving DecidableEq, Repr

/-- What the rest of the process supplies: the Secret read, base64 and UTF-8
decoding with the reason of a failure, and the text that stands for a rejected
URL in messages, which is a `ValueError` when the URL's port is out of range. -/
structure SecretSource where
  readNamespacedSecret : String -> String -> SecretRead
  decode : String -> Except String String
  redisTargetForDiagnostics : String -> Except String String

section Resolution

variable (unicode : UnicodeData) (source : SecretSource)

/-- Raised without an API error behind it. -/
def resolutionError {alpha : Type} (message : String) : Except RedisUrlError alpha :=
  .error (.credentialResolutionError message none)

def redisUrlFromSecretValue (value secretName secretKey : String) :
    Except RedisUrlError String :=
  if value.isEmpty || !matchesToEnd secretRedisUrlPattern value then
    let target : Except String String :=
      if value.isEmpty then .ok "<empty>" else source.redisTargetForDiagnostics value
    match target with
    | .error message => .error (.valueError message)
    | .ok target =>
        resolutionError ("Secret " ++ reprStr unicode secretName ++ " key "
          ++ reprStr unicode secretKey
          ++ " does not hold a valid in-cluster redis:// or rediss:// URL (issue #463): got "
          ++ target ++ ". The key must carry the FULL URL "
          ++ "(redis://[:password@]<service>[:port][/db], or the rediss:// TLS twin — issue #476); "
          ++ "off-cluster hosts and non-Redis schemes are rejected "
          ++ "(issue #390 fence preserved on the Secret path).")
  else
    .ok value

def secretReadMessage (secretRef : RedisSecretRef) (crNamespace : String)
    (status : Option Nat) (reason : String) : String :=
  let base := "cannot read Secret " ++ crNamespace ++ "/" ++ secretRef.name ++ " (key "
    ++ reprStr unicode secretRef.key ++ ", spec.redisCredentials.secretRef, issue #463): "
    ++ ((status.map toString).getD "None") ++ " " ++ reason
  if status = some 403 then
    base ++ " — denied by RBAC: the operator Role's secrets:get grant is "
      ++ "exact-name-bounded (deploy/rbac.yaml resourceNames, issue #606); either add "
      ++ reprStr unicode secretRef.name
      ++ " to the Role's resourceNames (a deliberate, reviewable RBAC change) "
      ++ "or point spec.redisCredentials.secretRef at a granted Secret "
      ++ "(default: 'openstudio-redis')"
  else base

/-- `sorted(data) or '<none>'`, as a message shows it. -/
def foundKeys (entries : List (String × String)) : String :=
  if entries.isEmpty then "<none>"
  else Json.pyRepr unicode (.arr ((sortOn id (entries.map Prod.fst)).map .str))

/-- The effective Redis URL: the Secret wins over the inline one. -/
def resolveRedisUrl (redisUrl : String) (secretRef : Option RedisSecretRef)
    (crNamespace : String) : Except RedisUrlError String :=
  match secretRef with
  | none => .ok redisUrl
  | some ref =>
      if crNamespace.isEmpty then
        resolutionError ("spec.redisCredentials.secretRef is set but no namespace was supplied to "
          ++ "resolve Secret " ++ reprStr unicode ref.name
          ++ " (issue #463); pass the CR's namespace.")
      else
        match source.readNamespacedSecret ref.name crNamespace with
        | .apiException status reason =>
            .error (.credentialResolutionError
              (secretReadMessage unicode ref crNamespace status reason) (some status))
        | .data entries =>
            match entries.lookup ref.key with
            | none =>
                resolutionError ("Secret " ++ crNamespace ++ "/" ++ ref.name ++ " has no key "
                  ++ reprStr unicode ref.key
                  ++ " (spec.redisCredentials.secretRef, issue #463); found keys: "
                  ++ foundKeys unicode entries ++ ".")
            | some raw =>
                match source.decode raw with
                | .error reason =>
                    resolutionError ("Secret " ++ crNamespace ++ "/" ++ ref.name ++ " key "
                      ++ reprStr unicode ref.key ++ " is not valid base64 UTF-8 (issue #463): "
                      ++ reason)
                | .ok value =>
                    redisUrlFromSecretValue unicode source value (crNamespace ++ "/" ++ ref.name)
                      ref.key

end Resolution

/-!
## The host of a URL
-/

/-- The characters that end the authority of a URL. -/
def isDelimiter (c : Char) : Bool := c == '/' || c == '?' || c == '#'

/-- What follows the first `://`. -/
def afterScheme : List Char -> List Char
  | [] => []
  | c :: cs =>
      if [':', '/', '/'].isPrefixOf (c :: cs) then (c :: cs).drop 3 else afterScheme cs

/-- What follows the last `@`. -/
def afterUserinfo (authority : List Char) : List Char :=
  (authority.reverse.takeWhile (· != '@')).reverse

/-- The host that the client connects to. -/
def connectionHost (url : String) : List Char :=
  let authority := (afterScheme url.toList).takeWhile fun c => !isDelimiter c
  (afterUserinfo authority).takeWhile (· != ':')

example : connectionHost "rediss://user:p@queue.openstudio.svc:6379/0" =
    "queue.openstudio.svc".toList := by
  decide +kernel

/-!
## The shape of an accepted value
-/

/-- The characters of a Service host. -/
def HostChar (c : Char) : Prop := isAlnum c = true ∨ c = '-' ∨ c = '.'

instance decidableHostChar (c : Char) : Decidable (HostChar c) :=
  inferInstanceAs (Decidable (_ ∨ _))

theorem within_char {p : Char -> Prop} {c : Char} (h : p c) : (char c).Within p := by
  intro d hd
  rw [eq_of_beq hd]
  exact h

theorem within_lit {text : String}
    (h : (text.toList.all fun c => decide (HostChar c)) = true) : (lit text).Within HostChar := by
  unfold lit
  revert h
  generalize text.toList = cs
  intro h
  induction cs with
  | nil => exact True.intro
  | cons c cs ih =>
      rw [List.all_cons, Bool.and_eq_true] at h
      exact ⟨within_char (of_decide_eq_true h.1), ih h.2⟩

theorem within_label : label.Within HostChar := by
  have halnum : (cls isAlnum).Within HostChar := fun c hc => Or.inl hc
  have hinner : (cls fun c => c == '-' || isAlnum c).Within HostChar := by
    intro c hc
    rcases (Bool.or_eq_true _ _).mp hc with hdash | halnum
    · exact Or.inr (Or.inl (eq_of_beq hdash))
    · exact Or.inl halnum
  exact ⟨halnum, ⟨hinner, halnum⟩, True.intro⟩

theorem within_svcSuffix : svcSuffix.Within HostChar := by
  constructor
  · apply within_lit
    decide +kernel
  · constructor
    · apply within_lit
      decide +kernel
    · exact True.intro

theorem within_serviceHost : serviceHost.Within HostChar := by
  have hdot : (lit ".").Within HostChar := by
    apply within_lit
    decide +kernel
  exact ⟨within_label, ⟨within_svcSuffix, hdot, within_label, within_svcSuffix⟩, True.intro⟩

theorem hostChar_ne {c d : Char} (h : HostChar c)
    (hd : isAlnum d = false ∧ d ≠ '-' ∧ d ≠ '.') : c ≠ d := by
  intro heq
  rw [heq] at h
  rcases h with h | h | h
  · rw [hd.1] at h
    cases h
  · exact hd.2.1 h
  · exact hd.2.2 h

/-- An optional part that a mark opens is empty or the mark with digits. -/
theorem markedPart_shape {mark : Char} {digits : Regex} {w : List Char}
    (hdigits : digits.Within fun c => isDigit c = true)
    (h : Matches (opt (seq (char mark) digits)) w) :
    w = [] ∨ exists ds, w = mark :: ds ∧ forall c, c ∈ ds -> isDigit c = true := by
  rcases matches_opt.mp h with h | h
  · rcases matches_seq.mp h with ⟨u, v, hw, hu, hv⟩
    cases hu with
    | cls hc =>
        apply Or.inr
        exists v
        constructor
        · rw [hw, eq_of_beq hc, List.singleton_append]
        · exact hv.within hdigits
  · exact Or.inl h

/-- A port part is empty or begins with a colon; only digits follow. -/
theorem portPart_shape {w : List Char} (h : Matches portPart w) :
    w = [] ∨ exists digits, w = ':' :: digits ∧ forall c, c ∈ digits -> isDigit c = true := by
  apply markedPart_shape ?_ h
  simp only [upTo, opt, Within, imp_self, implies_true, and_self]

/-- A database part is empty or begins with a slash; only digits follow. -/
theorem databasePart_shape {w : List Char} (h : Matches databasePart w) :
    w = [] ∨ exists digits, w = '/' :: digits ∧ forall c, c ∈ digits -> isDigit c = true := by
  apply markedPart_shape ?_ h
  simp only [plus, Within, imp_self, implies_true, and_self]

/-- A userinfo part is empty or ends with its only `@`. -/
theorem userinfoPart_shape {w : List Char} (h : Matches userinfoPart w) :
    w = [] ∨ exists credential, w = credential ++ ['@'] ∧ '@' ∉ credential := by
  rcases matches_opt.mp h with h | h
  · rcases matches_seq.mp h with ⟨u, v, hw, hu, hv⟩
    cases hv with
    | cls hc =>
        apply Or.inr
        exists u
        constructor
        · rw [hw, eq_of_beq hc]
        · intro hat
          have hne := hu.within (p := fun c => c ≠ '@')
            (by simp only [plus, Within, bne_iff_ne, imp_self, implies_true, and_self]) '@' hat
          exact hne rfl
  · exact Or.inl h

/-- The parts of an accepted value, after its scheme. -/
structure Parts (value : String) where
  userinfo : List Char
  host : List Char
  port : List Char
  database : List Char
  lineBreak : List Char
  split : afterScheme value.toList = userinfo ++ (host ++ (port ++ (database ++ lineBreak)))
  userinfo_matches : Matches userinfoPart userinfo
  host_matches : Matches serviceHost host
  port_matches : Matches portPart port
  database_matches : Matches databasePart database
  lineBreak_eq : lineBreak = [] ∨ lineBreak = ['\n']

theorem parts_of_matches {value : String} {w lineBreak : List Char}
    (h : Matches secretRedisUrlPattern w) (hvalue : value.toList = w ++ lineBreak)
    (hbreak : lineBreak = [] ∨ lineBreak = ['\n']) :
    Nonempty (Parts value) := by
  rcases matches_seq.mp h with ⟨redis, w₁, hw, hredis, h₁⟩
  rcases matches_seq.mp h₁ with ⟨s, w₂, hw₁, hs, h₂⟩
  rcases matches_seq.mp h₂ with ⟨mark, w₃, hw₂, hmark, h₃⟩
  rcases matches_seq.mp h₃ with ⟨userinfo, w₄, hw₃, huserinfo, h₄⟩
  rcases matches_seq.mp h₄ with ⟨host, w₅, hw₄, hhost, h₅⟩
  rcases matches_seq.mp h₅ with ⟨port, database, hw₅, hport, hdatabase⟩
  have hafter : afterScheme value.toList = w₃ ++ lineBreak := by
    rw [hvalue, hw, hw₁, hw₂, matches_lit.mp hredis, matches_lit.mp hmark]
    rcases matches_opt.mp hs with hs | hs
    · cases hs with
      | cls hc =>
          rw [eq_of_beq hc]
          rfl
    · rw [hs]
      rfl
  have hsplit : afterScheme value.toList =
      userinfo ++ (host ++ (port ++ (database ++ lineBreak))) := by
    rw [hafter, hw₃, hw₄, hw₅]
    simp only [List.append_assoc]
  exact ⟨⟨userinfo, host, port, database, lineBreak, hsplit, huserinfo, hhost, hport, hdatabase,
    hbreak⟩⟩

/-- An accepted value has its parts. -/
theorem parts_of_accepted {value : String}
    (h : matchesToEnd secretRedisUrlPattern value = true) : Nonempty (Parts value) := by
  unfold matchesToEnd at h
  rw [Bool.or_eq_true, Bool.and_eq_true, accepts_iff, accepts_iff] at h
  rcases h with h | ⟨hlast, h⟩
  · exact parts_of_matches h (List.append_nil _).symm (Or.inl rfl)
  · have hsplit : value.toList = value.toList.dropLast ++ ['\n'] :=
      (List.dropLast_append_getLast? '\n' (eq_of_beq hlast)).symm
    exact parts_of_matches h hsplit (Or.inr rfl)

/-!
## The host that is reached
-/

/-- The credential part: what stands before the first `@`, if there is one. -/
def credential (rest : List Char) : List Char :=
  if '@' ∈ rest then rest.takeWhile (· != '@') else []

/-- What follows the credential part. -/
def afterCredential (rest : List Char) : List Char :=
  if '@' ∈ rest then (rest.dropWhile (· != '@')).tail else rest

/-- The credential part leaves the authority of the URL alone and the host is
not directly followed by a line break; or it ends the authority, and what it
puts in the host's place is itself the host of a Service. -/
def Fenced (value : String) : Prop :=
  let rest := afterScheme value.toList
  if (credential rest).any isDelimiter then
    Matches serviceHost ((credential rest).takeWhile fun c => !isDelimiter c && c != ':')
  else
    ¬ ((afterCredential rest).getLast? = some '\n' ∧ ':' ∉ afterCredential rest ∧
      '/' ∉ afterCredential rest)

theorem afterUserinfo_of_not_mem {cs : List Char} (h : '@' ∉ cs) : afterUserinfo cs = cs := by
  unfold afterUserinfo
  rw [List.takeWhile_eq_self_iff.mpr, List.reverse_reverse]
  intro c hc
  rw [bne_iff_ne]
  intro heq
  rw [heq, List.mem_reverse] at hc
  exact h hc

theorem afterUserinfo_append {before after : List Char} (h : '@' ∉ after) :
    afterUserinfo (before ++ '@' :: after) = after := by
  have hall : forall c, c ∈ after.reverse -> (c != '@') = true := by
    intro c hc
    rw [bne_iff_ne]
    intro heq
    rw [heq, List.mem_reverse] at hc
    exact h hc
  unfold afterUserinfo
  rw [List.reverse_append, List.reverse_cons, List.append_assoc,
    List.takeWhile_append_of_pos hall]
  simp

/-- What follows the credential part of an accepted value. -/
def Parts.tail {value : String} (parts : Parts value) : List Char :=
  parts.host ++ (parts.port ++ (parts.database ++ parts.lineBreak))

theorem Parts.host_char {value : String} (parts : Parts value) {c : Char}
    (hc : c ∈ parts.host) : HostChar c :=
  parts.host_matches.within within_serviceHost c hc

/-- No `@`, `?` or `#` follows the credential part. -/
theorem Parts.tail_chars {value : String} (parts : Parts value) {c : Char}
    (hc : c ∈ parts.tail) :
    HostChar c ∨ c = ':' ∨ isDigit c = true ∨ c = '/' ∨ c = '\n' := by
  unfold Parts.tail at hc
  simp only [List.mem_append] at hc
  rcases hc with hc | hc | hc | hc
  · exact Or.inl (parts.host_char hc)
  · rcases portPart_shape parts.port_matches with hnil | ⟨digits, hport, hdigits⟩
    · rw [hnil] at hc
      cases hc
    · rw [hport] at hc
      rcases List.mem_cons.mp hc with hc | hc
      · exact Or.inr (Or.inl hc)
      · exact Or.inr (Or.inr (Or.inl (hdigits c hc)))
  · rcases databasePart_shape parts.database_matches with hnil | ⟨digits, hdatabase, hdigits⟩
    · rw [hnil] at hc
      cases hc
    · rw [hdatabase] at hc
      rcases List.mem_cons.mp hc with hc | hc
      · exact Or.inr (Or.inr (Or.inr (Or.inl hc)))
      · exact Or.inr (Or.inr (Or.inl (hdigits c hc)))
  · rcases parts.lineBreak_eq with hnil | hbreak
    · rw [hnil] at hc
      cases hc
    · rw [hbreak] at hc
      exact Or.inr (Or.inr (Or.inr (Or.inr (List.mem_singleton.mp hc))))

theorem Parts.at_not_mem {value : String} (parts : Parts value) : '@' ∉ parts.tail := by
  intro hat
  rcases parts.tail_chars hat with h | h | h | h | h
  · exact hostChar_ne h (by decide) rfl
  · exact absurd h (by decide)
  · exact absurd h (by decide)
  · exact absurd h (by decide)
  · exact absurd h (by decide)

theorem takeWhile_stop {p : Char -> Bool} {cs rest : List Char} {stop : Char}
    (hall : forall c, c ∈ cs -> p c = true) (hstop : p stop = false) :
    (cs ++ stop :: rest).takeWhile p = cs := by
  rw [List.takeWhile_append_of_pos hall, List.takeWhile_cons, hstop]
  simp

theorem Parts.host_plain {value : String} (parts : Parts value) {c : Char}
    (hc : c ∈ parts.host) : (!isDelimiter c) = true ∧ (c != ':') = true := by
  have hchar := parts.host_char hc
  have hslash := hostChar_ne hchar (d := '/') (by decide)
  have hquestion := hostChar_ne hchar (d := '?') (by decide)
  have hhash := hostChar_ne hchar (d := '#') (by decide)
  have hcolon := hostChar_ne hchar (d := ':') (by decide)
  constructor
  · simp [isDelimiter, hslash, hquestion, hhash]
  · exact bne_iff_ne.mpr hcolon

theorem Parts.port_plain {value : String} (parts : Parts value) {c : Char}
    (hc : c ∈ parts.port) : (!isDelimiter c) = true := by
  have hdigit : forall d, isDigit d = true -> (!isDelimiter d) = true := by
    intro d hd
    have hchar : HostChar d := Or.inl (by rw [isAlnum, hd, Bool.or_true])
    have hslash := hostChar_ne hchar (d := '/') (by decide)
    have hquestion := hostChar_ne hchar (d := '?') (by decide)
    have hhash := hostChar_ne hchar (d := '#') (by decide)
    simp [isDelimiter, hslash, hquestion, hhash]
  rcases portPart_shape parts.port_matches with hnil | ⟨digits, hport, hdigits⟩
  · rw [hnil] at hc
    cases hc
  · rw [hport] at hc
    rcases List.mem_cons.mp hc with hc | hc
    · rw [hc]
      rfl
    · exact hdigit c (hdigits c hc)

theorem Parts.lineBreak_plain {value : String} (parts : Parts value) {c : Char}
    (hc : c ∈ parts.lineBreak) : (!isDelimiter c) = true ∧ (c != ':') = true := by
  rcases parts.lineBreak_eq with hnil | hbreak
  · rw [hnil] at hc
    cases hc
  · rw [hbreak] at hc
    rw [List.mem_singleton.mp hc]
    decide

/-- The authority of the tail. -/
theorem Parts.tail_authority {value : String} (parts : Parts value) :
    (parts.tail.takeWhile fun c => !isDelimiter c) =
      parts.host ++ (parts.port ++ if parts.database = [] then parts.lineBreak else []) := by
  have hhost : forall c, c ∈ parts.host -> (!isDelimiter c) = true :=
    fun c hc => (parts.host_plain hc).1
  unfold Parts.tail
  rw [List.takeWhile_append_of_pos hhost,
    List.takeWhile_append_of_pos fun c hc => parts.port_plain hc]
  rcases databasePart_shape parts.database_matches with hnil | ⟨digits, hdatabase, _⟩
  · rw [hnil, if_pos rfl, List.nil_append, List.takeWhile_eq_self_iff.mpr]
    exact fun c hc => (parts.lineBreak_plain hc).1
  · rw [hdatabase, if_neg (List.cons_ne_nil _ _), List.cons_append, List.takeWhile_cons]
    rfl

/-- The host of the tail: the matched host, and the line break when it follows
the host directly. -/
theorem Parts.tail_host {value : String} (parts : Parts value) :
    (parts.tail.takeWhile fun c => !isDelimiter c).takeWhile (· != ':') =
      if parts.port = [] ∧ parts.database = [] then parts.host ++ parts.lineBreak
      else parts.host := by
  have hhost : forall c, c ∈ parts.host -> (c != ':') = true :=
    fun c hc => (parts.host_plain hc).2
  rw [parts.tail_authority]
  rcases portPart_shape parts.port_matches with hnil | ⟨digits, hport, _⟩
  · rw [hnil, List.nil_append, List.takeWhile_append_of_pos hhost]
    by_cases hdatabase : parts.database = []
    · rw [if_pos hdatabase, if_pos ⟨rfl, hdatabase⟩, List.takeWhile_eq_self_iff.mpr]
      exact fun c hc => (parts.lineBreak_plain hc).2
    · rw [if_neg hdatabase, if_neg fun h => hdatabase h.2]
      exact List.append_nil _
  · have hnot : ¬ (':' :: digits = [] ∧ parts.database = []) :=
      fun h => List.cons_ne_nil _ _ h.1
    rw [hport, if_neg hnot, List.cons_append]
    exact takeWhile_stop hhost rfl

/-- The line break follows the host directly exactly when it ends a tail
without a colon or a slash. -/
theorem Parts.lineBreak_iff {value : String} (parts : Parts value) :
    (parts.tail.getLast? = some '\n' ∧ ':' ∉ parts.tail ∧ '/' ∉ parts.tail) <->
      parts.port = [] ∧ parts.database = [] ∧ parts.lineBreak = ['\n'] := by
  constructor
  · intro h
    rcases h with ⟨hlast, hcolon, hslash⟩
    have hport : parts.port = [] := by
      rcases portPart_shape parts.port_matches with hnil | ⟨digits, hport, _⟩
      · exact hnil
      · apply absurd _ hcolon
        unfold Parts.tail
        rw [hport]
        simp
    have hdatabase : parts.database = [] := by
      rcases databasePart_shape parts.database_matches with hnil | ⟨digits, hdatabase, _⟩
      · exact hnil
      · apply absurd _ hslash
        unfold Parts.tail
        rw [hdatabase]
        simp
    rcases parts.lineBreak_eq with hnil | hbreak
    · unfold Parts.tail at hlast
      rw [hport, hdatabase, hnil] at hlast
      simp only [List.append_nil] at hlast
      have hmem : '\n' ∈ parts.host := List.mem_of_getLast? hlast
      exact absurd rfl (hostChar_ne (parts.host_char hmem) (d := '\n') (by decide))
    · exact ⟨hport, hdatabase, hbreak⟩
  · intro h
    rcases h with ⟨hport, hdatabase, hbreak⟩
    have htail : parts.tail = parts.host ++ ['\n'] := by
      unfold Parts.tail
      rw [hport, hdatabase, hbreak]
      rfl
    have hnot : forall d, isAlnum d = false ∧ d ≠ '-' ∧ d ≠ '.' -> d ≠ '\n' ->
        d ∉ parts.host ++ ['\n'] := by
      intro d hd hne hmem
      rcases List.mem_append.mp hmem with hmem | hmem
      · exact hostChar_ne (parts.host_char hmem) hd rfl
      · exact hne (List.mem_singleton.mp hmem)
    rw [htail]
    exact ⟨List.getLast?_concat, hnot ':' (by decide) (by decide),
      hnot '/' (by decide) (by decide)⟩

/-- The host of the tail is a Service host unless the line break follows it. -/
theorem Parts.tail_host_iff {value : String} (parts : Parts value) :
    Matches serviceHost ((parts.tail.takeWhile fun c => !isDelimiter c).takeWhile (· != ':')) <->
      ¬ (parts.tail.getLast? = some '\n' ∧ ':' ∉ parts.tail ∧ '/' ∉ parts.tail) := by
  rw [parts.tail_host, parts.lineBreak_iff]
  by_cases hbare : parts.port = [] ∧ parts.database = []
  · rw [if_pos hbare]
    rcases parts.lineBreak_eq with hnil | hbreak
    · rw [hnil, List.append_nil]
      constructor
      · intro _ h
        exact absurd h.2.2 (List.cons_ne_nil _ _).symm
      · intro _
        exact parts.host_matches
    · constructor
      · intro h
        have hmem : '\n' ∈ parts.host ++ parts.lineBreak := by
          rw [hbreak]
          simp
        exact absurd rfl
          (hostChar_ne (h.within within_serviceHost '\n' hmem) (d := '\n') (by decide))
      · intro h
        exact absurd ⟨hbare.1, hbare.2, hbreak⟩ h
  · rw [if_neg hbare]
    constructor
    · intro _ h
      exact hbare ⟨h.1, h.2.1⟩
    · intro _
      exact parts.host_matches

/-- The client connects to a Service host exactly when the value is fenced. -/
theorem Parts.connectionHost_iff {value : String} (parts : Parts value) :
    Matches serviceHost (connectionHost value) <-> Fenced value := by
  have hat := parts.at_not_mem
  unfold connectionHost Fenced
  simp only []
  rw [show afterScheme value.toList = parts.userinfo ++ parts.tail from parts.split]
  rcases userinfoPart_shape parts.userinfo_matches with hnil | ⟨cred, huserinfo, hcred⟩
  · -- no credential part
    rw [hnil, List.nil_append]
    have hnone : credential parts.tail = [] := if_neg hat
    have hafter : afterCredential parts.tail = parts.tail := if_neg hat
    have hauthority : '@' ∉ parts.tail.takeWhile fun c => !isDelimiter c :=
      fun hmem => hat ((List.takeWhile_prefix _).subset hmem)
    rw [hnone, hafter, afterUserinfo_of_not_mem hauthority]
    exact parts.tail_host_iff
  · have hmem : '@' ∈ cred ++ '@' :: parts.tail :=
      List.mem_append_right cred List.mem_cons_self
    have hplain : forall c, c ∈ cred -> (c != '@') = true := by
      intro c hc
      rw [bne_iff_ne]
      intro heq
      rw [heq] at hc
      exact hcred hc
    have hsome : credential (cred ++ '@' :: parts.tail) = cred := by
      unfold credential
      rw [if_pos hmem, takeWhile_stop hplain rfl]
    have hafter : afterCredential (cred ++ '@' :: parts.tail) = parts.tail := by
      unfold afterCredential
      rw [if_pos hmem, List.dropWhile_append_of_pos hplain, List.dropWhile_cons]
      rfl
    rw [huserinfo, List.append_assoc, List.singleton_append, hsome, hafter]
    cases hdelimiter : cred.any isDelimiter with
    | false =>
        have hall : forall c, c ∈ cred -> (!isDelimiter c) = true := by
          intro c hc
          have hno := List.any_eq_false.mp hdelimiter c hc
          rw [Bool.not_eq_true] at hno
          rw [hno]
          rfl
        have hauthority : '@' ∉ parts.tail.takeWhile fun c => !isDelimiter c :=
          fun hmem => hat ((List.takeWhile_prefix _).subset hmem)
        rw [List.takeWhile_append_of_pos hall, List.takeWhile_cons]
        rw [show (!isDelimiter '@') = true from rfl, if_pos rfl, afterUserinfo_append hauthority]
        exact parts.tail_host_iff
    | true =>
        -- the authority ends inside the credential part
        have hcut : ((cred ++ '@' :: parts.tail).takeWhile fun c => !isDelimiter c) =
            cred.takeWhile fun c => !isDelimiter c := by
          rw [List.takeWhile_append, if_neg]
          intro hlength
          rw [List.any_eq_true] at hdelimiter
          rcases hdelimiter with ⟨c, hc, hdel⟩
          have hself := (List.takeWhile_prefix fun c => !isDelimiter c).eq_of_length hlength
          rw [← hself] at hc
          have hno := List.mem_takeWhile_imp hc
          rw [hdel] at hno
          cases hno
        have hauthority : '@' ∉ cred.takeWhile fun c => !isDelimiter c :=
          fun hmem => hcred ((List.takeWhile_prefix _).subset hmem)
        rw [hcut, afterUserinfo_of_not_mem hauthority, List.takeWhile_takeWhile, if_pos rfl]
        simp only [Bool.decide_and, Bool.decide_eq_true]
        rw [show (fun a => (a != ':' && !isDelimiter a)) = fun c => !isDelimiter c && c != ':' from
          funext fun c => Bool.and_comm _ _]

/-!
## The fence
-/

theorem accepted_of_ok {unicode : UnicodeData} {source : SecretSource}
    {value secretName secretKey url : String}
    (h : redisUrlFromSecretValue unicode source value secretName secretKey = .ok url) :
    url = value ∧ matchesToEnd secretRedisUrlPattern value = true := by
  unfold redisUrlFromSecretValue at h
  by_cases hreject : (value.isEmpty || !matchesToEnd secretRedisUrlPattern value) = true
  · rw [if_pos hreject] at h
    simp only [resolutionError] at h
    split at h <;> cases h
  · rw [if_neg hreject] at h
    rw [Bool.not_eq_true, Bool.or_eq_false_iff, Bool.not_eq_false'] at hreject
    cases h
    exact ⟨rfl, hreject.2⟩

/-- Every URL that is read from a Secret matches the pattern. -/
theorem resolved_accepted {unicode : UnicodeData} {source : SecretSource}
    {redisUrl crNamespace url : String} {ref : RedisSecretRef}
    (h : resolveRedisUrl unicode source redisUrl (some ref) crNamespace = .ok url) :
    matchesToEnd secretRedisUrlPattern url = true := by
  simp only [resolveRedisUrl, resolutionError] at h
  split at h
  · cases h
  · split at h
    · cases h
    · split at h
      · cases h
      · split at h
        · cases h
        · have haccepted := accepted_of_ok h
          rw [haccepted.1]
          exact haccepted.2

def unreadableSecrets : SecretSource where
  readNamespacedSecret := fun _ _ => .apiException (some 404) "Not Found"
  decode := fun raw => .ok raw
  redisTargetForDiagnostics := fun _ => .ok "redis://queue"

end RedisCredentials
end OpenStudioOperator
