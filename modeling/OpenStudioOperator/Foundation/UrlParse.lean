import Mathlib.Data.List.TakeWhile

/-!
# URL parsing

`urllib.parse.urlparse` on texts, and the attributes of its result that are
computed from the authority.  What depends on the Unicode database or on
`ipaddress` is a parameter.
-/

namespace Foundation

/-- Lower case and NFKC form of a text, and the check of a bracketed authority
with the message of the `ValueError` it raises. -/
structure UrlData where
  lower : String -> String
  nfkc : List Char -> List Char
  checkBracketedNetloc : List Char -> Option String

/-- The data restricted to ASCII, with every address in brackets accepted. -/
def UrlData.ascii : UrlData where
  lower := fun text => String.ofList (text.toList.map Char.toLower)
  nfkc := id
  checkBracketedNetloc := fun _ => none

namespace UrlParse

/-!
## Partitions
-/

/-- What follows the first occurrence; nothing if there is none. -/
def after (c : Char) (text : List Char) : List Char :=
  (text.dropWhile (· != c)).drop 1

/-- What follows the last occurrence; the whole text if there is none. -/
def afterLast (c : Char) (text : List Char) : List Char :=
  (text.reverse.takeWhile (· != c)).reverse

/-!
## Splitting
-/

def isAsciiLetter (c : Char) : Bool :=
  decide ('a' <= c ∧ c <= 'z') || decide ('A' <= c ∧ c <= 'Z')

def isAsciiDigit (c : Char) : Bool := decide ('0' <= c ∧ c <= '9')

def isSchemeChar (c : Char) : Bool :=
  isAsciiLetter c || isAsciiDigit c || c == '+' || c == '-' || c == '.'

/-- Leading controls and spaces, and every tab and line break, are dropped. -/
def clean (url : List Char) : List Char :=
  (url.dropWhile fun c => decide (c.toNat <= 32)).filter fun c =>
    c != '\t' && c != '\r' && c != '\n'

/-- The scheme, in lower case, and the rest of the URL. -/
def splitScheme (url : List Char) : List Char × List Char :=
  let head := url.takeWhile (· != ':')
  if url.contains ':' && head.head?.any isAsciiLetter && head.all isSchemeChar then
    (head.map Char.toLower, after ':' url)
  else
    ([], url)

def endsNetloc (c : Char) : Bool := c == '/' || c == '?' || c == '#'

/-- The authority after a double slash, and the rest. -/
def splitNetloc (url : List Char) : List Char × List Char :=
  if ['/', '/'].isPrefixOf url then
    ((url.drop 2).takeWhile fun c => !endsNetloc c, (url.drop 2).dropWhile fun c => !endsNetloc c)
  else
    ([], url)

/-- The schemes whose last path segment has parameters. -/
def usesParams : List String :=
  ["", "ftp", "hdl", "prospero", "http", "https", "shttp", "rtsp", "rtspu", "sip", "sips",
    "mms", "sftp", "tel"]

/-- The path without the parameters of its last segment. -/
def splitParams (path : List Char) : List Char :=
  let segment := afterLast '/' path
  path.take (path.length - segment.length) ++ segment.takeWhile (· != ';')

/-- The brackets of an authority. -/
def checkBrackets (data : UrlData) (netloc : List Char) : Option String :=
  if netloc.contains '[' != netloc.contains ']' then some "Invalid IPv6 URL"
  else if netloc.contains '[' then data.checkBracketedNetloc netloc
  else none

/-- Characters that turn into delimiters under normalisation. -/
def checkNetloc (data : UrlData) (netloc : List Char) : Option String :=
  if netloc.all fun c => decide (c.toNat < 128) then none
  else
    let kept := netloc.filter fun c => c != '@' && c != ':' && c != '#' && c != '?'
    let normalized := data.nfkc kept
    if kept = normalized then none
    else if normalized.any fun c => endsNetloc c || c == '@' || c == ':' then
      some ("netloc '" ++ String.ofList netloc ++ "' contains invalid " ++
        "characters under NFKC normalization")
    else none

/-- The parts of a result but for the parameters, the query and the fragment. -/
structure ParseResult where
  scheme : String
  netloc : List Char
  path : String
deriving DecidableEq, Repr

/-- `urlparse`, with the message of a `ValueError`. -/
def urlparse (data : UrlData) (url : String) : Except String ParseResult :=
  let scheme := splitScheme (clean url.toList)
  let netloc := splitNetloc scheme.2
  match checkBrackets data netloc.1 with
  | some message => .error message
  | none =>
      let path := netloc.2.takeWhile fun c => c != '#' && c != '?'
      match checkNetloc data netloc.1 with
      | some message => .error message
      | none =>
          .ok {
            scheme := String.ofList scheme.1
            netloc := netloc.1
            path := String.ofList
              (if String.ofList scheme.1 ∈ usesParams then splitParams path else path) }

/-!
## The authority
-/

/-- The host and the port, as texts. -/
def ParseResult.hostinfo (parsed : ParseResult) : List Char × List Char :=
  let hostinfo := afterLast '@' parsed.netloc
  if hostinfo.contains '[' then
    let bracketed := after '[' hostinfo
    (bracketed.takeWhile (· != ']'), after ':' (after ']' bracketed))
  else
    (hostinfo.takeWhile (· != ':'), after ':' hostinfo)

/-- `hostname`: the zone of an address keeps its case. -/
def ParseResult.hostname (data : UrlData) (parsed : ParseResult) : Option String :=
  let host := parsed.hostinfo.1
  if host.isEmpty then none
  else
    some (data.lower (String.ofList (host.takeWhile (· != '%'))) ++
      String.ofList (host.dropWhile (· != '%')))

def digitsValue (digits : List Char) : Nat :=
  digits.foldl (fun value c => value * 10 + (c.toNat - 48)) 0

/-- The default limit of `int` on decimal texts. -/
def intMaxStrDigits : Nat := 4300

/-- `port`, with the message of a `ValueError`. -/
def ParseResult.port (parsed : ParseResult) (repr : String -> String) :
    Except String (Option Nat) :=
  let text := parsed.hostinfo.2
  if text.isEmpty then .ok none
  else if !text.all isAsciiDigit then
    .error ("Port could not be cast to integer value as " ++ repr (String.ofList text))
  else if intMaxStrDigits < text.length then
    let digits := text.length
    .error (s!"Exceeds the limit ({intMaxStrDigits} digits) for integer string conversion: " ++
      s!"value has {digits} digits; use sys.set_int_max_str_digits() to increase the limit")
  else if 65535 < digitsValue text then .error "Port out of range 0-65535"
  else .ok (some (digitsValue text))

end UrlParse
end Foundation
