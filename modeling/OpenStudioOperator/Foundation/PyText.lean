import OpenStudioOperator.Foundation.Json

/-!
# Texts of Python values

`int` of a text, `repr` and `str` of a document, and truth.  What counts as
a printable character, a decimal digit or a space is up to the Unicode
database.
-/

namespace Foundation

/-- The properties of characters that the language consults. -/
structure UnicodeData where
  isPrintable : Char -> Bool
  decimal : Char -> Option Nat
  isSpace : Char -> Bool

/-- The database restricted to ASCII. -/
def UnicodeData.ascii : UnicodeData where
  isPrintable := fun c => decide (32 <= c.toNat ∧ c.toNat < 127)
  decimal := fun c => if '0' <= c ∧ c <= '9' then some (c.toNat - 48) else none
  isSpace := fun c => c = ' ' || c = '\t' || c = '\n' || c = '\r' || c.toNat = 11 || c.toNat = 12

section PyText

variable (unicode : UnicodeData)

/-!
## `int` of a text
-/

/-- The longest text of digits that is converted. -/
def maxStrDigits : Nat := 4300

/-- The digits of a literal; single underscores may stand between them. -/
def literalDigits : List Char -> Option (List Nat)
  | [] => none
  | [c] => (unicode.decimal c).map fun d => [d]
  | c :: c' :: cs =>
      match unicode.decimal c with
      | none => none
      | some d =>
          (if c' = '_' then literalDigits cs else literalDigits (c' :: cs)).map (d :: ·)

def pyInt (text : String) : Option Int :=
  let stripped := ((text.toList.dropWhile unicode.isSpace).reverse.dropWhile
    unicode.isSpace).reverse
  let negative := stripped.head? = some '-'
  let unsigned :=
    if negative ∨ stripped.head? = some '+' then stripped.tail else stripped
  match literalDigits unicode unsigned with
  | none => none
  | some digits =>
      if maxStrDigits < digits.length then none
      else
        let n : Int := digits.foldl (fun n d => n * 10 + d) 0
        some (if negative then -n else n)

example : pyInt UnicodeData.ascii " -1_000 " = some (-1000) := by
  decide +kernel

/-!
## `repr` and `str`
-/

def hexDigits (width n : Nat) : List Char :=
  let digits := Nat.toDigits 16 n
  List.replicate (width - digits.length) '0' ++ digits

def reprChar (quote c : Char) : List Char :=
  if c = quote ∨ c = '\\' then ['\\', c]
  else if c = '\n' then ['\\', 'n']
  else if c = '\r' then ['\\', 'r']
  else if c = '\t' then ['\\', 't']
  else if unicode.isPrintable c then [c]
  else if c.toNat < 256 then '\\' :: 'x' :: hexDigits 2 c.toNat
  else if c.toNat < 65536 then '\\' :: 'u' :: hexDigits 4 c.toNat
  else '\\' :: 'U' :: hexDigits 8 c.toNat

def reprStr (s : String) : String :=
  let quote := if s.toList.contains '\'' && !s.toList.contains '"' then '"' else '\''
  String.ofList (quote :: s.toList.flatMap (reprChar unicode quote) ++ [quote])

namespace Json

mutual

def pyRepr : Json -> String
  | null => "None"
  | bool b => if b then "True" else "False"
  | int n => toString n
  | float (.finite _ text) => text
  | float (.infinite negative) => if negative then "-inf" else "inf"
  | str s => reprStr unicode s
  | arr items => "[" ++ String.intercalate ", " (reprItems items) ++ "]"
  | obj ms => "\x7b" ++ String.intercalate ", " (reprMembers ms) ++ "\x7d"

def reprItems : List Json -> List String
  | [] => []
  | j :: rest => pyRepr j :: reprItems rest

def reprMembers : List (String × Json) -> List String
  | [] => []
  | m :: rest => reprMember m :: reprMembers rest

def reprMember : String × Json -> String
  | (k, v) => reprStr unicode k ++ ": " ++ pyRepr v

end

def pyStr : Json -> String
  | str s => s
  | j => pyRepr unicode j

/-- `type(value).__name__`. -/
def typeName : Json -> String
  | null => "NoneType"
  | bool _ => "bool"
  | int _ => "int"
  | float _ => "float"
  | str _ => "str"
  | arr _ => "list"
  | obj _ => "dict"

/-- `bool(value)`. -/
def truthy : Json -> Bool
  | null => false
  | bool b => b
  | int n => n != 0
  | float (.finite value _) => value != 0
  | float (.infinite _) => true
  | str s => !s.isEmpty
  | arr items => !items.isEmpty
  | obj ms => !ms.isEmpty

end Json

example : Json.pyStr UnicodeData.ascii (.obj [("a", .arr [.str "it's", .bool true])]) =
    "\x7b'a': [\"it's\", True]\x7d" := by
  decide +kernel

end PyText

end Foundation
