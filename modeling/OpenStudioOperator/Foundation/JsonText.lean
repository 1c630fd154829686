import Mathlib.Data.List.TakeWhile
import OpenStudioOperator.Foundation.Dict
import OpenStudioOperator.Foundation.PyText

/-!
# The text of a document

A writer and a reader of JSON.  The writer puts a blank after every comma and
colon and escapes nothing but quotes, backslashes and control characters.  The
reader takes any spacing.  What a text of a fraction or an exponent stands for
is a parameter, and so is a float written as it is read back.
-/

namespace Foundation
namespace JsonText

/-!
## The writer
-/

def escapeChar (c : Char) : List Char :=
  if c = '"' then ['\\', '"']
  else if c = '\\' then ['\\', '\\']
  else if c = '\n' then ['\\', 'n']
  else if c = '\r' then ['\\', 'r']
  else if c = '\t' then ['\\', 't']
  else if c.toNat = 12 then ['\\', 'f']
  else if c.toNat = 8 then ['\\', 'b']
  else if c.toNat < 32 then '\\' :: 'u' :: hexDigits 4 c.toNat
  else [c]

def dumpsStr (s : String) : List Char := '"' :: (s.toList.flatMap escapeChar ++ ['"'])

mutual

def dumps : Json -> List Char
  | .null => ['n', 'u', 'l', 'l']
  | .bool true => ['t', 'r', 'u', 'e']
  | .bool false => ['f', 'a', 'l', 's', 'e']
  | .int n => (toString n).toList
  | .float (.finite _ text) => text.toList
  | .float (.infinite false) => ['I', 'n', 'f', 'i', 'n', 'i', 't', 'y']
  | .float (.infinite true) => ['-', 'I', 'n', 'f', 'i', 'n', 'i', 't', 'y']
  | .str s => dumpsStr s
  | .arr [] => ['[', ']']
  | .arr (j :: rest) => '[' :: (dumps j ++ dumpsItems rest)
  | .obj [] => ['\x7b', '\x7d']
  | .obj (m :: rest) => '\x7b' :: (dumpsMember m ++ dumpsMembers rest)

/-- The items after the first, and the bracket. -/
def dumpsItems : List Json -> List Char
  | [] => [']']
  | j :: rest => ',' :: ' ' :: (dumps j ++ dumpsItems rest)

def dumpsMembers : List (String × Json) -> List Char
  | [] => ['\x7d']
  | m :: rest => ',' :: ' ' :: (dumpsMember m ++ dumpsMembers rest)

def dumpsMember : String × Json -> List Char
  | (k, v) => dumpsStr k ++ (':' :: ' ' :: dumps v)

end

/-!
## The reader
-/

def isSpace (c : Char) : Bool := c == ' ' || c == '\t' || c == '\n' || c == '\r'

def skipSpace (cs : List Char) : List Char := cs.dropWhile isSpace

/-!
### Numbers
-/

def readNatural (cs : List Char) : List Char × List Char :=
  match cs with
  | [] => ([], [])
  | c :: rest =>
      if c = '0' then (['0'], rest)
      else ((c :: rest).takeWhile Char.isDigit, (c :: rest).dropWhile Char.isDigit)

/-- A point and the digits after it, if there are any. -/
def readFraction (cs : List Char) : List Char × List Char :=
  match cs with
  | [] => ([], [])
  | c :: rest =>
      if c = '.' ∧ (rest.takeWhile Char.isDigit).isEmpty = false then
        (c :: rest.takeWhile Char.isDigit, rest.dropWhile Char.isDigit)
      else ([], c :: rest)

/-- One character, if it is a sign of these. -/
def readSign (signs : List Char) (cs : List Char) : List Char × List Char :=
  match cs with
  | [] => ([], [])
  | c :: rest => if signs.contains c then ([c], rest) else ([], c :: rest)

def readExponent (cs : List Char) : List Char × List Char :=
  match cs with
  | [] => ([], [])
  | c :: rest =>
      let signed := readSign ['+', '-'] rest
      if (c = 'e' ∨ c = 'E') ∧ (signed.2.takeWhile Char.isDigit).isEmpty = false then
        (c :: (signed.1 ++ signed.2.takeWhile Char.isDigit), signed.2.dropWhile Char.isDigit)
      else ([], c :: rest)

section Reader

variable (floatOf : List Char -> FloatNumber)

/-- The value of a number in its parts. -/
def numberOf (minus digits fraction exponent : List Char) : Json :=
  if fraction.isEmpty && exponent.isEmpty then
    if minus.isEmpty then .int (Nat.ofDigitChars 10 digits 0)
    else .int (-(Nat.ofDigitChars 10 digits 0))
  else .float (floatOf (minus ++ (digits ++ (fraction ++ exponent))))

def readNumber (cs : List Char) : Option (Json × List Char) :=
  let minus := readSign ['-'] cs
  let digits := readNatural minus.2
  let fraction := readFraction digits.2
  let exponent := readExponent fraction.2
  if digits.1.isEmpty then none
  else some (numberOf floatOf minus.1 digits.1 fraction.1 exponent.1, exponent.2)

/-!
### Strings
-/

def hexValue (c : Char) : Option Nat :=
  if c.isDigit then some (c.toNat - 48)
  else if 'a' <= c ∧ c <= 'f' then some (c.toNat - 87)
  else if 'A' <= c ∧ c <= 'F' then some (c.toNat - 55)
  else none

def simpleEscape (c : Char) : Option Char :=
  [('"', '"'), ('\\', '\\'), ('/', '/'), ('b', '\x08'), ('f', '\x0c'), ('n', '\n'), ('r', '\r'),
    ('t', '\t')].lookup c

/-- Where in a string the reader is: between characters, after a backslash, in
the digits of a `\u`, or before the second half of a surrogate pair. -/
inductive StringMode where
  | plain
  | escaped
  | digits (left value : Nat) (high : Option Nat)
  | pair (high : Nat)
  | pairEscaped (high : Nat)
deriving DecidableEq, Repr

/-- What the four digits of a `\u` stand for; half a pair alone stands for nothing. -/
inductive CodeUnit where
  | char (c : Char)
  | high (unit : Nat)
  | stray
deriving DecidableEq, Repr

def codeUnit (high : Option Nat) (unit : Nat) : CodeUnit :=
  match high with
  | none =>
      if 55296 <= unit ∧ unit < 56320 then .high unit
      else if 56320 <= unit ∧ unit < 57344 then .stray
      else .char (Char.ofNat unit)
  | some high =>
      if 56320 <= unit ∧ unit < 57344 then
        .char (Char.ofNat (65536 + (high - 55296) * 1024 + (unit - 56320)))
      else .stray

def pushChar (c : Char) : List Char × List Char -> List Char × List Char
  | (s, rest) => (c :: s, rest)

/-- The characters up to the closing quote, and what follows it. -/
def readString : StringMode -> List Char -> Option (List Char × List Char)
  | _, [] => none
  | .plain, c :: rest =>
      if c = '"' then some ([], rest)
      else if c = '\\' then readString .escaped rest
      else if c.toNat < 32 then none
      else (readString .plain rest).map (pushChar c)
  | .escaped, c :: rest =>
      if c = 'u' then readString (.digits 3 0 none) rest
      else
        match simpleEscape c with
        | some e => (readString .plain rest).map (pushChar e)
        | none => none
  | .digits left value high, c :: rest =>
      match hexValue c with
      | none => none
      | some digit =>
          let value := 16 * value + digit
          match left with
          | left + 1 => readString (.digits left value high) rest
          | 0 =>
              match codeUnit high value with
              | .char e => (readString .plain rest).map (pushChar e)
              | .high unit => readString (.pair unit) rest
              | .stray => none
  | .pair high, c :: rest =>
      if c = '\\' then readString (.pairEscaped high) rest else none
  | .pairEscaped high, c :: rest =>
      if c = 'u' then readString (.digits 3 0 (some high)) rest else none

/-!
### Values
-/

/-- The members of an object as they are read: the last of a name counts, where the first stood. -/
def ofPairs (pairs : List (String × Json)) : List (String × Json) :=
  pairs.foldl (fun members pair => Dict.setEntries pair.1 pair.2 members) []

/-- A word or a number. -/
def readScalar : List Char -> Option (Json × List Char)
  | 'n' :: 'u' :: 'l' :: 'l' :: rest => some (.null, rest)
  | 't' :: 'r' :: 'u' :: 'e' :: rest => some (.bool true, rest)
  | 'f' :: 'a' :: 'l' :: 's' :: 'e' :: rest => some (.bool false, rest)
  | 'I' :: 'n' :: 'f' :: 'i' :: 'n' :: 'i' :: 't' :: 'y' :: rest =>
      some (.float (.infinite false), rest)
  | '-' :: 'I' :: 'n' :: 'f' :: 'i' :: 'n' :: 'i' :: 't' :: 'y' :: rest =>
      some (.float (.infinite true), rest)
  | cs => readNumber floatOf cs

mutual

/-- A value at the start of a text, and what follows it; values are nested, and
the items of one follow each other, at most `fuel` deep. -/
def readValue : Nat -> List Char -> Option (Json × List Char)
  | 0, _ => none
  | fuel + 1, cs =>
      match cs with
      | '"' :: rest =>
          (readString .plain rest).map fun found => (.str (String.ofList found.1), found.2)
      | '[' :: rest =>
          match skipSpace rest with
          | ']' :: rest => some (.arr [], rest)
          | rest => (readItems fuel rest).map fun found => (.arr found.1, found.2)
      | '\x7b' :: rest =>
          match skipSpace rest with
          | '\x7d' :: rest => some (.obj [], rest)
          | rest => (readMembers fuel rest).map fun found => (.obj (ofPairs found.1), found.2)
      | cs => readScalar floatOf cs

def readItems : Nat -> List Char -> Option (List Json × List Char)
  | 0, _ => none
  | fuel + 1, cs =>
      match readValue fuel cs with
      | none => none
      | some (j, rest) =>
          match skipSpace rest with
          | ',' :: rest =>
              (readItems fuel (skipSpace rest)).map fun found => (j :: found.1, found.2)
          | ']' :: rest => some ([j], rest)
          | _ => none

def readMembers : Nat -> List Char -> Option (List (String × Json) × List Char)
  | 0, _ => none
  | fuel + 1, cs =>
      match cs with
      | '"' :: rest =>
          match readString .plain rest with
          | none => none
          | some (k, rest) =>
              match skipSpace rest with
              | ':' :: rest =>
                  match readValue fuel (skipSpace rest) with
                  | none => none
                  | some (v, rest) =>
                      match skipSpace rest with
                      | ',' :: rest =>
                          (readMembers fuel (skipSpace rest)).map fun found =>
                            ((String.ofList k, v) :: found.1, found.2)
                      | '\x7d' :: rest => some ([(String.ofList k, v)], rest)
                      | _ => none
              | _ => none
      | _ => none

end

/-- The document of a text; it nests no deeper than it is long. -/
def loads (text : List Char) : Option Json :=
  match readValue floatOf (text.length + 1) (skipSpace text) with
  | some (j, rest) => if (skipSpace rest).isEmpty then some j else none
  | none => none

end Reader

/-!
## Numbers are read back
-/

def isNumberChar (c : Char) : Bool :=
  c.isDigit || c == '.' || c == 'e' || c == 'E' || c == '+' || c == '-'

/-- What follows a number: the end, or a character that is not of a number. -/
def Stops (rest : List Char) : Prop :=
  forall c later, rest = c :: later -> isNumberChar c = false

section Numbers

variable {rest : List Char}

theorem stops_nil : Stops [] := fun _ _ h => nomatch h

theorem stops_cons {c : Char} (h : isNumberChar c = false) : Stops (c :: rest) := by
  intro c' later heq
  cases heq
  exact h

theorem Stops.not_digit {c : Char} {later : List Char} (h : Stops (c :: later)) :
    c.isDigit = false := by
  have hc := h c later rfl
  unfold isNumberChar at hc
  simp only [Bool.or_eq_false_iff] at hc
  exact hc.1.1.1.1.1

theorem Stops.ne {c d : Char} {later : List Char} (h : Stops (c :: later))
    (hd : isNumberChar d = true) : c ≠ d := by
  intro heq
  have hc := h c later rfl
  rw [heq, hd] at hc
  cases hc

theorem takeWhile_append (h : Stops rest) : forall cs : List Char,
    (cs ++ rest).takeWhile Char.isDigit = cs.takeWhile Char.isDigit := by
  intro cs
  induction cs with
  | nil =>
      cases rest with
      | nil => rfl
      | cons c later =>
          rw [List.nil_append, List.takeWhile_cons, h.not_digit]
          rfl
  | cons c more ih =>
      rw [List.cons_append, List.takeWhile_cons, List.takeWhile_cons, ih]

theorem dropWhile_append (h : Stops rest) : forall cs : List Char,
    (cs ++ rest).dropWhile Char.isDigit = cs.dropWhile Char.isDigit ++ rest := by
  intro cs
  induction cs with
  | nil =>
      cases rest with
      | nil => rfl
      | cons c later =>
          rw [List.nil_append, List.dropWhile_cons, h.not_digit]
          rfl
  | cons c more ih =>
      rw [List.cons_append, List.dropWhile_cons, List.dropWhile_cons, ih]
      split <;> rfl

/-- A part of a number is read off a text as it is off the number alone. -/
def Extends (read : List Char -> List Char × List Char) : Prop :=
  forall cs rest, Stops rest -> read (cs ++ rest) = ((read cs).1, (read cs).2 ++ rest)

theorem extends_readNatural : Extends readNatural := by
  intro cs rest h
  cases cs with
  | nil =>
      cases rest with
      | nil => rfl
      | cons c later =>
          show readNatural (c :: later) = ([], c :: later)
          unfold readNatural
          simp only
          rw [if_neg (h.ne rfl), List.takeWhile_cons, List.dropWhile_cons, h.not_digit]
          rfl
  | cons c more =>
      unfold readNatural
      simp only [List.cons_append]
      rw [← List.cons_append, takeWhile_append h, dropWhile_append h]
      split <;> rfl

theorem extends_readFraction : Extends readFraction := by
  intro cs rest h
  cases cs with
  | nil =>
      cases rest with
      | nil => rfl
      | cons c later => exact if_neg fun hboth => absurd hboth.1 (h.ne rfl)
  | cons c more =>
      unfold readFraction
      simp only [List.cons_append, takeWhile_append h, dropWhile_append h]
      split <;> rfl

theorem extends_readSign (signs : List Char) (hsigns : signs.all isNumberChar = true) :
    Extends (readSign signs) := by
  intro cs rest h
  cases cs with
  | nil =>
      cases rest with
      | nil => rfl
      | cons c later =>
          apply if_neg
          intro hmem
          have hc := List.all_eq_true.mp hsigns c (List.contains_iff_mem.mp hmem)
          exact h.ne hc rfl
  | cons c more =>
      unfold readSign
      simp only [List.cons_append]
      split <;> rfl

theorem extends_readExponent : Extends readExponent := by
  intro cs rest h
  cases cs with
  | nil =>
      cases rest with
      | nil => rfl
      | cons c later => exact if_neg fun hboth => hboth.1.elim (h.ne rfl) (h.ne rfl)
  | cons c more =>
      unfold readExponent
      simp only [List.cons_append, extends_readSign ['+', '-'] rfl more rest h,
        takeWhile_append h, dropWhile_append h]
      split <;> rfl

/-- A number that is read off a text alone is read off any text it starts. -/
theorem readNumber_append {floatOf : List Char -> FloatNumber} {cs : List Char} {j : Json}
    (hread : readNumber floatOf cs = some (j, [])) (h : Stops rest) :
    readNumber floatOf (cs ++ rest) = some (j, rest) := by
  unfold readNumber at hread ⊢
  simp only [extends_readSign ['-'] rfl cs rest h, extends_readNatural _ rest h,
    extends_readFraction _ rest h, extends_readExponent _ rest h] at hread ⊢
  split at hread
  · cases hread
  · rename_i hdigits
    rw [if_neg hdigits]
    rcases Prod.mk.inj (Option.some.inj hread) with ⟨hj, hrest⟩
    rw [hj, hrest]
    rfl

/-- A part of a number is a prefix of the text, and of characters of numbers. -/
def Consumes (read : List Char -> List Char × List Char) : Prop :=
  forall cs, (read cs).1 ++ (read cs).2 = cs ∧
    forall c, c ∈ (read cs).1 -> isNumberChar c = true

theorem isNumberChar_of_digit {c : Char} (h : c.isDigit = true) : isNumberChar c = true := by
  unfold isNumberChar
  rw [h]
  rfl

theorem isNumberChar_takeWhile {cs : List Char} {c : Char}
    (h : c ∈ cs.takeWhile Char.isDigit) : isNumberChar c = true :=
  isNumberChar_of_digit (List.mem_takeWhile_imp h)

theorem consumes_readSign (signs : List Char) (hsigns : signs.all isNumberChar = true) :
    Consumes (readSign signs) := by
  intro cs
  cases cs with
  | nil => exact ⟨rfl, fun _ hc => absurd hc List.not_mem_nil⟩
  | cons c rest =>
      unfold readSign
      simp only
      split
      · rename_i hmem
        refine ⟨rfl, ?_⟩
        intro d hd
        rw [List.mem_singleton.mp hd]
        exact List.all_eq_true.mp hsigns c (List.contains_iff_mem.mp hmem)
      · exact ⟨rfl, fun _ hd => absurd hd List.not_mem_nil⟩

theorem consumes_readNatural : Consumes readNatural := by
  intro cs
  cases cs with
  | nil => exact ⟨rfl, fun _ hc => absurd hc List.not_mem_nil⟩
  | cons c rest =>
      unfold readNatural
      simp only
      split
      · rename_i hzero
        refine ⟨by rw [hzero]; rfl, ?_⟩
        intro d hd
        rw [List.mem_singleton.mp hd]
        rfl
      · exact ⟨List.takeWhile_append_dropWhile, fun _ hd => isNumberChar_takeWhile hd⟩

theorem consumes_readFraction : Consumes readFraction := by
  intro cs
  cases cs with
  | nil => exact ⟨rfl, fun _ hc => absurd hc List.not_mem_nil⟩
  | cons c rest =>
      unfold readFraction
      simp only
      split
      · rename_i hpoint
        refine ⟨by rw [List.cons_append, List.takeWhile_append_dropWhile], ?_⟩
        intro d hd
        rcases List.mem_cons.mp hd with hnew | hdigit
        · rw [hnew, hpoint.1]
          rfl
        · exact isNumberChar_takeWhile hdigit
      · exact ⟨rfl, fun _ hd => absurd hd List.not_mem_nil⟩

theorem consumes_readExponent : Consumes readExponent := by
  intro cs
  cases cs with
  | nil => exact ⟨rfl, fun _ hc => absurd hc List.not_mem_nil⟩
  | cons c rest =>
      have hsign := consumes_readSign ['+', '-'] rfl rest
      unfold readExponent
      simp only
      split
      · rename_i hexponent
        constructor
        · rw [List.cons_append, List.append_assoc, List.takeWhile_append_dropWhile, hsign.1]
        · intro d hd
          rcases List.mem_cons.mp hd with hnew | hmore
          · rw [hnew]
            rcases hexponent.1 with he | hE
            · rw [he]
              rfl
            · rw [hE]
              rfl
          · rcases List.mem_append.mp hmore with hsigned | hdigit
            · exact hsign.2 d hsigned
            · exact isNumberChar_takeWhile hdigit
      · exact ⟨rfl, fun _ hd => absurd hd List.not_mem_nil⟩

/-- The text of a number has characters of numbers only. -/
theorem isNumberChar_of_readNumber {floatOf : List Char -> FloatNumber} {cs : List Char}
    {j : Json} (hread : readNumber floatOf cs = some (j, [])) :
    forall c, c ∈ cs -> isNumberChar c = true := by
  have hminus := consumes_readSign ['-'] rfl cs
  have hdigits := consumes_readNatural (readSign ['-'] cs).2
  have hfraction := consumes_readFraction (readNatural (readSign ['-'] cs).2).2
  have hexponent := consumes_readExponent (readFraction (readNatural (readSign ['-'] cs).2).2).2
  unfold readNumber at hread
  simp only at hread
  split at hread
  · cases hread
  · have hrest := (Prod.mk.inj (Option.some.inj hread)).2
    rw [hrest, List.append_nil] at hexponent
    intro c hc
    rw [← hminus.1, ← hdigits.1, ← hfraction.1, ← hexponent.1] at hc
    rcases List.mem_append.mp hc with hc | hc
    · exact hminus.2 c hc
    · rcases List.mem_append.mp hc with hc | hc
      · exact hdigits.2 c hc
      · rcases List.mem_append.mp hc with hc | hc
        · exact hfraction.2 c hc
        · exact hexponent.2 c hc

/-!
### Integers
-/

theorem head_toDigits {n : Nat} (hn : n ≠ 0) : forall c cs, Nat.toDigits 10 n = c :: cs ->
    c ≠ '0' := by
  induction n using Nat.strongRecOn with
  | ind n ih =>
      intro c cs hdigits
      rw [Nat.toDigits_eq_if (by decide)] at hdigits
      by_cases hsmall : n < 10
      · rw [if_pos hsmall] at hdigits
        rw [← (List.cons.inj hdigits).1]
        revert hn
        have hall : forall d, d < 10 -> d ≠ 0 -> d.digitChar ≠ '0' := by decide
        exact hall n hsmall
      · rw [if_neg hsmall] at hdigits
        cases hmore : Nat.toDigits 10 (n / 10) with
        | nil => exact absurd hmore Nat.toDigits_ne_nil
        | cons d ds =>
            rw [hmore, List.cons_append] at hdigits
            rw [← (List.cons.inj hdigits).1]
            exact ih (n / 10) (by omega) (by omega) d ds hmore

theorem isDigit_toDigits {n : Nat} {c : Char} (h : c ∈ Nat.toDigits 10 n) : c.isDigit = true :=
  Nat.isDigit_of_mem_toDigits (by decide) (by decide) h

theorem readNatural_toDigits (n : Nat) :
    readNatural (Nat.toDigits 10 n) = (Nat.toDigits 10 n, []) := by
  by_cases hn : n = 0
  · rw [hn]
    rfl
  · cases hdigits : Nat.toDigits 10 n with
    | nil => exact absurd hdigits Nat.toDigits_ne_nil
    | cons c cs =>
        have hall : forall d, d ∈ c :: cs -> d.isDigit = true := by
          intro d hd
          rw [← hdigits] at hd
          exact isDigit_toDigits hd
        unfold readNatural
        simp only
        rw [if_neg (head_toDigits hn c cs hdigits), List.takeWhile_eq_self_iff.mpr hall,
          List.dropWhile_eq_nil_iff.mpr hall]

theorem readNumber_toDigits (floatOf : List Char -> FloatNumber) (n : Nat) :
    readNumber floatOf (Nat.toDigits 10 n) = some (.int n, []) ∧
      readNumber floatOf ('-' :: Nat.toDigits 10 n) = some (.int (-n), []) := by
  have hne : (Nat.toDigits 10 n).isEmpty = false :=
    List.isEmpty_eq_false_iff.mpr Nat.toDigits_ne_nil
  have hplain : readSign ['-'] (Nat.toDigits 10 n) = ([], Nat.toDigits 10 n) := by
    cases hdigits : Nat.toDigits 10 n with
    | nil => rfl
    | cons c cs =>
        apply if_neg
        intro hmem
        have hdigit : c.isDigit = true :=
          isDigit_toDigits (by rw [hdigits]; exact List.mem_cons_self)
        rw [List.mem_singleton.mp (List.contains_iff_mem.mp hmem)] at hdigit
        cases hdigit
  have hminus : readSign ['-'] ('-' :: Nat.toDigits 10 n) = (['-'], Nat.toDigits 10 n) := rfl
  constructor
  · unfold readNumber
    simp only [hplain, readNatural_toDigits, hne, Bool.false_eq_true, if_false]
    show some (Json.int (Nat.ofDigitChars 10 (Nat.toDigits 10 n) 0), []) = _
    rw [Nat.ofDigitChars_ten_toDigits]
  · unfold readNumber
    simp only [hminus, readNatural_toDigits, hne, Bool.false_eq_true, if_false]
    show some (Json.int (-(Nat.ofDigitChars 10 (Nat.toDigits 10 n) 0 : Nat)), []) = _
    rw [Nat.ofDigitChars_ten_toDigits]

theorem readNumber_toString (floatOf : List Char -> FloatNumber) (n : Int) :
    readNumber floatOf (toString n).toList = some (.int n, []) := by
  cases n with
  | ofNat m =>
      have htext : (toString (Int.ofNat m)).toList = Nat.toDigits 10 m := Nat.toList_repr
      rw [htext]
      exact (readNumber_toDigits floatOf m).1
  | negSucc m =>
      have htext : (toString (Int.negSucc m)).toList = '-' :: Nat.toDigits 10 (m + 1) := by
        show ("-" ++ Nat.repr (m + 1)).toList = _
        rw [String.toList_append, Nat.toList_repr]
        rfl
      rw [htext]
      exact (readNumber_toDigits floatOf (m + 1)).2

end Numbers

/-!
## Strings are read back
-/

theorem hexDigits_control : forall n, n < 32 ->
    hexDigits 4 n = ['0', '0', Nat.digitChar (n / 16), Nat.digitChar (n % 16)] := by
  decide

theorem hexValue_digitChar : forall d, d < 16 -> hexValue (Nat.digitChar d) = some d := by
  decide

/-- An escaped character is read as itself. -/
theorem readString_escapeChar (c : Char) (rest : List Char) :
    readString .plain (escapeChar c ++ rest) = (readString .plain rest).map (pushChar c) := by
  unfold escapeChar
  iterate 5
    split
    · rename_i h
      rw [h]
      rfl
  split
  · rename_i h
    have hc : c = '\x0c' := Char.toNat_inj.mp h
    rw [hc]
    rfl
  split
  · rename_i h
    have hc : c = '\x08' := Char.toNat_inj.mp h
    rw [hc]
    rfl
  split
  · rename_i hcontrol
    have hhigh := hexValue_digitChar (c.toNat / 16) (by omega)
    have hlow := hexValue_digitChar (c.toNat % 16) (by omega)
    have hvalue : 16 * (16 * (16 * (16 * 0 + 0) + 0) + c.toNat / 16) + c.toNat % 16 = c.toNat := by
      omega
    have hunit : codeUnit none c.toNat = .char c := by
      unfold codeUnit
      simp only
      rw [if_neg (by omega), if_neg (by omega), Char.ofNat_toNat]
    have hzero : hexValue '0' = some 0 := rfl
    rw [hexDigits_control c.toNat hcontrol]
    simp only [List.cons_append, List.nil_append]
    have hopen : readString .plain
        ('\\' :: 'u' :: '0' :: '0' :: Nat.digitChar (c.toNat / 16) ::
          Nat.digitChar (c.toNat % 16) :: rest) =
        readString (.digits 3 0 none)
          ('0' :: '0' :: Nat.digitChar (c.toNat / 16) ::
            Nat.digitChar (c.toNat % 16) :: rest) := rfl
    rw [hopen]
    simp only [readString, hzero, hhigh, hlow, hvalue, hunit]
  · rename_i hquote hslash _ _ _ _ _ hcontrol
    rw [List.singleton_append, readString, if_neg hquote, if_neg hslash, if_neg hcontrol]

theorem readString_flatMap (cs rest : List Char) :
    readString .plain (cs.flatMap escapeChar ++ '"' :: rest) = some (cs, rest) := by
  induction cs with
  | nil => rfl
  | cons c more ih =>
      rw [List.flatMap_cons, List.append_assoc, readString_escapeChar, ih]
      rfl

/-!
## Documents are read back
-/

theorem setEntries_of_not_mem {k : String} {v : Json} : forall {members : List (String × Json)},
    k ∉ members.map Prod.fst -> Dict.setEntries k v members = members ++ [(k, v)]
  | [], _ => rfl
  | (k', v') :: rest, h => by
      rw [List.map_cons, List.mem_cons, not_or] at h
      rw [Dict.setEntries, if_neg (Ne.symm h.1), setEntries_of_not_mem h.2, List.cons_append]

theorem foldl_setEntries (pairs members : List (String × Json))
    (h : ((members ++ pairs).map Prod.fst).Nodup) :
    pairs.foldl (fun members pair => Dict.setEntries pair.1 pair.2 members) members =
      members ++ pairs := by
  induction pairs generalizing members with
  | nil => rw [List.foldl_nil, List.append_nil]
  | cons pair rest ih =>
      have hnew : pair.1 ∉ members.map Prod.fst := by
        rw [List.map_append] at h
        intro hmem
        exact (List.nodup_append.mp h).2.2 pair.1 hmem pair.1
          (List.mem_map.mpr ⟨pair, List.mem_cons_self, rfl⟩) rfl
      have hassoc : members ++ pair :: rest = (members ++ [pair]) ++ rest := by
        rw [List.append_assoc, List.singleton_append]
      rw [List.foldl_cons, setEntries_of_not_mem hnew, hassoc]
      rw [hassoc] at h
      exact ih _ h

/-- Members of distinct names are read as they stand. -/
theorem ofPairs_of_nodup {pairs : List (String × Json)} (h : (pairs.map Prod.fst).Nodup) :
    ofPairs pairs = pairs :=
  foldl_setEntries pairs [] h

section Documents

variable (floatOf : List Char -> FloatNumber)

mutual

/-- The names in an object are distinct, and a float is written as it is read. -/
def Readable : Json -> Prop
  | .null => True
  | .bool _ => True
  | .int _ => True
  | .float (.finite value text) =>
      readNumber floatOf text.toList = some (.float (.finite value text), [])
  | .float (.infinite _) => True
  | .str _ => True
  | .arr items => ItemsReadable items
  | .obj members => (members.map Prod.fst).Nodup ∧ MembersReadable members

def ItemsReadable : List Json -> Prop
  | [] => True
  | j :: rest => Readable j ∧ ItemsReadable rest

def MembersReadable : List (String × Json) -> Prop
  | [] => True
  | m :: rest => MemberReadable m ∧ MembersReadable rest

def MemberReadable : String × Json -> Prop
  | (_, v) => Readable v

end

/-- A document is read back off any text that it starts. -/
def ReadsBack (j : Json) : Prop :=
  forall n tail, Stops tail -> (dumps j).length <= n ->
    readValue floatOf n (dumps j ++ tail) = some (j, tail)

variable {floatOf}

theorem membersReadable_of_forall : forall {members : List (String × Json)},
    (forall m, m ∈ members -> Readable floatOf m.2) -> MembersReadable floatOf members
  | [], _ => trivial
  | m :: rest, h => by
      refine ⟨?_, membersReadable_of_forall fun m' hm' => h m' (List.mem_cons_of_mem m hm')⟩
      cases m
      exact h _ List.mem_cons_self

theorem readScalar_of_number {cs : List Char} {j : Json} {tail : List Char}
    (hread : readNumber floatOf cs = some (j, [])) (h : Stops tail) :
    readScalar floatOf (cs ++ tail) = some (j, tail) := by
  have hchars := isNumberChar_of_readNumber hread
  cases cs with
  | nil => cases hread
  | cons c more =>
      have hhead := hchars c List.mem_cons_self
      rw [← readNumber_append hread h]
      unfold readScalar
      split
      · rename_i heq
        rw [(List.cons.inj heq).1] at hhead
        cases hhead
      · rename_i heq
        rw [(List.cons.inj heq).1] at hhead
        cases hhead
      · rename_i heq
        rw [(List.cons.inj heq).1] at hhead
        cases hhead
      · rename_i heq
        rw [(List.cons.inj heq).1] at hhead
        cases hhead
      · rename_i heq
        rcases List.cons.inj heq with ⟨hminus, hnext⟩
        cases more with
        | nil =>
            rw [hminus] at hread
            cases hread
        | cons d later =>
            have hsecond := hchars d (List.mem_cons_of_mem _ List.mem_cons_self)
            rw [(List.cons.inj hnext).1] at hsecond
            cases hsecond
      · rfl

/-- A number is none of the characters that open another value. -/
theorem readsBack_of_number {j : Json} (hread : readNumber floatOf (dumps j) = some (j, [])) :
    ReadsBack floatOf j := by
  intro n tail htail hn
  have hscalar := readScalar_of_number hread htail
  have hchars := isNumberChar_of_readNumber hread
  cases hdumps : dumps j with
  | nil =>
      rw [hdumps] at hread
      cases hread
  | cons c more =>
      rw [hdumps] at hchars hn hscalar
      have hhead := hchars c List.mem_cons_self
      cases n with
      | zero => cases hn
      | succ fuel =>
          rw [← hscalar, List.cons_append]
          unfold readValue
          split
          · rename_i heq
            rw [(List.cons.inj heq).1] at hhead
            cases hhead
          · rename_i heq
            rw [(List.cons.inj heq).1] at hhead
            cases hhead
          · rename_i heq
            rw [(List.cons.inj heq).1] at hhead
            cases hhead
          · rfl

theorem readsBack_str (s : String) : ReadsBack floatOf (.str s) := by
  intro n tail _ hn
  cases n with
  | zero => cases hn
  | succ fuel =>
      show readValue floatOf (fuel + 1) ('"' :: (s.toList.flatMap escapeChar ++ ['"'] ++ tail)) = _
      rw [List.append_assoc, List.singleton_append, readValue, readString_flatMap]
      simp only [Option.map_some, String.ofList_toList]

/-- What a value starts with: no space, and no bracket that closes. -/
theorem head_dumps {j : Json} (h : Readable floatOf j) :
    exists c more, dumps j = c :: more ∧ isSpace c = false ∧ c ≠ ']' := by
  have hnumber : forall {k : Json}, readNumber floatOf (dumps k) = some (k, []) ->
      exists c more, dumps k = c :: more ∧ isSpace c = false ∧ c ≠ ']' := by
    intro k hread
    cases hdumps : dumps k with
    | nil =>
        rw [hdumps] at hread
        cases hread
    | cons c more =>
        rw [hdumps] at hread
        have hc := isNumberChar_of_readNumber hread c List.mem_cons_self
        refine ⟨c, more, rfl, ?_, ?_⟩
        · cases hspace : isSpace c with
          | false => rfl
          | true =>
              unfold isSpace at hspace
              simp only [Bool.or_eq_true, beq_iff_eq] at hspace
              rcases hspace with ((hc' | hc') | hc') | hc' <;> rw [hc'] at hc <;> cases hc
        · intro hclose
          rw [hclose] at hc
          cases hc
  cases j with
  | null => exact ⟨_, _, rfl, rfl, by decide⟩
  | bool b => cases b <;> exact ⟨_, _, rfl, rfl, by decide⟩
  | int n => exact hnumber (readNumber_toString floatOf n)
  | float x =>
      cases x with
      | finite value text => exact hnumber h
      | infinite negative => cases negative <;> exact ⟨_, _, rfl, rfl, by decide⟩
  | str s => exact ⟨_, _, rfl, rfl, by decide⟩
  | arr items => cases items <;> exact ⟨_, _, rfl, rfl, by decide⟩
  | obj members => cases members <;> exact ⟨_, _, rfl, rfl, by decide⟩

theorem skipSpace_dumps {j : Json} (h : Readable floatOf j) (tail : List Char) :
    skipSpace (dumps j ++ tail) = dumps j ++ tail := by
  rcases head_dumps h with ⟨c, more, hdumps, hspace, _⟩
  rw [hdumps, skipSpace, List.cons_append, List.dropWhile_cons, if_neg (by rw [hspace]; decide)]

theorem skipSpace_quote (cs : List Char) : skipSpace ('"' :: cs) = '"' :: cs := rfl

theorem stops_dumpsItems (items : List Json) (tail : List Char) :
    Stops (dumpsItems items ++ tail) := by
  cases items with
  | nil => exact stops_cons rfl
  | cons j rest => exact stops_cons rfl

theorem stops_dumpsMembers (members : List (String × Json)) (tail : List Char) :
    Stops (dumpsMembers members ++ tail) := by
  cases members with
  | nil => exact stops_cons rfl
  | cons m rest => exact stops_cons rfl

theorem length_dumpsItems (items : List Json) : 1 <= (dumpsItems items).length := by
  cases items with
  | nil => exact Nat.le_refl 1
  | cons j rest => exact Nat.succ_le_succ (Nat.zero_le _)

theorem length_dumpsMember (k : String) (v : Json) :
    (dumps v).length + 4 <= (dumpsMember (k, v)).length := by
  show _ <= ('"' :: (k.toList.flatMap escapeChar ++ ['"']) ++ (':' :: ' ' :: dumps v)).length
  simp only [List.length_cons, List.length_append, List.length_nil]
  omega

/-- The first item is read, and then the others after it. -/
theorem readItems_cons {j : Json} {items : List Json} (hback : ReadsBack floatOf j)
    {fuel : Nat} {tail : List Char} (hfuel : (dumps j).length <= fuel)
    (hrest : forall j' rest, items = j' :: rest ->
      readItems floatOf fuel (dumps j' ++ (dumpsItems rest ++ tail)) = some (items, tail))
    (hitems : ItemsReadable floatOf items) :
    readItems floatOf (fuel + 1) (dumps j ++ (dumpsItems items ++ tail)) =
      some (j :: items, tail) := by
  rw [readItems, hback fuel _ (stops_dumpsItems items tail) hfuel]
  cases items with
  | nil => rfl
  | cons j' rest =>
      have hskip := skipSpace_dumps hitems.1 (dumpsItems rest ++ tail)
      have hspace : skipSpace (' ' :: (dumps j' ++ (dumpsItems rest ++ tail))) =
          skipSpace (dumps j' ++ (dumpsItems rest ++ tail)) := rfl
      have htext : skipSpace (dumpsItems (j' :: rest) ++ tail) =
          ',' :: ' ' :: (dumps j' ++ (dumpsItems rest ++ tail)) := by
        rw [dumpsItems, List.cons_append, List.cons_append, List.append_assoc]
        rfl
      simp only [htext, hspace, hskip, hrest j' rest rfl, Option.map_some]

theorem readMembers_cons {k : String} {v : Json} {members : List (String × Json)}
    (hv : Readable floatOf v) (hback : ReadsBack floatOf v) {fuel : Nat} {tail : List Char}
    (hfuel : (dumps v).length <= fuel)
    (hrest : forall m rest, members = m :: rest ->
      readMembers floatOf fuel (dumpsMember m ++ (dumpsMembers rest ++ tail)) =
        some (members, tail)) :
    readMembers floatOf (fuel + 1) (dumpsMember (k, v) ++ (dumpsMembers members ++ tail)) =
      some ((k, v) :: members, tail) := by
  have htext : dumpsMember (k, v) ++ (dumpsMembers members ++ tail) =
      '"' :: (k.toList.flatMap escapeChar ++
        '"' :: ':' :: ' ' :: (dumps v ++ (dumpsMembers members ++ tail))) := by
    rw [dumpsMember, dumpsStr]
    simp only [List.cons_append, List.append_assoc, List.nil_append]
  have hskip := skipSpace_dumps hv (dumpsMembers members ++ tail)
  have hspace : skipSpace (' ' :: (dumps v ++ (dumpsMembers members ++ tail))) =
      skipSpace (dumps v ++ (dumpsMembers members ++ tail)) := rfl
  have hcolon : skipSpace (':' :: ' ' :: (dumps v ++ (dumpsMembers members ++ tail))) =
      ':' :: ' ' :: (dumps v ++ (dumpsMembers members ++ tail)) := rfl
  rw [htext, readMembers, readString_flatMap]
  simp only [hcolon, hspace, hskip, hback fuel _ (stops_dumpsMembers members tail) hfuel,
    String.ofList_toList]
  cases members with
  | nil => rfl
  | cons m rest =>
      have hquote : skipSpace (' ' :: (dumpsMember m ++ (dumpsMembers rest ++ tail))) =
          dumpsMember m ++ (dumpsMembers rest ++ tail) := by
        cases m
        rfl
      have hnext : skipSpace (dumpsMembers (m :: rest) ++ tail) =
          ',' :: ' ' :: (dumpsMember m ++ (dumpsMembers rest ++ tail)) := by
        rw [dumpsMembers, List.cons_append, List.cons_append, List.append_assoc]
        rfl
      simp only [hnext, hquote, hrest m rest rfl, Option.map_some]

mutual

/-- What is written is read back, whatever follows it. -/
theorem readsBack : forall j : Json, Readable floatOf j -> ReadsBack floatOf j
  | .null, _ => by
      intro n tail _ hn
      cases n with
      | zero => cases hn
      | succ fuel => rfl
  | .bool b, _ => by
      intro n tail _ hn
      cases n with
      | zero => cases b <;> cases hn
      | succ fuel => cases b <;> rfl
  | .int n, _ => readsBack_of_number (readNumber_toString floatOf n)
  | .float (.finite value text), h => readsBack_of_number h
  | .float (.infinite negative), _ => by
      intro n tail _ hn
      cases n with
      | zero => cases negative <;> cases hn
      | succ fuel => cases negative <;> rfl
  | .str s, _ => readsBack_str s
  | .arr items, h => by
      have hitems := readsBackItems items h
      intro n tail _ hn
      cases n with
      | zero => cases items <;> cases hn
      | succ fuel =>
          cases items with
          | nil => rfl
          | cons j rest =>
              rcases head_dumps h.1 with ⟨c, more, hdumps, hspace, hclose⟩
              have hskip := skipSpace_dumps h.1 (dumpsItems rest ++ tail)
              have hread := hitems j rest rfl fuel tail (by
                rw [dumps, List.length_cons, List.length_append] at hn
                omega)
              rw [dumps, List.cons_append, List.append_assoc, readValue, hskip]
              rw [hdumps, List.cons_append] at hread ⊢
              split
              · rename_i heq
                exact absurd (List.cons.inj heq).1 hclose
              · rw [hread]
                rfl
  | .obj members, h => by
      have hmembers := readsBackMembers members h.2
      intro n tail _ hn
      cases n with
      | zero => cases members <;> cases hn
      | succ fuel =>
          cases members with
          | nil => rfl
          | cons m rest =>
              have hread := hmembers m rest rfl fuel tail (by
                rw [dumps, List.length_cons, List.length_append] at hn
                omega)
              have hopen : exists more, dumpsMember m = '"' :: more := by
                cases m
                exact ⟨_, rfl⟩
              rcases hopen with ⟨more, hmore⟩
              rw [dumps, List.cons_append, List.append_assoc, readValue]
              rw [hmore, List.cons_append] at hread ⊢
              rw [skipSpace_quote]
              split
              · rename_i heq
                cases (List.cons.inj heq).1
              · rw [hread, Option.map_some, ofPairs_of_nodup h.1]

theorem readsBackItems : forall items : List Json, ItemsReadable floatOf items ->
    forall j rest, items = j :: rest -> forall n tail,
      (dumps j).length + (dumpsItems rest).length <= n ->
      readItems floatOf n (dumps j ++ (dumpsItems rest ++ tail)) = some (items, tail)
  | [], _ => fun _ _ heq => nomatch heq
  | j :: rest, h => by
      have hj := readsBack j h.1
      have hrest := readsBackItems rest h.2
      intro j' rest' heq n tail hn
      cases heq
      have hlength := length_dumpsItems rest
      cases n with
      | zero => omega
      | succ fuel =>
          apply readItems_cons hj (by omega) ?_ h.2
          intro j' rest' heq
          apply hrest j' rest' heq
          rw [heq, dumpsItems, List.length_cons, List.length_cons, List.length_append] at hn
          omega

theorem readsBackMembers : forall members : List (String × Json),
    MembersReadable floatOf members ->
    forall m rest, members = m :: rest -> forall n tail,
      (dumpsMember m).length + (dumpsMembers rest).length <= n ->
      readMembers floatOf n (dumpsMember m ++ (dumpsMembers rest ++ tail)) =
        some (members, tail)
  | [], _ => fun _ _ heq => nomatch heq
  | (k, v) :: rest, h => by
      have hv := readsBack v h.1
      have hrest := readsBackMembers rest h.2
      intro m' rest' heq n tail hn
      cases heq
      have hlength := length_dumpsMember k v
      cases n with
      | zero => omega
      | succ fuel =>
          apply readMembers_cons h.1 hv (by omega)
          intro m' rest' heq
          apply hrest m' rest' heq
          rw [heq, dumpsMembers, List.length_cons, List.length_cons, List.length_append] at hn
          omega

end

theorem loads_dumps {j : Json} (h : Readable floatOf j) : loads floatOf (dumps j) = some j := by
  have hread := readsBack j h ((dumps j).length + 1) [] stops_nil (Nat.le_succ _)
  have hskip := skipSpace_dumps h []
  rw [List.append_nil] at hread hskip
  unfold loads
  rw [hskip, hread]
  rfl

/-!
### Lines
-/

theorem not_control_of_all {cs : List Char}
    (h : (cs.all fun c => decide (32 <= c.toNat)) = true) : forall c, c ∈ cs -> 32 <= c.toNat :=
  fun c hc => of_decide_eq_true (List.all_eq_true.mp h c hc)

theorem not_control_of_isNumberChar {c : Char} (h : isNumberChar c = true) : 32 <= c.toNat := by
  unfold isNumberChar at h
  simp only [Bool.or_eq_true, beq_iff_eq] at h
  rcases h with ((((h | h) | h) | h) | h) | h
  · have hlow := (Char.isDigit_iff_toNat.mp h).1
    exact le_trans (by decide) hlow
  all_goals
    rw [h]
    decide

/-- A character is escaped to characters that stand for themselves. -/
theorem not_control_escapeChar (c d : Char) (hd : d ∈ escapeChar c) : 32 <= d.toNat := by
  unfold escapeChar at hd
  iterate 7
    split at hd
    · exact not_control_of_all rfl d hd
  split at hd
  · rename_i hcontrol
    have hdigits : forall n, n < 32 ->
        (('\\' :: 'u' :: hexDigits 4 n).all fun e => decide (32 <= e.toNat)) = true := by decide
    exact not_control_of_all (hdigits c.toNat hcontrol) d hd
  · rename_i hcontrol
    rw [List.mem_singleton.mp hd]
    exact Nat.le_of_not_lt hcontrol

theorem not_control_dumpsStr (s : String) (d : Char) (hd : d ∈ dumpsStr s) : 32 <= d.toNat := by
  rcases List.mem_cons.mp hd with hopen | hd
  · rw [hopen]
    decide
  · rcases List.mem_append.mp hd with hchar | hclose
    · rcases List.mem_flatMap.mp hchar with ⟨c, _, hc⟩
      exact not_control_escapeChar c d hc
    · rw [List.mem_singleton.mp hclose]
      decide

mutual

/-- No control character is written. -/
theorem not_control_dumps : forall j : Json, Readable floatOf j -> forall d, d ∈ dumps j ->
    32 <= d.toNat
  | .null, _ => not_control_of_all rfl
  | .bool b, _ => by cases b <;> exact not_control_of_all rfl
  | .int n, _ => fun d hd => not_control_of_isNumberChar
      (isNumberChar_of_readNumber (readNumber_toString floatOf n) d hd)
  | .float (.finite value text), h => fun d hd =>
      not_control_of_isNumberChar (isNumberChar_of_readNumber h d hd)
  | .float (.infinite negative), _ => by cases negative <;> exact not_control_of_all rfl
  | .str s, _ => not_control_dumpsStr s
  | .arr [], _ => not_control_of_all rfl
  | .arr (j :: rest), h => by
      intro d hd
      rcases List.mem_cons.mp hd with hopen | hd
      · rw [hopen]
        decide
      · rcases List.mem_append.mp hd with hj | hrest
        · exact not_control_dumps j h.1 d hj
        · exact not_control_dumpsItems rest h.2 d hrest
  | .obj [], _ => not_control_of_all rfl
  | .obj (m :: rest), h => by
      intro d hd
      rcases List.mem_cons.mp hd with hopen | hd
      · rw [hopen]
        decide
      · rcases List.mem_append.mp hd with hm | hrest
        · exact not_control_dumpsMember m h.2.1 d hm
        · exact not_control_dumpsMembers rest h.2.2 d hrest

theorem not_control_dumpsItems : forall items : List Json, ItemsReadable floatOf items ->
    forall d, d ∈ dumpsItems items -> 32 <= d.toNat
  | [], _ => not_control_of_all rfl
  | j :: rest, h => by
      intro d hd
      rcases List.mem_cons.mp hd with hcomma | hd
      · rw [hcomma]
        decide
      · rcases List.mem_cons.mp hd with hblank | hd
        · rw [hblank]
          decide
        · rcases List.mem_append.mp hd with hj | hrest
          · exact not_control_dumps j h.1 d hj
          · exact not_control_dumpsItems rest h.2 d hrest

theorem not_control_dumpsMembers : forall members : List (String × Json),
    MembersReadable floatOf members -> forall d, d ∈ dumpsMembers members -> 32 <= d.toNat
  | [], _ => not_control_of_all rfl
  | m :: rest, h => by
      intro d hd
      rcases List.mem_cons.mp hd with hcomma | hd
      · rw [hcomma]
        decide
      · rcases List.mem_cons.mp hd with hblank | hd
        · rw [hblank]
          decide
        · rcases List.mem_append.mp hd with hm | hrest
          · exact not_control_dumpsMember m h.1 d hm
          · exact not_control_dumpsMembers rest h.2 d hrest

theorem not_control_dumpsMember : forall m : String × Json, MemberReadable floatOf m ->
    forall d, d ∈ dumpsMember m -> 32 <= d.toNat
  | (k, v), h => by
      intro d hd
      rcases List.mem_append.mp hd with hk | hd
      · exact not_control_dumpsStr k d hk
      · rcases List.mem_cons.mp hd with hcolon | hd
        · rw [hcolon]
          decide
        · rcases List.mem_cons.mp hd with hblank | hd
          · rw [hblank]
            decide
          · exact not_control_dumps v h d hd

end

end Documents

end JsonText
end Foundation
