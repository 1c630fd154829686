import Mathlib.Data.List.Basic

/-!
# The tokens of a shell script

The rules by which POSIX `sh` cuts its input into words and operators.  A text that
needs another expansion than a variable in double quotes is not read at all.
-/

namespace Foundation
namespace Shell

/-- A part of a word: a character, quoted or not, or a variable in double quotes. -/
inductive Piece where
  | lit (c : Char) (quoted : Bool)
  | var (name : String)
deriving DecidableEq, Repr

abbrev Word := List Piece

/-- The operators, under their names in the grammar. -/
inductive Operator where
  | amp | pipe | semi | less | great | lparen | rparen
  | andIf | orIf | dsemi | dless | dgreat | lessAnd | greatAnd | lessGreat | dlessDash | clobber
deriving DecidableEq, Repr

inductive Token where
  | word (w : Word)
  | op (o : Operator)
  | newline
deriving DecidableEq, Repr

/-- Where the reader stands.  Outside of quotes there may be a word begun. -/
inductive Mode where
  | unquoted (current : Option Word)
  | comment
  | escaped (current : Option Word)
  | single (w : Word)
  | double (w : Word)
  | doubleEscaped (w : Word)
  | dollar (w : Word)
  | name (w : Word) (name : List Char)
  | operator (o : Operator)
deriving DecidableEq, Repr

/-!
## Characters
-/

def isNameStart (c : Char) : Bool := c.isAlpha || c == '_'

def isNameChar (c : Char) : Bool := c.isAlphanum || c == '_'

def Operator.ofChar : Char -> Option Operator
  | '&' => some .amp
  | '|' => some .pipe
  | ';' => some .semi
  | '<' => some .less
  | '>' => some .great
  | '(' => some .lparen
  | ')' => some .rparen
  | _ => none

/-- The operator that is one character longer. -/
def Operator.extend : Operator -> Char -> Option Operator
  | .amp, '&' => some .andIf
  | .pipe, '|' => some .orIf
  | .semi, ';' => some .dsemi
  | .less, '<' => some .dless
  | .less, '&' => some .lessAnd
  | .less, '>' => some .lessGreat
  | .great, '>' => some .dgreat
  | .great, '&' => some .greatAnd
  | .great, '|' => some .clobber
  | .dless, '-' => some .dlessDash
  | _, _ => none

/-- Digits before a redirection are no word. -/
def isNumber : Option Word -> Bool
  | none => false
  | some w => !w.isEmpty && w.all fun
      | .lit c false => c.isDigit
      | _ => false

/-!
## The reader
-/

/-- The word that ends here. -/
def wordToken : Option Word -> List Token
  | none => []
  | some w => [.word w]

def unquotedStep (current : Option Word) (c : Char) : Option (List Token × Mode) :=
  if c = '\n' then some (wordToken current ++ [.newline], .unquoted none)
  else if c = ' ' || c = '\t' then some (wordToken current, .unquoted none)
  else if c = '#' && current.isNone then some ([], .comment)
  else if c = '\'' then some ([], .single (current.getD []))
  else if c = '"' then some ([], .double (current.getD []))
  else if c = '\\' then some ([], .escaped current)
  -- expansions outside of quotes are not modelled
  else if c = '$' || c = '\x60' then none
  else
    match Operator.ofChar c with
    | some o =>
        if (c = '<' || c = '>') && isNumber current then none
        else some (wordToken current, .operator o)
    | none => some ([], .unquoted (some (current.getD [] ++ [.lit c false])))

def doubleStep (w : Word) (c : Char) : Option (List Token × Mode) :=
  if c = '"' then some ([], .unquoted (some w))
  else if c = '\\' then some ([], .doubleEscaped w)
  else if c = '$' then some ([], .dollar w)
  else if c = '\x60' then none
  else some ([], .double (w ++ [.lit c true]))

/-- One character; the tokens that it ends. -/
def step (mode : Mode) (c : Char) : Option (List Token × Mode) :=
  -- no script has the character zero
  if c = '\x00' then none
  else
    match mode with
    | .unquoted current => unquotedStep current c
    | .comment =>
        if c = '\n' then some ([.newline], .unquoted none) else some ([], .comment)
    | .escaped current =>
        if c = '\n' then some ([], .unquoted current)
        else some ([], .unquoted (some (current.getD [] ++ [.lit c true])))
    | .single w =>
        if c = '\'' then some ([], .unquoted (some w))
        else some ([], .single (w ++ [.lit c true]))
    | .double w => doubleStep w c
    | .doubleEscaped w =>
        if c = '\n' then some ([], .double w)
        else if c = '$' || c = '\x60' || c = '"' || c = '\\' then
          some ([], .double (w ++ [.lit c true]))
        else some ([], .double (w ++ [.lit '\\' true, .lit c true]))
    | .dollar w =>
        if c.isDigit && c != '0' then some ([], .double (w ++ [.var c.toString]))
        else if isNameStart c then some ([], .name w [c])
        else none
    | .name w name =>
        if isNameChar c then some ([], .name w (name ++ [c]))
        -- a line may be continued within a name
        else if c = '\\' then none
        else doubleStep (w ++ [.var (String.ofList name)]) c
    | .operator o =>
        match o.extend c with
        | some longer => some ([], .operator longer)
        | none =>
            -- or within an operator
            if c = '\\' then none
            else (unquotedStep none c).map fun next => (.op o :: next.1, next.2)

def run (mode : Mode) : List Char -> Option (List Token × Mode)
  | [] => some ([], mode)
  | c :: rest =>
      match step mode c with
      | none => none
      | some (tokens, next) => (run next rest).map fun last => (tokens ++ last.1, last.2)

/-- The token that the end of the input ends; no quote may be open. -/
def finish : Mode -> Option (List Token)
  | .unquoted current => some (wordToken current)
  | .comment => some []
  | .operator o => some [.op o]
  | _ => none

def lex (s : String) : Option (List Token) :=
  match run (.unquoted none) s.toList with
  | none => none
  | some (tokens, mode) => (finish mode).map (tokens ++ ·)

/-!
## Words as they are written
-/

/-- A text without quotes. -/
def bare (s : String) : Word := s.toList.map (.lit · false)

/-- A text in quotes. -/
def quotedText (s : String) : Word := s.toList.map (.lit · true)

/-!
## Texts one after another
-/

theorem run_append {m m' m'' : Mode} {cs cs' : List Char} {ts ts' : List Token}
    (h : run m cs = some (ts, m')) (h' : run m' cs' = some (ts', m'')) :
    run m (cs ++ cs') = some (ts ++ ts', m'') := by
  induction cs generalizing m ts with
  | nil =>
      cases h
      exact h'
  | cons c rest ih =>
      rw [List.cons_append]
      unfold run at h ⊢
      cases hstep : step m c with
      | none =>
          rw [hstep] at h
          cases h
      | some first =>
          rw [hstep] at h
          rcases Option.map_eq_some_iff.mp h with ⟨last, hlast, heq⟩
          rcases Prod.mk.inj heq with ⟨htokens, hmode⟩
          have hrest : run first.2 rest = some (last.1, m') := by rw [hlast, ← hmode]
          dsimp only
          rw [ih hrest, Option.map_some, ← htokens, List.append_assoc]

/-- Lines that leave no word open. -/
theorem run_flatMap {alpha : Type} {m : Mode} {text : alpha -> List Char}
    {tokens : alpha -> List Token} {xs : List alpha}
    (h : forall x, x ∈ xs -> run m (text x) = some (tokens x, m)) :
    run m (xs.flatMap text) = some (xs.flatMap tokens, m) := by
  induction xs with
  | nil => rfl
  | cons x rest ih =>
      rw [List.flatMap_cons, List.flatMap_cons]
      exact run_append (h x List.mem_cons_self)
        (ih fun y hy => h y (List.mem_cons_of_mem x hy))

/-!
## Literal words
-/

/-- A character that stands for itself outside of quotes. -/
def Plain (c : Char) : Prop :=
  c ∉ ['\x00', '\n', ' ', '\t', '#', '\'', '"', '\\', '$', '\x60'] ∧ Operator.ofChar c = none

theorem step_plain {c : Char} (h : Plain c) (current : Option Word) :
    step (.unquoted current) c =
      some ([], .unquoted (some (current.getD [] ++ [.lit c false]))) := by
  rcases h with ⟨hchars, hop⟩
  simp only [List.mem_cons, List.not_mem_nil, or_false, not_or] at hchars
  rcases hchars with ⟨hzero, hnl, hspace, htab, hhash, hsingle, hdouble, hback, hdollar, htick⟩
  simp only [step, unquotedStep, if_neg hzero, if_neg hnl, hspace, htab, hhash, if_neg hsingle,
    if_neg hdouble, if_neg hback, hdollar, htick, hop, decide_false, Bool.or_self,
    Bool.false_and, Bool.false_eq_true, if_false]

/-- A text of such characters makes one word. -/
theorem run_plain {c : Char} {cs : List Char} (h : forall d, d ∈ c :: cs -> Plain d)
    (current : Option Word) :
    run (.unquoted current) (c :: cs) =
      some ([], .unquoted (some (current.getD [] ++ (c :: cs).map (.lit · false)))) := by
  induction cs generalizing c current with
  | nil =>
      unfold run
      rw [step_plain (h c List.mem_cons_self)]
      rfl
  | cons d rest ih =>
      unfold run
      rw [step_plain (h c List.mem_cons_self)]
      dsimp only
      rw [ih (fun e he => h e (List.mem_cons_of_mem c he))]
      simp

/-- Between single quotes every character stands for itself. -/
theorem step_single {c : Char} (hquote : c ≠ '\'') (hzero : c ≠ '\x00') (w : Word) :
    step (.single w) c = some ([], .single (w ++ [.lit c true])) := by
  simp only [step, if_neg hzero, if_neg hquote]

end Shell
end Foundation
