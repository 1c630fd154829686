import OpenStudioOperator.Foundation.ShellLexer

/-!
# The commands of a shell script

The part of the POSIX shell grammar with simple commands, function definitions and
`if … then … fi`.  A script with anything else is not read at all.
-/

namespace Foundation
namespace Shell

inductive Command where
  | simple (assignments : List (String × Word)) (words : List Word)
      (redirections : List (Operator × Word))
  | funDef (name : String) (body : List Command)
  | ifThen (condition body : List Command)

/-- A simple command that is being read. -/
structure Simple where
  assignments : List (String × Word) := []
  words : List Word := []
  redirections : List (Operator × Word) := []

def Simple.command (s : Simple) : Command :=
  .simple s.assignments s.words s.redirections

/-- The place of a list of commands. -/
inductive Place where
  | script
  | function (name : String)
  | condition
  | body (condition : List Command)

/-- A list of commands that is being read. -/
structure Block where
  place : Place
  commands : List Command := []

def Block.add (b : Block) (c : Command) : Block := { b with commands := b.commands ++ [c] }

/-- What may follow. -/
inductive Expecting where
  | command
  | more (s : Simple)
  | target (s : Simple) (o : Operator)
  | rparen (name : String)
  | lbrace (name : String)
  | separator

/-- The blocks that are open, the innermost first. -/
structure ParseState where
  block : Block
  outer : List Block := []
  expecting : Expecting := .command

/-!
## Words in the grammar
-/

/-- The text of a word without quotes and expansions. -/
def bareText : Word -> Option (List Char)
  | [] => some []
  | .lit c false :: rest => (bareText rest).map (c :: ·)
  | _ => none

def isName : List Char -> Bool
  | [] => false
  | c :: rest => isNameStart c && rest.all isNameChar

/-- The characters of a name before an unquoted `=`, and what follows it. -/
def splitAssignment : Word -> Option (List Char × Word)
  | .lit c false :: rest =>
      if c = '=' then some ([], rest)
      else (splitAssignment rest).map fun split => (c :: split.1, split.2)
  | _ => none

def assignment? (w : Word) : Option (String × Word) :=
  match splitAssignment w with
  | some (name, value) => if isName name then some (String.ofList name, value) else none
  | none => none

/-- The reserved words besides those of the grammar here. -/
def otherReserved : List (List Char) :=
  ["!", "\x7b", "case", "do", "done", "elif", "else", "esac", "for", "in", "until", "while"].map
    String.toList

/-!
## The parser
-/

/-- The first word of a command. -/
def beginCommand (st : ParseState) (w : Word) : Option ParseState :=
  let bare := bareText w
  if bare = some "if".toList then
    some { block := { place := .condition }, outer := st.block :: st.outer }
  else if bare = some "then".toList then
    match st.block with
    | { place := .condition, commands := c :: rest } =>
        some { st with block := { place := .body (c :: rest) } }
    | _ => none
  else if bare = some "fi".toList then
    match st.block, st.outer with
    | { place := .body condition, commands := c :: rest }, block :: outer =>
        some { block := block.add (.ifThen condition (c :: rest)), outer := outer,
               expecting := .separator }
    | _, _ => none
  else if bare = some "\x7d".toList then
    match st.block, st.outer with
    | { place := .function name, commands := c :: rest }, block :: outer =>
        some { block := block.add (.funDef name (c :: rest)), outer := outer,
               expecting := .separator }
    | _, _ => none
  else if otherReserved.any (fun reserved => bare = some reserved) then none
  else
    match assignment? w with
    | some a => some { st with expecting := .more { assignments := [a] } }
    | none => some { st with expecting := .more { words := [w] } }

/-- The next token of a simple command. -/
def continueSimple (st : ParseState) (s : Simple) : Token -> Option ParseState
  | .newline => some { st with block := st.block.add s.command, expecting := .command }
  | .op .semi => some { st with block := st.block.add s.command, expecting := .command }
  | .op .lparen =>
      match s with
      | { assignments := [], words := [w], redirections := [] } =>
          match bareText w with
          | some name =>
              if isName name then
                some { st with expecting := .rparen (String.ofList name) }
              else none
          | none => none
      | _ => none
  | .op .greatAnd => some { st with expecting := .target s .greatAnd }
  | .op .great => some { st with expecting := .target s .great }
  | .op .dgreat => some { st with expecting := .target s .dgreat }
  | .op _ => none
  | .word w =>
      match s.words, assignment? w with
      | [], some a =>
          some { st with expecting := .more { s with assignments := s.assignments ++ [a] } }
      | _, _ => some { st with expecting := .more { s with words := s.words ++ [w] } }

def parseToken (st : ParseState) (t : Token) : Option ParseState :=
  match st.expecting with
  | .command =>
      match t with
      | .newline => some st
      | .word w => beginCommand st w
      | .op _ => none
  | .more s => continueSimple st s t
  | .target s o =>
      match t with
      | .word w =>
          some { st with expecting := .more { s with redirections := s.redirections ++ [(o, w)] } }
      | _ => none
  | .rparen name =>
      match t with
      | .op .rparen => some { st with expecting := .lbrace name }
      | _ => none
  | .lbrace name =>
      match t with
      | .newline => some st
      | .word w =>
          if bareText w = some "\x7b".toList then
            some { block := { place := .function name }, outer := st.block :: st.outer }
          else none
      | .op _ => none
  | .separator =>
      match t with
      | .newline => some { st with expecting := .command }
      | .op .semi => some { st with expecting := .command }
      | _ => none

def parseTokens (st : ParseState) : List Token -> Option ParseState
  | [] => some st
  | t :: rest =>
      match parseToken st t with
      | none => none
      | some next => parseTokens next rest

/-- The commands of a script whose blocks are closed. -/
def parseEnd (st : ParseState) : Option (List Command) :=
  match st with
  | { block := { place := .script, commands }, outer := [], expecting } =>
      match expecting with
      | .command => some commands
      | .separator => some commands
      | .more s => some (commands ++ [s.command])
      | _ => none
  | _ => none

/-- The commands of a text. -/
def parse (s : String) : Option (List Command) :=
  match lex s with
  | none => none
  | some tokens => (parseTokens { block := { place := .script } } tokens).bind parseEnd

/-- Where a command of the script may begin. -/
def between (commands : List Command) : ParseState where
  block := { place := .script, commands := commands }

theorem bareText_bare_append (s : String) (w : Word) :
    bareText (bare s ++ w) = (bareText w).map (s.toList ++ ·) := by
  unfold bare
  induction s.toList with
  | nil => simp
  | cons c rest ih =>
      rw [List.map_cons, List.cons_append, bareText, ih, Option.map_map]
      rfl

theorem parseTokens_append {st st' st'' : ParseState} {ts ts' : List Token}
    (h : parseTokens st ts = some st') (h' : parseTokens st' ts' = some st'') :
    parseTokens st (ts ++ ts') = some st'' := by
  induction ts generalizing st with
  | nil =>
      cases h
      exact h'
  | cons t rest ih =>
      rw [List.cons_append]
      unfold parseTokens at h ⊢
      cases htoken : parseToken st t with
      | none =>
          rw [htoken] at h
          cases h
      | some next =>
          rw [htoken] at h
          exact ih h

/-- One command after another. -/
theorem parseTokens_flatMap {alpha : Type} {tokens : alpha -> List Token} {command : alpha -> Command}
    {xs : List alpha}
    (h : forall x, x ∈ xs -> forall before,
      parseTokens (between before) (tokens x) = some (between (before ++ [command x])))
    (before : List Command) :
    parseTokens (between before) (xs.flatMap tokens) =
      some (between (before ++ xs.map command)) := by
  induction xs generalizing before with
  | nil =>
      rw [List.map_nil, List.append_nil]
      rfl
  | cons x rest ih =>
      rw [List.flatMap_cons, List.map_cons, List.append_cons]
      exact parseTokens_append (h x List.mem_cons_self before)
        (ih (fun y hy => h y (List.mem_cons_of_mem x hy)) _)

end Shell
end Foundation
