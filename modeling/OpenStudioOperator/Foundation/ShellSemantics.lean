import OpenStudioOperator.Foundation.ShellParser

/-!
# The run of a shell script

What the commands do under the options `-e` and `-u`.  Utilities that are not part of
the shell, and the file system, are a world that answers by what has happened so far.
-/

namespace Foundation
namespace Shell

/-- What can be seen of a run from outside. -/
inductive Event where
  | tested (path : String) (isDir : Bool)
  | ran (argv : List String) (redirections : List (Operator × String)) (status : Nat)
deriving DecidableEq, Repr

structure World where
  isDir : List Event -> String -> Bool
  status : List Event -> List String -> List (Operator × String) -> Nat

/-- Variables and functions, the latest first, the options, and the events so far. -/
structure ShellState where
  vars : List (String × String) := []
  functions : List (String × List Command) := []
  errexit : Bool := false
  nounset : Bool := false
  trace : List Event := []

/-- How a command ends, with its status. -/
inductive Flow where
  | next (status : Nat)
  | returned (status : Nat)
  | exited (status : Nat)
deriving DecidableEq, Repr

def Flow.status : Flow -> Nat
  | .next n => n
  | .returned n => n
  | .exited n => n

/-- Where a command stands: whether a failure is ignored, and in a call its arguments. -/
structure Context where
  ignored : Bool := false
  inFunction : Bool := false
  args : List String := []

abbrev Execution := Option (Flow × ShellState)

/-!
## Expansion
-/

/-- The place of `$1` to `$9`. -/
def position? (name : String) : Option Nat :=
  match name.toList with
  | [c] => if '1' <= c && c <= '9' then some (c.toNat - 49) else none
  | _ => none

def valueOf (ctx : Context) (st : ShellState) (name : String) : Option String :=
  match position? name with
  | some i => ctx.args[i]?
  | none => st.vars.lookup name

/-- The text of a word; none if a variable is not set and has to be. -/
def expand (ctx : Context) (st : ShellState) : Word -> Option (List Char)
  | [] => some []
  | .lit c _ :: rest => (expand ctx st rest).map (c :: ·)
  | .var name :: rest =>
      match valueOf ctx st name with
      | some value => (expand ctx st rest).map (value.toList ++ ·)
      | none => if st.nounset then none else expand ctx st rest

def expandAll (ctx : Context) (st : ShellState) : List Word -> Option (List String)
  | [] => some []
  | w :: rest =>
      match expand ctx st w with
      | some value => (expandAll ctx st rest).map (String.ofList value :: ·)
      | none => none

/-- The word may be a pattern or have a home directory; such words are not modelled. -/
def hasPattern (w : Word) : Bool :=
  decide (w ≠ [.lit '[' false]) && w.any fun
    | .lit c false => c == '*' || c == '?' || c == '[' || c == '~'
    | _ => false

/-!
## Simple commands
-/

/-- The special built-in utilities that are not modelled, and the utilities that work on
the state of the shell. -/
def unmodelled : List String :=
  ["break", ":", "continue", ".", "eval", "exec", "exit", "export", "readonly", "shift", "times",
    "trap", "unset", "alias", "bg", "cd", "command", "fc", "fg", "getopts", "hash", "jobs",
    "local", "read", "type", "ulimit", "umask", "unalias", "wait"]

/-- A command that has ended with a status; under `-e` a failure ends the script. -/
def completed (ctx : Context) (st : ShellState) (status : Nat) : Execution :=
  if status ≠ 0 && st.errexit && !ctx.ignored then some (.exited status, st)
  else some (.next status, st)

/-- The options of `set`. -/
def setOptions (st : ShellState) : List Char -> Option ShellState
  | [] => some st
  | 'e' :: rest => setOptions { st with errexit := true } rest
  | 'u' :: rest => setOptions { st with nounset := true } rest
  | _ => none

def builtinSet (st : ShellState) : List String -> Execution
  | [option] =>
      match option.toList with
      | '-' :: letter :: rest =>
          (setOptions st (letter :: rest)).map fun next => (.next 0, next)
      | _ => none
  | _ => none

def number? (digits : List Char) : Option Nat :=
  if digits.isEmpty || !digits.all Char.isDigit then none
  else some (digits.foldl (fun n c => 10 * n + (c.toNat - 48)) 0)

def builtinReturn (ctx : Context) (st : ShellState) : List String -> Execution
  | [status] =>
      if ctx.inFunction then (number? status.toList).map fun n => (.returned n, st) else none
  | _ => none

/-- `[ -d path ]`, and its negation. -/
def builtinTest (world : World) (ctx : Context) (st : ShellState) : List String -> Execution
  | ["-d", path, "]"] =>
      let answer := world.isDir st.trace path
      completed ctx { st with trace := st.trace ++ [.tested path answer] } (if answer then 0 else 1)
  | ["!", "-d", path, "]"] =>
      let answer := world.isDir st.trace path
      completed ctx { st with trace := st.trace ++ [.tested path answer] } (if answer then 1 else 0)
  | _ => none

/-- A utility that is not part of the shell. -/
def external (world : World) (ctx : Context) (st : ShellState) (argv : List String)
    (redirections : List (Operator × String)) : Execution :=
  let status := world.status st.trace argv redirections
  completed ctx { st with trace := st.trace ++ [.ran argv redirections status] } status

section Execution

variable (call : Context -> List Command -> ShellState -> Execution) (world : World)

/-- The call of a function; `return` ends the function. -/
def callFunction (ctx : Context) (st : ShellState) (body : List Command) (args : List String) :
    Execution :=
  match call { ctx with inFunction := true, args := args } body st with
  | some (.next status, st') => completed ctx st' status
  | some (.returned status, st') => completed ctx st' status
  | other => other

/-- A command by its name: special built-in utilities, then functions, then the rest. -/
def invoke (ctx : Context) (st : ShellState) (name : String) (args : List String)
    (redirections : List (Operator × String)) : Execution :=
  if name ∈ unmodelled then none
  else if name ∈ ["set", "return"] || name = "[" || (st.functions.lookup name).isSome then
    if !redirections.isEmpty then none
    else if name = "set" then builtinSet st args
    else if name = "return" then builtinReturn ctx st args
    else
      match st.functions.lookup name with
      | some body => callFunction call ctx st body args
      | none => builtinTest world ctx st args
  else external world ctx st (name :: args) redirections

def assignAll (ctx : Context) (st : ShellState) : List (String × Word) -> Execution
  | [] => some (.next 0, st)
  | (x, w) :: rest =>
      match expand ctx st w with
      | some value => assignAll ctx { st with vars := (x, String.ofList value) :: st.vars } rest
      | none => some (.exited 2, st)

def execSimple (ctx : Context) (st : ShellState) (assignments : List (String × Word))
    (words : List Word) (redirections : List (Operator × Word)) : Execution :=
  if (assignments.map Prod.snd ++ words ++ redirections.map Prod.snd).any hasPattern then none
  else
    match assignments, words with
    | _, [] => if redirections.isEmpty then assignAll ctx st assignments else none
    | [], _ =>
        match expandAll ctx st words, expandAll ctx st (redirections.map Prod.snd) with
        | some (name :: args), some targets =>
            invoke call world ctx st name args ((redirections.map Prod.fst).zip targets)
        -- a variable that is not set ends the script
        | _, _ => some (.exited 2, st)
    | _, _ => none

/-!
## Commands
-/

mutual

def exec (ctx : Context) : Command -> ShellState -> Execution
  | .simple assignments words redirections, st =>
      execSimple call world ctx st assignments words redirections
  | .funDef name body, st =>
      if name ∈ unmodelled || name ∈ ["set", "return"] then none
      else some (.next 0, { st with functions := (name, body) :: st.functions })
  | .ifThen condition body, st =>
      match execList { ctx with ignored := true } 0 condition st with
      | some (.next 0, st') => execList ctx 0 body st'
      | some (.next _, st') => some (.next 0, st')
      | other => other

/-- The commands one after another; the status is the one of the last. -/
def execList (ctx : Context) (status : Nat) : List Command -> ShellState -> Execution
  | [], st => some (.next status, st)
  | c :: rest, st =>
      match exec ctx c st with
      | some (.next status', st') => execList ctx status' rest st'
      | other => other

end

end Execution

/-- The body of a function, with a bound on the depth of calls. -/
def callAt (world : World) : Nat -> Context -> List Command -> ShellState -> Execution
  | 0, _, _, _ => none
  | depth + 1, ctx, body, st => execList (callAt world depth) world ctx 0 body st

/-- The status of a script and its events. -/
def runScript (world : World) (environment : List (String × String)) (depth : Nat) (s : String) :
    Option (Nat × List Event) :=
  match parse s with
  | none => none
  | some commands =>
      (execList (callAt world depth) world {} 0 commands { vars := environment }).map
        fun last => (last.1.status, last.2.trace)

/-!
## The texts of words
-/

/-- The word is the text, whatever the variables are. -/
def Literal (w : Word) (s : String) : Prop :=
  hasPattern w = false ∧ forall ctx st, expand ctx st w = some s.toList

section Words

variable {ctx : Context} {st : ShellState}

@[simp]
theorem expand_nil : expand ctx st [] = some [] := rfl

theorem expand_lits (cs : List Char) (quoted : Bool) :
    expand ctx st (cs.map (.lit · quoted)) = some cs := by
  induction cs with
  | nil => rfl
  | cons c rest ih =>
      rw [List.map_cons, expand, ih]
      rfl

@[simp]
theorem expand_bare (s : String) : expand ctx st (bare s) = some s.toList :=
  expand_lits s.toList false

@[simp]
theorem expand_quotedText_append (s : String) (w : Word) :
    expand ctx st (quotedText s ++ w) = (expand ctx st w).map (s.toList ++ ·) := by
  unfold quotedText
  induction s.toList with
  | nil => simp
  | cons c rest ih =>
      rw [List.map_cons, List.cons_append, expand, ih, Option.map_map]
      rfl

@[simp]
theorem expand_quotedText (s : String) : expand ctx st (quotedText s) = some s.toList :=
  expand_lits s.toList true

theorem expand_var_cons {name value : String} (h : valueOf ctx st name = some value) (w : Word) :
    expand ctx st (.var name :: w) = (expand ctx st w).map (value.toList ++ ·) := by
  simp only [expand, h]

theorem expand_var {name value : String} (h : valueOf ctx st name = some value) :
    expand ctx st [.var name] = some value.toList := by
  rw [expand_var_cons h, expand_nil, Option.map_some, List.append_nil]

@[simp]
theorem lit_notMem_quotedText (c : Char) (s : String) : .lit c false ∉ quotedText s := by
  intro h
  rcases List.mem_map.mp h with ⟨d, _, heq⟩
  cases heq

theorem hasPattern_of_quoted {w : Word} (h : forall c, .lit c false ∉ w) : hasPattern w = false := by
  unfold hasPattern
  rw [Bool.and_eq_false_iff]
  right
  rw [List.any_eq_false]
  intro p hp
  cases p with
  | var name => simp
  | lit c quoted =>
      cases quoted with
      | true => simp
      | false => exact absurd hp (h c)

end Words

end Shell
end Foundation
