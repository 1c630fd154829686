import OpenStudioOperator.Foundation.ShellSemantics

/-!
# Rules for shell scripts

Under `-e` a script goes on after a command only if the command has succeeded.  So a
script that ends with status 0 has gone through the states in which every command has
succeeded.
-/

namespace Foundation
namespace Shell

/-- The execution goes on with status 0 in one state, or it ends the script or the
function with another status. -/
inductive OnSuccess (st' : ShellState) : Execution -> Prop where
  | next : OnSuccess st' (some (.next 0, st'))
  | exited {status : Nat} {st : ShellState} :
      status ≠ 0 -> OnSuccess st' (some (.exited status, st))
  | returned {status : Nat} {st : ShellState} :
      status ≠ 0 -> st.errexit = true -> OnSuccess st' (some (.returned status, st))

section Rules

variable {call : Context -> List Command -> ShellState -> Execution} {world : World}
variable {ctx : Context} {st st' st'' : ShellState}

/-!
## Lists of commands
-/

theorem onSuccess_nil : OnSuccess st (execList call world ctx 0 [] st) := .next

theorem onSuccess_cons {c : Command} {rest : List Command} {status : Nat}
    (h : OnSuccess st' (exec call world ctx c st))
    (h' : OnSuccess st'' (execList call world ctx 0 rest st')) :
    OnSuccess st'' (execList call world ctx status (c :: rest) st) := by
  unfold execList
  generalize exec call world ctx c st = first at h
  cases h with
  | next => exact h'
  | exited hstatus => exact .exited hstatus
  | returned hstatus herrexit => exact .returned hstatus herrexit

theorem onSuccess_ifThen {condition body : List Command} {status : Nat}
    (hcondition : execList call world { ctx with ignored := true } 0 condition st =
      some (.next status, st'))
    (hbody : status = 0 -> OnSuccess st'' (execList call world ctx 0 body st'))
    (hskip : status ≠ 0 -> st' = st'') :
    OnSuccess st'' (exec call world ctx (.ifThen condition body) st) := by
  unfold exec
  rw [hcondition]
  cases status with
  | zero => exact hbody rfl
  | succ n =>
      rw [hskip (Nat.succ_ne_zero n)]
      exact .next

/-!
## Simple commands
-/

theorem onSuccess_completed (herrexit : st.errexit = true) (hignored : ctx.ignored = false)
    {status : Nat} (hzero : status = 0 -> st = st') : OnSuccess st' (completed ctx st status) := by
  unfold completed
  rw [herrexit, hignored]
  cases status with
  | zero =>
      rw [hzero rfl]
      exact .next
  | succ n => exact .exited (Nat.succ_ne_zero n)

theorem onSuccess_external (herrexit : st.errexit = true) (hignored : ctx.ignored = false)
    (argv : List String) (redirections : List (Operator × String)) :
    OnSuccess { st with trace := st.trace ++ [.ran argv redirections 0] }
      (external world ctx st argv redirections) := by
  unfold external
  generalize world.status st.trace argv redirections = status
  refine onSuccess_completed ?_ hignored fun hzero => ?_
  · exact herrexit
  · rw [hzero]

theorem onSuccess_callFunction {body : List Command} {args : List String}
    (hignored : ctx.ignored = false) (herrexit : st'.errexit = true)
    (h : OnSuccess st' (call { ctx with inFunction := true, args := args } body st)) :
    OnSuccess st' (callFunction call ctx st body args) := by
  unfold callFunction
  generalize call { ctx with inFunction := true, args := args } body st = run at h
  cases h with
  | next => exact onSuccess_completed herrexit hignored fun _ => rfl
  | exited hstatus => exact .exited hstatus
  | returned hstatus herrexit' =>
      exact onSuccess_completed herrexit' hignored fun hzero => absurd hzero hstatus

/-- A command that is none of the shell's. -/
def Utility (st : ShellState) (name : String) : Prop :=
  name ∉ unmodelled ∧ name ∉ ["set", "return", "["] ∧ st.functions.lookup name = none

theorem invoke_of_utility {name : String} (h : Utility st name) (args : List String)
    (redirections : List (Operator × String)) :
    invoke call world ctx st name args redirections =
      external world ctx st (name :: args) redirections := by
  rcases h with ⟨hmodelled, hbuiltin, hfunction⟩
  simp only [List.mem_cons, List.not_mem_nil, or_false, not_or] at hbuiltin
  simp [invoke, hmodelled, hbuiltin, hfunction]

theorem invoke_of_function {name : String} {body : List Command} (hmodelled : name ∉ unmodelled)
    (hspecial : name ∉ ["set", "return"]) (h : st.functions.lookup name = some body)
    (args : List String) :
    invoke call world ctx st name args [] = callFunction call ctx st body args := by
  simp only [List.mem_cons, List.not_mem_nil, or_false, not_or] at hspecial
  simp [invoke, hmodelled, hspecial, h]

theorem invoke_test (h : st.functions.lookup "[" = none) (args : List String) :
    invoke call world ctx st "[" args [] = builtinTest world ctx st args := by
  have hmodelled : "[" ∉ unmodelled := by decide +kernel
  simp [invoke, hmodelled, h]

theorem invoke_return (args : List String) :
    invoke call world ctx st "return" args [] = builtinReturn ctx st args := by
  have hmodelled : "return" ∉ unmodelled := by decide +kernel
  simp [invoke, hmodelled]

theorem invoke_set (args : List String) :
    invoke call world ctx st "set" args [] = builtinSet st args := by
  have hmodelled : "set" ∉ unmodelled := by decide +kernel
  simp [invoke, hmodelled]

theorem exec_simple {words : List Word} {redirections : List (Operator × Word)} {name : String}
    {args targets : List String}
    (hpattern : (words ++ redirections.map Prod.snd).any hasPattern = false)
    (hwords : expandAll ctx st words = some (name :: args))
    (htargets : expandAll ctx st (redirections.map Prod.snd) = some targets) :
    exec call world ctx (.simple [] words redirections) st =
      invoke call world ctx st name args ((redirections.map Prod.fst).zip targets) := by
  unfold exec execSimple
  rw [List.map_nil, List.nil_append, hpattern, if_neg Bool.false_ne_true]
  cases words with
  | nil => cases hwords
  | cons w rest =>
      dsimp only
      rw [hwords, htargets]

/-- A command without redirections. -/
theorem exec_words {words : List Word} {name : String} {args : List String}
    (hpattern : words.any hasPattern = false)
    (hwords : expandAll ctx st words = some (name :: args)) :
    exec call world ctx (.simple [] words []) st = invoke call world ctx st name args [] := by
  have hpattern' : (words ++ ([] : List (Operator × Word)).map Prod.snd).any hasPattern = false := by
    rw [List.map_nil, List.append_nil]
    exact hpattern
  exact exec_simple hpattern' hwords rfl

theorem exec_assign {x value : String} {w : Word} (hpattern : hasPattern w = false)
    (h : expand ctx st w = some value.toList) :
    exec call world ctx (.simple [(x, w)] [] []) st =
      some (.next 0, { st with vars := (x, value) :: st.vars }) := by
  simp [exec, execSimple, assignAll, hpattern, h]

theorem onSuccess_assign {x value : String} {w : Word} (hpattern : hasPattern w = false)
    (h : expand ctx st w = some value.toList) :
    OnSuccess { st with vars := (x, value) :: st.vars }
      (exec call world ctx (.simple [(x, w)] [] []) st) := by
  rw [exec_assign hpattern h]
  exact .next

/-- A utility without redirections. -/
theorem onSuccess_utility {words : List Word} {name : String} {args : List String}
    (herrexit : st.errexit = true) (hignored : ctx.ignored = false)
    (hpattern : words.any hasPattern = false)
    (hwords : expandAll ctx st words = some (name :: args)) (hutility : Utility st name) :
    OnSuccess { st with trace := st.trace ++ [.ran (name :: args) [] 0] }
      (exec call world ctx (.simple [] words []) st) := by
  rw [exec_words hpattern hwords, invoke_of_utility hutility]
  exact onSuccess_external herrexit hignored _ _

end Rules

/-- A script that ends with status 0 has come to the state. -/
theorem runScript_of_onSuccess {world : World} {environment : List (String × String)} {depth : Nat}
    {s : String} {commands : List Command} {st' : ShellState} (hparse : parse s = some commands)
    (h : OnSuccess st' (execList (callAt world depth) world {} 0 commands { vars := environment })) :
    exists status trace, runScript world environment depth s = some (status, trace) ∧
      (status = 0 -> trace = st'.trace) := by
  unfold runScript
  rw [hparse]
  dsimp only
  generalize execList (callAt world depth) world {} 0 commands { vars := environment } = last at h
  cases h with
  | next => exact ⟨0, _, rfl, fun _ => rfl⟩
  | exited hstatus => exact ⟨_, _, rfl, fun hzero => absurd hzero hstatus⟩
  | returned hstatus _ => exact ⟨_, _, rfl, fun hzero => absurd hzero hstatus⟩

/-!
## Traces

Every event of a run is an answer of the world to what has happened before.
-/

/-- The event is what the world answers after the events before it. -/
def Event.Answers (world : World) (before : List Event) : Event -> Prop
  | .tested path answer => world.isDir before path = answer
  | .ran argv redirections status => world.status before argv redirections = status

def Answered (world : World) (trace : List Event) : Prop :=
  forall before e after, trace = before ++ e :: after -> e.Answers world before

theorem answered_nil (world : World) : Answered world [] := by
  intro before e after hsplit
  cases before <;> cases hsplit

theorem Answered.concat {world : World} {trace : List Event} {e : Event}
    (h : Answered world trace) (he : e.Answers world trace) : Answered world (trace ++ [e]) := by
  intro before e' after hsplit
  rcases List.eq_nil_or_concat after with hnil | ⟨rest, last, hconcat⟩
  · rw [hnil] at hsplit
    rcases List.append_inj' hsplit rfl with ⟨hbefore, hlast⟩
    cases hlast
    rw [← hbefore]
    exact he
  · rw [hconcat, List.concat_eq_append, ← List.cons_append, ← List.append_assoc] at hsplit
    exact h before e' rest (List.append_inj' hsplit rfl).1

/-- The trace at the end is answered. -/
def Sound (world : World) (x : Execution) : Prop :=
  forall flow st, x = some (flow, st) -> Answered world st.trace

section Traces

variable {call : Context -> List Command -> ShellState -> Execution} {world : World}
variable {ctx : Context} {st : ShellState}

theorem sound_some {flow : Flow} (h : Answered world st.trace) : Sound world (some (flow, st)) := by
  intro flow' st' heq
  cases heq
  exact h

theorem sound_none : Sound world none := by
  intro flow st h
  cases h

theorem sound_completed (h : Answered world st.trace) (status : Nat) :
    Sound world (completed ctx st status) := by
  unfold completed
  split
  · exact sound_some h
  · exact sound_some h

theorem setOptions_trace {letters : List Char} {next : ShellState}
    (h : setOptions st letters = some next) : next.trace = st.trace := by
  fun_induction setOptions st letters with
  | case1 st =>
      cases h
      rfl
  | case2 st rest ih => exact ih h
  | case3 st rest ih => exact ih h
  | case4 st letters => cases h

theorem sound_builtinSet (h : Answered world st.trace) (args : List String) :
    Sound world (builtinSet st args) := by
  unfold builtinSet
  split
  · split
    · intro flow st' heq
      rcases Option.map_eq_some_iff.mp heq with ⟨next, hnext, hpair⟩
      cases hpair
      rw [setOptions_trace hnext]
      exact h
    · exact sound_none
  · exact sound_none

theorem sound_builtinReturn (h : Answered world st.trace) (args : List String) :
    Sound world (builtinReturn ctx st args) := by
  unfold builtinReturn
  split
  · split
    · intro flow st' heq
      rcases Option.map_eq_some_iff.mp heq with ⟨n, _, hpair⟩
      cases hpair
      exact h
    · exact sound_none
  · exact sound_none

theorem sound_builtinTest (h : Answered world st.trace) (args : List String) :
    Sound world (builtinTest world ctx st args) := by
  unfold builtinTest
  split
  · exact sound_completed (h.concat (by rfl)) _
  · exact sound_completed (h.concat (by rfl)) _
  · exact sound_none

theorem sound_external (h : Answered world st.trace) (argv : List String)
    (redirections : List (Operator × String)) :
    Sound world (external world ctx st argv redirections) := by
  have hrun := h.concat (e := .ran argv redirections (world.status st.trace argv redirections)) rfl
  exact sound_completed hrun _

theorem sound_callFunction
    (hcall : forall ctx body st, Answered world st.trace -> Sound world (call ctx body st))
    (h : Answered world st.trace) (body : List Command) (args : List String) :
    Sound world (callFunction call ctx st body args) := by
  have hbody := hcall { ctx with inFunction := true, args := args } body st h
  unfold callFunction
  generalize call { ctx with inFunction := true, args := args } body st = run at hbody
  split
  · exact sound_completed (hbody _ _ rfl) _
  · exact sound_completed (hbody _ _ rfl) _
  · exact hbody

theorem sound_invoke
    (hcall : forall ctx body st, Answered world st.trace -> Sound world (call ctx body st))
    (h : Answered world st.trace) (name : String) (args : List String)
    (redirections : List (Operator × String)) :
    Sound world (invoke call world ctx st name args redirections) := by
  unfold invoke
  split
  · exact sound_none
  split
  · split
    · exact sound_none
    split
    · exact sound_builtinSet h args
    split
    · exact sound_builtinReturn h args
    split
    · exact sound_callFunction hcall h _ args
    · exact sound_builtinTest h args
  · exact sound_external h _ redirections

theorem sound_assignAll (assignments : List (String × Word)) (h : Answered world st.trace) :
    Sound world (assignAll ctx st assignments) := by
  induction assignments generalizing st with
  | nil => exact sound_some h
  | cons first rest ih =>
      unfold assignAll
      split
      · exact ih h
      · exact sound_some h

theorem sound_execSimple
    (hcall : forall ctx body st, Answered world st.trace -> Sound world (call ctx body st))
    (h : Answered world st.trace) (assignments : List (String × Word)) (words : List Word)
    (redirections : List (Operator × Word)) :
    Sound world (execSimple call world ctx st assignments words redirections) := by
  unfold execSimple
  split
  · exact sound_none
  split
  · split
    · exact sound_assignAll assignments h
    · exact sound_none
  · split
    · exact sound_invoke hcall h _ _ _
    · exact sound_some h
  · exact sound_none

mutual

theorem sound_exec
    (hcall : forall ctx body st, Answered world st.trace -> Sound world (call ctx body st))
    (ctx : Context) (c : Command) (st : ShellState) (h : Answered world st.trace) :
    Sound world (exec call world ctx c st) := by
  cases c with
  | simple assignments words redirections =>
      unfold exec
      exact sound_execSimple hcall h assignments words redirections
  | funDef name body =>
      unfold exec
      split
      · exact sound_none
      · exact sound_some h
  | ifThen condition body =>
      have hcondition := sound_execList hcall { ctx with ignored := true } 0 condition st h
      unfold exec
      generalize execList call world { ctx with ignored := true } 0 condition st = tested
        at hcondition
      split
      · exact sound_execList hcall ctx 0 body _ (hcondition _ _ rfl)
      · exact sound_some (hcondition _ _ rfl)
      · exact hcondition

theorem sound_execList
    (hcall : forall ctx body st, Answered world st.trace -> Sound world (call ctx body st))
    (ctx : Context) (status : Nat) (commands : List Command) (st : ShellState)
    (h : Answered world st.trace) : Sound world (execList call world ctx status commands st) := by
  cases commands with
  | nil =>
      unfold execList
      exact sound_some h
  | cons c rest =>
      have hfirst := sound_exec hcall ctx c st h
      unfold execList
      generalize exec call world ctx c st = first at hfirst
      split
      · exact sound_execList hcall ctx _ rest _ (hfirst _ _ rfl)
      · exact hfirst

end

theorem sound_callAt (world : World) (depth : Nat) (ctx : Context) (body : List Command)
    (st : ShellState) (h : Answered world st.trace) : Sound world (callAt world depth ctx body st) := by
  induction depth generalizing ctx body st with
  | zero => exact sound_none
  | succ depth ih => exact sound_execList ih ctx 0 body st h

theorem answered_of_runScript {environment : List (String × String)} {depth : Nat} {s : String}
    {status : Nat} {trace : List Event}
    (h : runScript world environment depth s = some (status, trace)) : Answered world trace := by
  unfold runScript at h
  split at h
  · cases h
  · rcases Option.map_eq_some_iff.mp h with ⟨⟨flow, st⟩, hlast, hpair⟩
    cases hpair
    exact sound_execList (sound_callAt world depth) _ _ _ _ (answered_nil world) flow st hlast

end Traces

end Shell
end Foundation
