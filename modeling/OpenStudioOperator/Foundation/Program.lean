import Mathlib.Logic.Relation

/-!
# Programs that read an environment, keep a state and may raise

A program reads a fixed environment, changes a state, and returns a value or
raises an exception.  The state reached before an exception is kept: a raise
aborts the program without undoing anything.

`wp` is the weakest precondition of a program with one postcondition for
a normal return and one for a raise.  Sequencing, branching and loops each
have one rule.
-/

namespace Foundation

abbrev Prog (env exc state : Type) := ReaderT env (EStateM exc state)

namespace Prog

variable {env exc state alpha beta : Type}

/-- The program ends in a state where the matching postcondition holds. -/
def wp (m : Prog env exc state alpha) (e : env) (s : state)
    (Q : alpha -> state -> Prop) (E : exc -> state -> Prop) : Prop :=
  match m e s with
  | .ok a s' => Q a s'
  | .error x s' => E x s'

@[simp] theorem wp_pure (a : alpha) (e : env) (s : state)
    (Q : alpha -> state -> Prop) (E : exc -> state -> Prop) :
    wp (pure a : Prog env exc state alpha) e s Q E <-> Q a s := Iff.rfl

theorem run_bind (m : Prog env exc state alpha) (f : alpha -> Prog env exc state beta)
    (e : env) (s : state) :
    (m >>= f) e s =
      match m e s with
      | .ok a s' => f a e s'
      | .error x s' => .error x s' := rfl

@[simp] theorem wp_bind (m : Prog env exc state alpha)
    (f : alpha -> Prog env exc state beta) (e : env) (s : state)
    (Q : beta -> state -> Prop) (E : exc -> state -> Prop) :
    wp (m >>= f) e s Q E <->
      wp m e s (fun a s' => wp (f a) e s' Q E) E := by
  unfold wp
  rw [run_bind]
  cases m e s <;> rfl

@[simp] theorem wp_throw (x : exc) (e : env) (s : state)
    (Q : alpha -> state -> Prop) (E : exc -> state -> Prop) :
    wp (throw x : Prog env exc state alpha) e s Q E <-> E x s := Iff.rfl

@[simp] theorem wp_read (e : env) (s : state)
    (Q : env -> state -> Prop) (E : exc -> state -> Prop) :
    wp (read : Prog env exc state env) e s Q E <-> Q e s := Iff.rfl

theorem run_tryCatch (m : Prog env exc state alpha)
    (handler : exc -> Prog env exc state alpha) (e : env) (s : state) :
    (tryCatch m handler : Prog env exc state alpha) e s =
      match m e s with
      | .ok a s' => .ok a s'
      | .error x s' => handler x e s' := by
  show EStateM.tryCatch (m e) (fun x => handler x e) s = _
  unfold EStateM.tryCatch
  cases hm : m e s <;> rfl

@[simp] theorem wp_tryCatch (m : Prog env exc state alpha)
    (handler : exc -> Prog env exc state alpha) (e : env) (s : state)
    (Q : alpha -> state -> Prop) (E : exc -> state -> Prop) :
    wp (tryCatch m handler) e s Q E <->
      wp m e s Q (fun x s' => wp (handler x) e s' Q E) := by
  unfold wp
  rw [run_tryCatch]
  cases m e s <;> rfl

theorem wp_ite {c : Prop} [Decidable c] {m n : Prog env exc state alpha}
    {e : env} {s : state} {Q : alpha -> state -> Prop}
    {E : exc -> state -> Prop}
    (hpos : c -> wp m e s Q E) (hneg : ¬ c -> wp n e s Q E) :
    wp (if c then m else n) e s Q E := by
  by_cases hc : c
  · rw [if_pos hc]
    exact hpos hc
  · rw [if_neg hc]
    exact hneg hc

theorem wp_mono {m : Prog env exc state alpha} {e : env} {s : state}
    {Q Q' : alpha -> state -> Prop} {E E' : exc -> state -> Prop}
    (h : wp m e s Q E)
    (hQ : forall a s', Q a s' -> Q' a s')
    (hE : forall x s', E x s' -> E' x s') :
    wp m e s Q' E' := by
  unfold wp at h ⊢
  cases hm : m e s with
  | ok a s' =>
      rw [hm] at h
      exact hQ a s' h
  | error x s' =>
      rw [hm] at h
      exact hE x s' h

/-!
## Loops

The invariant of a loop is indexed by the elements still to be visited.
-/

theorem wp_foldlM {gamma : Type}
    {body : beta -> gamma -> Prog env exc state beta}
    {e : env} {Q : beta -> state -> Prop} {E : exc -> state -> Prop}
    (I : List gamma -> beta -> state -> Prop)
    (hstep : forall x rest acc s, I (x :: rest) acc s ->
      wp (body acc x) e s (fun acc' s' => I rest acc' s') E)
    (hdone : forall acc s, I [] acc s -> Q acc s) :
    forall (xs : List gamma) (acc : beta) (s : state), I xs acc s ->
      wp (xs.foldlM body acc) e s Q E := by
  intro xs
  induction xs with
  | nil =>
      intro acc s hI
      rw [List.foldlM_nil, wp_pure]
      exact hdone acc s hI
  | cons x rest ih =>
      intro acc s hI
      rw [List.foldlM_cons, wp_bind]
      exact wp_mono (hstep x rest acc s hI) (fun acc' s' h => ih acc' s' h)
        (fun _ _ h => h)

/-!
## Preserved properties

A property of the state that a program keeps whether it returns or raises.
-/

def Preserves (P : state -> Prop) (m : Prog env exc state alpha) (e : env) :
    Prop :=
  forall s, P s -> wp m e s (fun _ s' => P s') (fun _ s' => P s')

namespace Preserves

variable {P : state -> Prop} {e : env}

theorem pure (a : alpha) :
    Preserves P (Pure.pure a : Prog env exc state alpha) e :=
  fun _ h => h

theorem bind {m : Prog env exc state alpha}
    {f : alpha -> Prog env exc state beta} (hm : Preserves P m e)
    (hf : forall a, Preserves P (f a) e) :
    Preserves P (m >>= f) e := by
  intro s hs
  rw [wp_bind]
  exact wp_mono (hm s hs) (fun a s' h => hf a s' h) (fun _ _ h => h)

theorem throw (x : exc) :
    Preserves P (MonadExcept.throw x : Prog env exc state alpha) e :=
  fun _ h => h

/-- A program that reads its environment first. -/
theorem bind_read {f : env -> Prog env exc state alpha} (hf : Preserves P (f e) e) :
    Preserves P ((MonadReader.read : Prog env exc state env) >>= f) e := by
  intro s hs
  rw [wp_bind, wp_read]
  exact hf s hs

theorem tryCatch {m : Prog env exc state alpha}
    {handler : exc -> Prog env exc state alpha} (hm : Preserves P m e)
    (hhandler : forall x, Preserves P (handler x) e) :
    Preserves P (MonadExcept.tryCatch m handler) e := by
  intro s hs
  rw [wp_tryCatch]
  exact wp_mono (hm s hs) (fun _ _ h => h) (fun x s' h => hhandler x s' h)

theorem ite {c : Prop} [Decidable c] {m n : Prog env exc state alpha}
    (hpos : c -> Preserves P m e) (hneg : ¬ c -> Preserves P n e) :
    Preserves P (if c then m else n) e :=
  fun s hs => wp_ite (fun hc => hpos hc s hs) (fun hc => hneg hc s hs)

theorem foldlM {gamma : Type} {body : beta -> gamma -> Prog env exc state beta}
    {xs : List gamma}
    (hbody : forall x, x ∈ xs -> forall acc, Preserves P (body acc x) e) :
    forall acc, Preserves P (xs.foldlM body acc) e := by
  intro acc s hs
  apply wp_foldlM (fun rest _ s' => (forall x, x ∈ rest -> x ∈ xs) ∧ P s')
  · intro x rest acc' s' hI
    rcases hI with ⟨hrest, hs'⟩
    refine wp_mono (hbody x (hrest x List.mem_cons_self) acc' s' hs') ?_
      (fun _ _ h => h)
    intro _ s'' hs''
    exact ⟨fun y hy => hrest y (List.mem_cons_of_mem x hy), hs''⟩
  · intro _ s' hI
    exact hI.2
  · exact ⟨fun _ hx => hx, hs⟩

end Preserves

/-!
## Final states

The state a program leaves behind, whether it returned or raised.
-/

def exec (m : Prog env exc state alpha) (e : env) (s : state) : state :=
  match m e s with
  | .ok _ s' => s'
  | .error _ s' => s'

theorem exec_of_wp {m : Prog env exc state alpha} {e : env} {s : state}
    {P : state -> Prop}
    (h : wp m e s (fun _ s' => P s') (fun _ s' => P s')) :
    P (exec m e s) := by
  unfold wp at h
  unfold exec
  cases hm : m e s with
  | ok a s' =>
      rw [hm] at h
      exact h
  | error x s' =>
      rw [hm] at h
      exact h

end Prog
end Foundation
