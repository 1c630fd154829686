import OpenStudioOperator.Foundation.Program

/-!
# Two programs in step

Two programs are run from two states under one environment.  `rwp` is the
weakest precondition of the pair: both return, or both raise, and the matching
postcondition relates the results and the states.  `InStep` is the case in
which the results are equal and one relation of the states is kept throughout.
-/

namespace Foundation

namespace Prog

variable {env exc state : Type} {alpha alpha' beta beta' : Type}

/-- Both programs return and meet `Q`, or both raise and meet `E`. -/
def rwp (m : Prog env exc state alpha) (m' : Prog env exc state alpha') (e : env)
    (s s' : state) (Q : alpha -> alpha' -> state -> state -> Prop)
    (E : exc -> exc -> state -> state -> Prop) : Prop :=
  match m e s, m' e s' with
  | .ok a t, .ok a' t' => Q a a' t t'
  | .error x t, .error x' t' => E x x' t t'
  | _, _ => False

section Rules

variable {e : env} {s s' : state} {Q : beta -> beta' -> state -> state -> Prop}
variable {E : exc -> exc -> state -> state -> Prop}

theorem rwp_pure {b : beta} {b' : beta'} (h : Q b b' s s') :
    rwp (pure b) (pure b') e s s' Q E := h

theorem rwp_throw {x x' : exc} (h : E x x' s s') :
    rwp (throw x : Prog env exc state beta) (throw x' : Prog env exc state beta') e s s'
      Q E := h

theorem rwp_read {P : env -> env -> state -> state -> Prop} (h : P e e s s') :
    rwp (read : Prog env exc state env) read e s s' P E := h

theorem rwp_bind {m : Prog env exc state alpha} {m' : Prog env exc state alpha'}
    {f : alpha -> Prog env exc state beta} {f' : alpha' -> Prog env exc state beta'}
    (h : rwp m m' e s s' (fun a a' t t' => rwp (f a) (f' a') e t t' Q E) E) :
    rwp (m >>= f) (m' >>= f') e s s' Q E := by
  unfold rwp at h ⊢
  rw [run_bind, run_bind]
  cases hm : m e s with
  | ok a t =>
      cases hm' : m' e s' with
      | ok a' t' =>
          rw [hm, hm'] at h
          exact h
      | error x' t' =>
          rw [hm, hm'] at h
          exact h.elim
  | error x t =>
      cases hm' : m' e s' with
      | ok a' t' =>
          rw [hm, hm'] at h
          exact h.elim
      | error x' t' =>
          rw [hm, hm'] at h
          exact h

theorem rwp_mono {m : Prog env exc state beta} {m' : Prog env exc state beta'}
    {Q' : beta -> beta' -> state -> state -> Prop}
    {E' : exc -> exc -> state -> state -> Prop} (h : rwp m m' e s s' Q' E')
    (hQ : forall b b' t t', Q' b b' t t' -> Q b b' t t')
    (hE : forall x x' t t', E' x x' t t' -> E x x' t t') :
    rwp m m' e s s' Q E := by
  unfold rwp at h ⊢
  cases hm : m e s with
  | ok a t =>
      cases hm' : m' e s' with
      | ok a' t' =>
          rw [hm, hm'] at h
          exact hQ a a' t t' h
      | error x' t' =>
          rw [hm, hm'] at h
          exact h.elim
  | error x t =>
      cases hm' : m' e s' with
      | ok a' t' =>
          rw [hm, hm'] at h
          exact h.elim
      | error x' t' =>
          rw [hm, hm'] at h
          exact hE x x' t t' h

/-- Only what is known of a normal return is weakened. -/
theorem rwp_imp {m : Prog env exc state beta} {m' : Prog env exc state beta'}
    {Q' : beta -> beta' -> state -> state -> Prop} (h : rwp m m' e s s' Q' E)
    (hQ : forall b b' t t', Q' b b' t t' -> Q b b' t t') : rwp m m' e s s' Q E :=
  rwp_mono h hQ fun _ _ _ _ hraised => hraised

/-- Sequencing when the first parts are already described. -/
theorem rwp_seq {m : Prog env exc state alpha} {m' : Prog env exc state alpha'}
    {f : alpha -> Prog env exc state beta} {f' : alpha' -> Prog env exc state beta'}
    {P : alpha -> alpha' -> state -> state -> Prop} (h : rwp m m' e s s' P E)
    (hf : forall a a' t t', P a a' t t' -> rwp (f a) (f' a') e t t' Q E) :
    rwp (m >>= f) (m' >>= f') e s s' Q E :=
  rwp_bind (rwp_imp h hf)

theorem rwp_tryCatch {m : Prog env exc state beta} {m' : Prog env exc state beta'}
    {handler : exc -> Prog env exc state beta}
    {handler' : exc -> Prog env exc state beta'}
    (h : rwp m m' e s s' Q (fun x x' t t' => rwp (handler x) (handler' x') e t t' Q E)) :
    rwp (tryCatch m handler) (tryCatch m' handler') e s s' Q E := by
  unfold rwp at h ⊢
  rw [run_tryCatch, run_tryCatch]
  cases hm : m e s with
  | ok a t =>
      cases hm' : m' e s' with
      | ok a' t' =>
          rw [hm, hm'] at h
          exact h
      | error x' t' =>
          rw [hm, hm'] at h
          exact h.elim
  | error x t =>
      cases hm' : m' e s' with
      | ok a' t' =>
          rw [hm, hm'] at h
          exact h.elim
      | error x' t' =>
          rw [hm, hm'] at h
          exact h

theorem rwp_ite {c c' : Prop} [Decidable c] [Decidable c'] {m n : Prog env exc state beta}
    {m' n' : Prog env exc state beta'} (hiff : c <-> c')
    (hpos : c -> c' -> rwp m m' e s s' Q E) (hneg : ¬ c -> ¬ c' -> rwp n n' e s s' Q E) :
    rwp (if c then m else n) (if c' then m' else n') e s s' Q E := by
  by_cases hc : c
  · rw [if_pos hc, if_pos (hiff.mp hc)]
    exact hpos hc (hiff.mp hc)
  · have hc' : ¬ c' := fun h => hc (hiff.mpr h)
    rw [if_neg hc, if_neg hc']
    exact hneg hc hc'

/-- Two programs that return, each described on its own. -/
theorem rwp_of_wp {m : Prog env exc state beta} {m' : Prog env exc state beta'}
    {P : beta -> state -> Prop} {P' : beta' -> state -> Prop}
    (h : wp m e s P fun _ _ => False) (h' : wp m' e s' P' fun _ _ => False)
    (hQ : forall b b' t t', P b t -> P' b' t' -> Q b b' t t') :
    rwp m m' e s s' Q E := by
  unfold wp at h h'
  unfold rwp
  cases hm : m e s with
  | ok b t =>
      cases hm' : m' e s' with
      | ok b' t' =>
          rw [hm] at h
          rw [hm'] at h'
          exact hQ b b' t t' h h'
      | error x' t' =>
          rw [hm'] at h'
          exact h'.elim
  | error x t =>
      rw [hm] at h
      exact h.elim

/-- Two programs that raise, each described on its own. -/
theorem rwp_of_raises {m : Prog env exc state beta} {m' : Prog env exc state beta'}
    {P P' : exc -> state -> Prop}
    (h : wp m e s (fun _ _ => False) P) (h' : wp m' e s' (fun _ _ => False) P')
    (hE : forall x x' t t', P x t -> P' x' t' -> E x x' t t') :
    rwp m m' e s s' Q E := by
  unfold wp at h h'
  unfold rwp
  cases hm : m e s with
  | ok b t =>
      rw [hm] at h
      exact h.elim
  | error x t =>
      cases hm' : m' e s' with
      | ok b' t' =>
          rw [hm'] at h'
          exact h'.elim
      | error x' t' =>
          rw [hm] at h
          rw [hm'] at h'
          exact hE x x' t t' h h'

/-- Two loops over lists that are related item by item; the invariant is
indexed by the items still to be visited. -/
theorem rwp_foldlM {gamma gamma' : Type} {body : beta -> gamma -> Prog env exc state beta}
    {body' : beta' -> gamma' -> Prog env exc state beta'}
    (I : List gamma -> List gamma' -> beta -> beta' -> state -> state -> Prop)
    (hstep : forall x x' rest rest' b b' t t', I (x :: rest) (x' :: rest') b b' t t' ->
      rwp (body b x) (body' b' x') e t t' (fun c c' u u' => I rest rest' c c' u u') E)
    (hdone : forall b b' t t', I [] [] b b' t t' -> Q b b' t t') :
    forall (xs : List gamma) (xs' : List gamma'), xs.length = xs'.length ->
      forall b b' s s', I xs xs' b b' s s' ->
        rwp (xs.foldlM body b) (xs'.foldlM body' b') e s s' Q E := by
  intro xs
  induction xs with
  | nil =>
      intro xs' hlength b b' s s' hI
      cases xs' with
      | nil => exact rwp_pure (hdone b b' s s' hI)
      | cons x' rest' => cases hlength
  | cons x rest ih =>
      intro xs' hlength b b' s s' hI
      cases xs' with
      | nil => cases hlength
      | cons x' rest' =>
          rw [List.foldlM_cons, List.foldlM_cons]
          apply rwp_seq (hstep x x' rest rest' b b' s s' hI)
          intro c c' t t' hrest
          exact ih rest' (Nat.succ.inj hlength) c c' t t' hrest

end Rules

/-!
## One relation throughout
-/

/-- From related states both programs end alike, in related states. -/
def InStep (R : state -> state -> Prop) (m m' : Prog env exc state alpha) (e : env) :
    Prop :=
  forall s s', R s s' -> rwp m m' e s s' (fun a a' t t' => a = a' ∧ R t t')
    (fun x x' t t' => x = x' ∧ R t t')

namespace InStep

variable {R : state -> state -> Prop} {e : env}

theorem pure (a : alpha) : InStep R (Pure.pure a : Prog env exc state alpha) (Pure.pure a) e :=
  fun _ _ h => ⟨rfl, h⟩

theorem throw (x : exc) :
    InStep R (MonadExcept.throw x : Prog env exc state alpha) (MonadExcept.throw x) e :=
  fun _ _ h => ⟨rfl, h⟩

theorem bind {m m' : Prog env exc state alpha} {f f' : alpha -> Prog env exc state beta}
    (hm : InStep R m m' e) (hf : forall a, InStep R (f a) (f' a) e) :
    InStep R (m >>= f) (m' >>= f') e := by
  intro s s' hs
  apply rwp_seq (hm s s' hs)
  intro a a' t t' h
  rw [← h.1]
  exact hf a t t' h.2

/-- A program that reads its environment first. -/
theorem bind_read {f f' : env -> Prog env exc state beta}
    (hf : InStep R (f e) (f' e) e) :
    InStep R ((MonadReader.read : Prog env exc state env) >>= f)
      ((MonadReader.read : Prog env exc state env) >>= f') e := by
  intro s s' hs
  apply rwp_bind
  exact rwp_read (hf s s' hs)

theorem ite {c : Prop} [Decidable c] {m m' n n' : Prog env exc state alpha}
    (hpos : c -> InStep R m m' e) (hneg : ¬ c -> InStep R n n' e) :
    InStep R (if c then m else n) (if c then m' else n') e := by
  by_cases hc : c
  · rw [if_pos hc, if_pos hc]
    exact hpos hc
  · rw [if_neg hc, if_neg hc]
    exact hneg hc

theorem tryCatch {m m' : Prog env exc state alpha}
    {handler handler' : exc -> Prog env exc state alpha} (hm : InStep R m m' e)
    (hhandler : forall x, InStep R (handler x) (handler' x) e) :
    InStep R (MonadExcept.tryCatch m handler) (MonadExcept.tryCatch m' handler') e := by
  intro s s' hs
  apply rwp_tryCatch
  apply rwp_mono (hm s s' hs)
  · intro _ _ _ _ h
    exact h
  · intro x x' t t' h
    rw [← h.1]
    exact hhandler x t t' h.2

theorem foldlM {gamma : Type} {body body' : beta -> gamma -> Prog env exc state beta}
    (hbody : forall b x, InStep R (body b x) (body' b x) e) :
    forall (xs : List gamma) (b : beta), InStep R (xs.foldlM body b) (xs.foldlM body' b) e := by
  intro xs
  induction xs with
  | nil =>
      intro b
      exact pure b
  | cons x rest ih =>
      intro b
      rw [List.foldlM_cons, List.foldlM_cons]
      exact bind (hbody b x) ih

end InStep

end Prog
end Foundation
