import Mathlib.Logic.Function.Basic
import Mathlib.Logic.Relation

/-!
# Concurrent read-modify-write

Several writers share one state.  Each reads it, computes a patch from what it
read, and sends the patch; a conflict answer makes it read again, a bounded
number of times.  The steps of different writers interleave in any order.
-/

namespace Foundation

/-- How far a writer is. -/
inductive WriterPhase (patch : Type) where
  | reading (attempt : Nat)
  | patching (attempt : Nat) (sent : patch)
  | returned
  | raised
deriving DecidableEq

/-- The shared state and every writer. -/
structure Writers (writer state patch : Type) where
  state : state
  phase : writer -> WriterPhase patch

namespace Writers

variable {writer state patch exc : Type} [DecidableEq writer]

/-- The phase after a read, from what the writer computed. -/
def afterRead (attempt : Nat) : Except exc (Option patch) -> WriterPhase patch
  | .error _ => .raised
  | .ok none => .returned
  | .ok (some p) => .patching attempt p

def afterConflict (retries attempt : Nat) : WriterPhase patch :=
  if attempt < retries then .reading (attempt + 1) else .raised

def start (s : state) : Writers writer state patch :=
  ⟨s, fun _ => .reading 1⟩

section Steps

variable (build : writer -> state -> Except exc (Option patch))
  (apply : patch -> state -> state) (conflicts : state -> patch -> Prop) (retries : Nat)

/-- One step of one writer. -/
inductive Step : Writers writer state patch -> Writers writer state patch -> Prop where
  | read {c : Writers writer state patch} {w : writer} {attempt : Nat}
      (hphase : c.phase w = .reading attempt) :
      Step c ⟨c.state, Function.update c.phase w (afterRead attempt (build w c.state))⟩
  | patch {c : Writers writer state patch} {w : writer} {attempt : Nat} {p : patch}
      (hphase : c.phase w = .patching attempt p) :
      Step c ⟨apply p c.state, Function.update c.phase w .returned⟩
  | conflict {c : Writers writer state patch} {w : writer} {attempt : Nat} {p : patch}
      (hphase : c.phase w = .patching attempt p) (hconflict : conflicts c.state p) :
      Step c ⟨c.state, Function.update c.phase w (afterConflict retries attempt)⟩

/-- The runs from a state that meet the property at every step. -/
def RunIn (property : Writers writer state patch -> Prop) (s : state)
    (c : Writers writer state patch) : Prop :=
  Relation.ReflTransGen
    (fun c c' => property c ∧ Step build apply conflicts retries c c') (start s) c

/-- One writer alone. -/
def solo (w : writer) (s : state) : Except exc state :=
  match build w s with
  | .error e => .error e
  | .ok none => .ok s
  | .ok (some p) => .ok (apply p s)

end Steps

section Runs

variable {build : writer -> state -> Except exc (Option patch)}
  {apply : patch -> state -> state} {conflicts : state -> patch -> Prop} {retries : Nat}
  {property : Writers writer state patch -> Prop} {s : state}

/-- What holds at the start and is kept by every step holds after every run. -/
theorem RunIn.induct (invariant : Writers writer state patch -> Prop)
    (hstart : invariant (start s))
    (hstep : forall c c', property c -> Step build apply conflicts retries c c' ->
      invariant c -> invariant c')
    {c : Writers writer state patch} (h : RunIn build apply conflicts retries property s c) :
    invariant c := by
  induction h with
  | refl => exact hstart
  | tail _ hlast ih => exact hstep _ _ hlast.1 hlast.2 ih

end Runs

/-!
## Two writers

Without conflicts a writer reads once.  Two writers then run one after the
other, or both compute their patch from the same state.
-/

section Two

variable (build : Bool -> state -> Except exc (Option patch)) (apply : patch -> state -> state)

/-- Where two writers without conflicts can be. -/
inductive TwoStage (s : state) : Writers Bool state patch -> Prop where
  | raised {c : Writers Bool state patch} (w : Bool) (hraised : c.phase w = .raised) :
      TwoStage s c
  | start {c : Writers Bool state patch} (hstate : c.state = s)
      (hphase : forall w, c.phase w = .reading 1) : TwoStage s c
  | sent {c : Writers Bool state patch} (w : Bool) {p : patch} (hstate : c.state = s)
      (hphase : c.phase w = .patching 1 p) (hother : c.phase (!w) = .reading 1)
      (hbuilt : build w s = .ok (some p)) : TwoStage s c
  | bothSent {c : Writers Bool state patch} (p : Bool -> patch) (hstate : c.state = s)
      (hphase : forall w, c.phase w = .patching 1 (p w))
      (hbuilt : forall w, build w s = .ok (some (p w))) : TwoStage s c
  | done {c : Writers Bool state patch} (w : Bool) (hphase : c.phase w = .returned)
      (hother : c.phase (!w) = .reading 1) (hsolo : solo build apply w s = .ok c.state) :
      TwoStage s c
  | doneSent {c : Writers Bool state patch} (w : Bool) {p : patch}
      (hphase : c.phase w = .returned) (hother : c.phase (!w) = .patching 1 p)
      (hsolo : solo build apply w s = .ok c.state)
      (hbuilt : build (!w) c.state = .ok (some p)) : TwoStage s c
  | raced {c : Writers Bool state patch} (w : Bool) {p p' : patch}
      (hphase : c.phase w = .returned) (hother : c.phase (!w) = .patching 1 p')
      (hbuilt : build w s = .ok (some p)) (hbuilt' : build (!w) s = .ok (some p'))
      (hstate : c.state = apply p s) : TwoStage s c
  | serial {c : Writers Bool state patch} (w : Bool) {s' : state}
      (hphase : forall w, c.phase w = .returned) (hsolo : solo build apply w s = .ok s')
      (hsolo' : solo build apply (!w) s' = .ok c.state) : TwoStage s c
  | race {c : Writers Bool state patch} (w : Bool) {p p' : patch}
      (hphase : forall w, c.phase w = .returned) (hbuilt : build w s = .ok (some p))
      (hbuilt' : build (!w) s = .ok (some p'))
      (hstate : c.state = apply p' (apply p s)) : TwoStage s c

variable {build apply} {s : state} {c : Writers Bool state patch}

theorem eq_or_eq_not (v w : Bool) : v = w ∨ v = !w := by
  cases v <;> cases w <;> simp

theorem not_ne (v : Bool) : (!v) ≠ v := by
  cases v <;> simp

/-- The writer in a phase that the first one is not in is the second. -/
theorem eq_not_of_phase {v w : Bool} {phase : WriterPhase patch} (hv : c.phase v = phase)
    (hw : c.phase w ≠ phase) : v = !w := by
  rcases eq_or_eq_not v w with heq | heq
  · rw [heq] at hv
    exact absurd hv hw
  · exact heq

/-- A writer reads. -/
theorem TwoStage.read (h : TwoStage build apply s c) {v : Bool} {attempt : Nat}
    (hreading : c.phase v = .reading attempt) :
    TwoStage build apply s
      ⟨c.state, Function.update c.phase v (afterRead attempt (build v c.state))⟩ := by
  have hself : forall phase, Function.update c.phase v phase v = phase :=
    fun _ => Function.update_self ..
  have hkept : forall phase w, w ≠ v -> Function.update c.phase v phase w = c.phase w :=
    fun _ _ hne => Function.update_of_ne hne ..
  cases h with
  | raised w hraised =>
      have hne : w ≠ v := by
        intro heq
        rw [heq, hreading] at hraised
        cases hraised
      exact .raised w ((hkept _ w hne).trans hraised)
  | start hstate hphase =>
      cases (hphase v).symm.trans hreading
      cases hbuilt : build v c.state with
      | error e => exact .raised v (hself _)
      | ok built =>
          cases built with
          | none =>
              refine .done v (hself _) ((hkept _ _ (not_ne v)).trans (hphase _)) ?_
              rw [← hstate, solo, hbuilt]
          | some p =>
              exact .sent v hstate (hself _) ((hkept _ _ (not_ne v)).trans (hphase _))
                (hstate ▸ hbuilt)
  | @sent w p hstate hphase hother hbuiltw =>
      have hv : v = !w := eq_not_of_phase hreading (by rw [hphase]; simp)
      subst hv
      cases hother.symm.trans hreading
      have hw := (hkept · w (not_ne w).symm)
      cases hbuilt : build (!w) c.state with
      | error e => exact .raised (!w) (hself _)
      | ok built =>
          cases built with
          | none =>
              refine .doneSent (p := p) (!w) (hself _) ?_ ?_ ?_
              · rw [Bool.not_not]
                exact (hw _).trans hphase
              · rw [← hstate, solo, hbuilt]
              · rw [Bool.not_not, hstate]
                exact hbuiltw
          | some p' =>
              refine .bothSent (fun b => if b = w then p else p') hstate ?_ ?_
              · intro b
                rcases eq_or_eq_not b w with heq | heq
                · rw [heq, if_pos rfl]
                  exact (hw _).trans hphase
                · rw [heq, if_neg (not_ne w)]
                  exact hself _
              · intro b
                rcases eq_or_eq_not b w with heq | heq
                · rw [heq, if_pos rfl]
                  exact hbuiltw
                · rw [heq, if_neg (not_ne w)]
                  exact hstate ▸ hbuilt
  | bothSent p hstate hphase hbuilt =>
      rw [hphase v] at hreading
      cases hreading
  | done w hphase hother hsolo =>
      have hv : v = !w := eq_not_of_phase hreading (by rw [hphase]; simp)
      subst hv
      cases hother.symm.trans hreading
      have hw := (hkept · w (not_ne w).symm)
      cases hbuilt : build (!w) c.state with
      | error e => exact .raised (!w) (hself _)
      | ok built =>
          cases built with
          | none =>
              refine .serial w ?_ hsolo ?_
              · intro b
                rcases eq_or_eq_not b w with heq | heq
                · rw [heq]
                  exact (hw _).trans hphase
                · rw [heq]
                  exact hself _
              · rw [solo, hbuilt]
          | some p => exact .doneSent w ((hw _).trans hphase) (hself _) hsolo hbuilt
  | doneSent w hphase hother =>
      have hv : v = !w := eq_not_of_phase hreading (by rw [hphase]; simp)
      rw [hv, hother] at hreading
      cases hreading
  | raced w hphase hother =>
      have hv : v = !w := eq_not_of_phase hreading (by rw [hphase]; simp)
      rw [hv, hother] at hreading
      cases hreading
  | serial w hphase =>
      rw [hphase v] at hreading
      cases hreading
  | race w hphase =>
      rw [hphase v] at hreading
      cases hreading

/-- A patch is accepted. -/
theorem TwoStage.accept (h : TwoStage build apply s c) {v : Bool} {attempt : Nat} {p : patch}
    (hpatching : c.phase v = .patching attempt p) :
    TwoStage build apply s ⟨apply p c.state, Function.update c.phase v .returned⟩ := by
  have hself : Function.update c.phase v .returned v = .returned := Function.update_self ..
  have hkept : forall w, w ≠ v -> Function.update c.phase v .returned w = c.phase w :=
    fun _ hne => Function.update_of_ne hne ..
  have hall : c.phase (!v) = .returned ->
      forall w, Function.update c.phase v .returned w = .returned := by
    intro hother w
    rcases eq_or_eq_not w v with heq | heq
    · rw [heq]
      exact hself
    · rw [heq]
      exact (hkept _ (not_ne v)).trans hother
  cases h with
  | raised w hraised =>
      have hne : w ≠ v := by
        intro heq
        rw [heq, hpatching] at hraised
        cases hraised
      exact .raised w ((hkept w hne).trans hraised)
  | start hstate hphase =>
      rw [hphase v] at hpatching
      cases hpatching
  | @sent w p' hstate hphase hother hbuilt =>
      have hv : w = v := by
        rcases eq_or_eq_not w v with heq | heq
        · exact heq
        · rw [heq, Bool.not_not, hpatching] at hother
          cases hother
      subst hv
      cases hphase.symm.trans hpatching
      refine .done w hself ((hkept _ (not_ne w)).trans hother) ?_
      rw [solo, hbuilt, hstate]
  | bothSent ps hstate hphase hbuilt =>
      cases (hphase v).symm.trans hpatching
      exact .raced v hself ((hkept _ (not_ne v)).trans (hphase _)) (hbuilt v) (hbuilt _)
        (congrArg (apply (ps v)) hstate)
  | done w hphase hother hsolo =>
      rcases eq_or_eq_not v w with heq | heq
      · rw [heq, hphase] at hpatching
        cases hpatching
      · rw [heq, hother] at hpatching
        cases hpatching
  | @doneSent w p' hphase hother hsolo hbuilt =>
      have hv : v = !w := eq_not_of_phase hpatching (by rw [hphase]; simp)
      subst hv
      cases hother.symm.trans hpatching
      refine .serial w (hall (by rw [Bool.not_not]; exact hphase)) hsolo ?_
      rw [solo, hbuilt]
  | @raced w p' p'' hphase hother hbuilt hbuilt' hstate =>
      have hv : v = !w := eq_not_of_phase hpatching (by rw [hphase]; simp)
      subst hv
      cases hother.symm.trans hpatching
      exact .race w (hall (by rw [Bool.not_not]; exact hphase)) hbuilt hbuilt'
        (congrArg (apply p) hstate)
  | serial w hphase =>
      rw [hphase v] at hpatching
      cases hpatching
  | race w hphase =>
      rw [hphase v] at hpatching
      cases hpatching

/-- A patch that a writer of the run holds was built by it, so nothing conflicts. -/
theorem TwoStage.conflict {conflicts : state -> patch -> Prop}
    (hfree : forall w s p s', build w s = .ok (some p) -> ¬ conflicts s' p)
    (h : TwoStage build apply s c) {v : Bool} {attempt : Nat} {p : patch}
    (hpatching : c.phase v = .patching attempt p) (hconflict : conflicts c.state p)
    (phase : WriterPhase patch) :
    TwoStage build apply s ⟨c.state, Function.update c.phase v phase⟩ := by
  have hnone : forall {w s'}, build w s' ≠ .ok (some p) :=
    fun hbuilt => hfree _ _ _ _ hbuilt hconflict
  cases h with
  | raised w hraised =>
      have hne : w ≠ v := by
        intro heq
        rw [heq, hpatching] at hraised
        cases hraised
      exact .raised w ((Function.update_of_ne hne ..).trans hraised)
  | start hstate hphase =>
      rw [hphase v] at hpatching
      cases hpatching
  | @sent w p' hstate hphase hother hbuilt =>
      rcases eq_or_eq_not v w with heq | heq
      · subst heq
        cases hphase.symm.trans hpatching
        exact absurd hbuilt hnone
      · rw [heq, hother] at hpatching
        cases hpatching
  | bothSent ps hstate hphase hbuilt =>
      cases (hphase v).symm.trans hpatching
      exact absurd (hbuilt v) hnone
  | done w hphase hother hsolo =>
      rcases eq_or_eq_not v w with heq | heq
      · rw [heq, hphase] at hpatching
        cases hpatching
      · rw [heq, hother] at hpatching
        cases hpatching
  | doneSent w hphase hother hsolo hbuilt =>
      have hv : v = !w := eq_not_of_phase hpatching (by rw [hphase]; simp)
      subst hv
      cases hother.symm.trans hpatching
      exact absurd hbuilt hnone
  | raced w hphase hother hbuilt hbuilt' hstate =>
      have hv : v = !w := eq_not_of_phase hpatching (by rw [hphase]; simp)
      subst hv
      cases hother.symm.trans hpatching
      exact absurd hbuilt' hnone
  | serial w hphase =>
      rw [hphase v] at hpatching
      cases hpatching
  | race w hphase =>
      rw [hphase v] at hpatching
      cases hpatching

/-- Two writers that never meet a conflict and both return ran one after the
other, or both patched what they computed from the first state. -/
theorem two_writers {conflicts : state -> patch -> Prop} {retries : Nat}
    {property : Writers Bool state patch -> Prop}
    (hfree : forall w s p s', build w s = .ok (some p) -> ¬ conflicts s' p)
    (hrun : RunIn build apply conflicts retries property s c)
    (hreturned : forall w, c.phase w = .returned) :
    (exists w s', solo build apply w s = .ok s' ∧ solo build apply (!w) s' = .ok c.state) ∨
      exists w p p', build w s = .ok (some p) ∧ build (!w) s = .ok (some p') ∧
        c.state = apply p' (apply p s) := by
  have hstage : TwoStage build apply s c := by
    refine RunIn.induct (TwoStage build apply s) (.start rfl fun _ => rfl) ?_ hrun
    intro c c' _ hstep h
    cases hstep with
    | read hphase => exact h.read hphase
    | patch hphase => exact h.accept hphase
    | conflict hphase hconflict => exact h.conflict hfree hphase hconflict _
  cases hstage with
  | serial w _ hsolo hsolo' => exact Or.inl ⟨w, _, hsolo, hsolo'⟩
  | race w _ hbuilt hbuilt' hstate => exact Or.inr ⟨w, _, _, hbuilt, hbuilt', hstate⟩
  | raised w hphase =>
      rw [hreturned w] at hphase
      cases hphase
  | start _ hphase =>
      have htrue := hphase true
      rw [hreturned true] at htrue
      cases htrue
  | sent w _ hphase =>
      rw [hreturned w] at hphase
      cases hphase
  | bothSent p _ hphase =>
      have htrue := hphase true
      rw [hreturned true] at htrue
      cases htrue
  | done w _ hother =>
      rw [hreturned (!w)] at hother
      cases hother
  | doneSent w _ hother =>
      rw [hreturned (!w)] at hother
      cases hother
  | raced w _ hother =>
      rw [hreturned (!w)] at hother
      cases hother

end Two

end Writers

end Foundation
