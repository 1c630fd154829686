import Mathlib.Data.List.Basic

/-!
# Computations that raise

A computation ends with a value or raises an exception.  Which exceptions a sequence
can raise follows from what its parts can raise.
-/

namespace Foundation

variable {exc alpha beta : Type}

theorem bind_ok_iff {x : Except exc alpha} {f : alpha -> Except exc beta} {b : beta} :
    x >>= f = .ok b <-> exists a, x = .ok a ∧ f a = .ok b := by
  cases x with
  | error e =>
      constructor
      · intro h
        cases h
      · rintro ⟨a, ha, _⟩
        cases ha
  | ok a =>
      constructor
      · exact fun h => ⟨a, rfl, h⟩
      · rintro ⟨a', ha, hb⟩
        cases ha
        exact hb

theorem mapM_ok {f : alpha -> Except exc beta} {g : alpha -> beta} {xs : List alpha}
    (h : forall x, x ∈ xs -> f x = .ok (g x)) : xs.mapM f = .ok (xs.map g) := by
  induction xs with
  | nil => rfl
  | cons x rest ih =>
      rw [List.mapM_cons, h x List.mem_cons_self,
        ih (fun y hy => h y (List.mem_cons_of_mem x hy))]
      rfl

/-- A list is computed when each of its elements is. -/
theorem mapM_ok_iff {f : alpha -> Except exc beta} {xs : List alpha} :
    (exists ys, xs.mapM f = .ok ys) <-> forall x, x ∈ xs -> exists y, f x = .ok y := by
  induction xs with
  | nil => exact ⟨fun _ x hx => absurd hx List.not_mem_nil, fun _ => ⟨[], rfl⟩⟩
  | cons x rest ih =>
      rw [List.forall_mem_cons, ← ih]
      constructor
      · rintro ⟨ys, hys⟩
        rw [List.mapM_cons] at hys
        rcases bind_ok_iff.mp hys with ⟨y, hy, htail⟩
        rcases bind_ok_iff.mp htail with ⟨ys', hys', _⟩
        exact ⟨⟨y, hy⟩, ys', hys'⟩
      · rintro ⟨⟨y, hy⟩, ys, hys⟩
        exists y :: ys
        rw [List.mapM_cons, hy, hys]
        rfl

/-- No element is left out. -/
theorem length_of_mapM_ok {f : alpha -> Except exc beta} {xs : List alpha} {ys : List beta}
    (h : xs.mapM f = .ok ys) : ys.length = xs.length := by
  induction xs generalizing ys with
  | nil =>
      cases h
      rfl
  | cons x rest ih =>
      rw [List.mapM_cons] at h
      rcases bind_ok_iff.mp h with ⟨y, _, htail⟩
      rcases bind_ok_iff.mp htail with ⟨ys', hys', hcons⟩
      cases hcons
      exact congrArg Nat.succ (ih hys')

/-- Every exception of the computation is of one kind. -/
def OnlyRaises (p : exc -> Prop) (x : Except exc alpha) : Prop :=
  forall e, x = .error e -> p e

section OnlyRaises

variable {p : exc -> Prop}

theorem onlyRaises_ok (a : alpha) : OnlyRaises p (.ok a : Except exc alpha) := by
  intro e he
  cases he

theorem onlyRaises_error {e : exc} :
    OnlyRaises p (.error e : Except exc alpha) <-> p e := by
  constructor
  · exact fun h => h e rfl
  · intro h e' he'
    cases he'
    exact h

theorem onlyRaises_bind {x : Except exc alpha} {f : alpha -> Except exc beta} :
    OnlyRaises p (x >>= f) <->
      OnlyRaises p x ∧ forall a, x = .ok a -> OnlyRaises p (f a) := by
  cases x with
  | error e =>
      constructor
      · intro h
        exact ⟨onlyRaises_error.mpr (h e rfl), fun a ha => (by cases ha)⟩
      · intro h e' he'
        cases he'
        exact onlyRaises_error.mp h.1
  | ok a =>
      constructor
      · intro h
        refine ⟨onlyRaises_ok a, fun a' ha' => ?_⟩
        cases ha'
        exact h
      · exact fun h => h.2 a rfl

/-- A step whose condition makes it succeed. -/
theorem onlyRaises_bind_iff {x : Except exc alpha} {f : alpha -> Except exc beta} {r q : Prop}
    (hx : OnlyRaises p x <-> r) (hok : r -> exists a, x = .ok a)
    (hf : forall a, x = .ok a -> (OnlyRaises p (f a) <-> q)) :
    OnlyRaises p (x >>= f) <-> r ∧ q := by
  rw [onlyRaises_bind, hx]
  constructor
  · rintro ⟨hr, hrest⟩
    rcases hok hr with ⟨a, ha⟩
    exact ⟨hr, (hf a ha).mp (hrest a ha)⟩
  · rintro ⟨hr, hq⟩
    exact ⟨hr, fun a ha => (hf a ha).mpr hq⟩

end OnlyRaises

end Foundation
