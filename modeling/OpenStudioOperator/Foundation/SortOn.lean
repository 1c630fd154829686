import Mathlib.Data.List.Sort

/-!
# Sorting by a key

A stable sort of a list by a key in a linear order, and its first element: the
least one of the list, the same for every order of the list when the key tells
the elements apart.
-/

namespace Foundation

variable {alpha key : Type} [LinearOrder key]

/-- The elements by increasing key; elements of one key keep their order. -/
def sortOn (f : alpha -> key) (xs : List alpha) : List alpha :=
  xs.insertionSort fun a b => f a <= f b

theorem sortOn_perm (f : alpha -> key) (xs : List alpha) : (sortOn f xs).Perm xs :=
  List.perm_insertionSort _ xs

theorem sortOn_sorted (f : alpha -> key) (xs : List alpha) :
    (sortOn f xs).Pairwise fun a b => f a <= f b := by
  have htotal : Std.Total fun a b => f a <= f b := ⟨fun a b => le_total (f a) (f b)⟩
  have htrans : IsTrans alpha fun a b => f a <= f b := ⟨fun _ _ _ => le_trans⟩
  exact List.pairwise_insertionSort _ xs

/-- A list that is not empty has a first element in its sorted order, and no
element is below it. -/
theorem head?_sortOn (f : alpha -> key) {xs : List alpha} (hne : xs ≠ []) :
    exists x, (sortOn f xs).head? = some x ∧ x ∈ xs ∧ forall y, y ∈ xs -> f x <= f y := by
  have hperm := sortOn_perm f xs
  have hsorted := sortOn_sorted f xs
  cases hsort : sortOn f xs with
  | nil =>
      rw [hsort] at hperm
      exact absurd (List.nil_perm.mp hperm) hne
  | cons x rest =>
      rw [hsort] at hperm hsorted
      have hleast := (List.pairwise_cons.mp hsorted).1
      exists x
      constructor
      · rfl
      constructor
      · exact hperm.mem_iff.mp List.mem_cons_self
      · intro y hy
        rcases List.mem_cons.mp (hperm.mem_iff.mpr hy) with heq | hrest
        · rw [heq]
        · exact hleast y hrest

/-- The first element does not depend on the order of the list when distinct
elements have distinct keys. -/
theorem head?_sortOn_perm (f : alpha -> key) {xs ys : List alpha} (hperm : ys.Perm xs)
    (hinjective : forall x, x ∈ xs -> forall y, y ∈ xs -> f x = f y -> x = y) :
    (sortOn f ys).head? = (sortOn f xs).head? := by
  by_cases hne : xs = []
  · rw [hne] at hperm ⊢
    rw [hperm.eq_nil]
  · have hne' : ys ≠ [] := fun hnil => hne (List.nil_perm.mp (hnil ▸ hperm))
    rcases head?_sortOn f hne with ⟨x, hx, hmem, hleast⟩
    rcases head?_sortOn f hne' with ⟨y, hy, hmem', hleast'⟩
    have hyxs : y ∈ xs := hperm.mem_iff.mp hmem'
    have heq : y = x := hinjective y hyxs x hmem
      (le_antisymm (hleast' x (hperm.mem_iff.mpr hmem)) (hleast y hyxs))
    rw [hx, hy, heq]

/-!
## Ranks

In a list that follows a strict order, the number of elements before `x` says
whether `x` is among the first `n`.
-/

section Ranks

variable {r : alpha -> alpha -> Prop} [DecidableRel r]

theorem mem_take_iff_countP (hasymm : forall a b, r a b -> ¬ r b a) {x : alpha} :
    forall {xs : List alpha} (n : Nat), xs.Pairwise r -> x ∈ xs ->
      (x ∈ xs.take n <-> xs.countP (fun a => decide (r a x)) < n)
  | [], _, _, hx => by cases hx
  | a :: rest, 0, _, _ => by simp
  | a :: rest, n + 1, hordered, hx => by
      rcases List.pairwise_cons.mp hordered with ⟨hhead, hrest⟩
      rcases List.mem_cons.mp hx with heq | hmem
      · subst heq
        have hnone : rest.countP (fun b => decide (r b x)) = 0 := by
          rw [List.countP_eq_zero]
          intro b hb hbefore
          exact hasymm x b (hhead b hb) (of_decide_eq_true hbefore)
        have hirrefl : ¬ r x x := fun h => hasymm x x h h
        rw [List.take_succ_cons, List.countP_cons_of_neg (by simpa using hirrefl), hnone]
        exact ⟨fun _ => Nat.succ_pos n, fun _ => List.mem_cons_self⟩
      · have hne : x ≠ a := by
          intro heq
          have hself := hhead x hmem
          rw [← heq] at hself
          exact hasymm x x hself hself
        rw [List.take_succ_cons, List.countP_cons_of_pos (by simpa using hhead x hmem),
          List.mem_cons, or_iff_right hne, mem_take_iff_countP hasymm n hrest hmem]
        exact Nat.succ_lt_succ_iff.symm

/-- One element more or less, in a list without repetition. -/
theorem countP_of_nodup [DecidableEq alpha] (x : alpha) (p : alpha -> Bool) :
    forall {xs : List alpha}, xs.Nodup ->
      xs.countP p = xs.countP (fun a => decide (a ≠ x) && p a) +
        (if x ∈ xs ∧ p x = true then 1 else 0) := by
  intro xs
  induction xs with
  | nil =>
      intro _
      simp
  | cons a rest hinduction =>
      intro hnodup
      rcases List.nodup_cons.mp hnodup with ⟨hnot, hrest⟩
      have ih := hinduction hrest
      by_cases hax : a = x
      · subst hax
        rw [if_neg (fun h => hnot h.1)] at ih
        rw [List.countP_cons, ih, List.countP_cons_of_neg (by simp)]
        cases hp : p a <;> simp
      · have hmem : x ∈ a :: rest <-> x ∈ rest :=
          List.mem_cons.trans (or_iff_right (Ne.symm hax))
        rw [List.countP_cons, List.countP_cons, ih, if_congr (and_congr_left' hmem) rfl rfl]
        cases hp : p a <;> simp [hax]
        lia

end Ranks

end Foundation
