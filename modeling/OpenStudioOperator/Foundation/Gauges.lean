import Mathlib.Data.List.Basic

/-!
# Gauges and counters

A gauge keeps what the last step that set it has set; a counter goes up at some of the
steps.  A history has the newest step first, and what a step does may depend on the history
before it.
-/

namespace Foundation

variable {step value : Type}

/-!
## Gauges
-/

/-- What the newest step that sets the gauge sets it to. -/
def lastSet (sets : step -> List step -> Option value) : List step -> Option value
  | [] => none
  | s :: older => (sets s older).or (lastSet sets older)

section Gauges

variable {sets : step -> List step -> Option value} {s : step} {older history : List step}

theorem lastSet_cons_of_none (h : sets s older = none) :
    lastSet sets (s :: older) = lastSet sets older := by
  rw [lastSet, h, Option.none_or]

theorem lastSet_cons_of_some {v : value} (h : sets s older = some v) :
    lastSet sets (s :: older) = some v := by
  rw [lastSet, h, Option.some_or]

end Gauges

/-!
## Counters
-/

/-- How many steps count. -/
def occurrences (counts : step -> List step -> Bool) : List step -> Nat
  | [] => 0
  | s :: older => occurrences counts older + (counts s older).toNat

section Counters

variable {counts counts' : step -> List step -> Bool}

/-- A counter that goes up at the steps that count shows their number. -/
theorem counter_eq_occurrences {counter : List step -> Nat} (hnil : counter [] = 0)
    (hcons : forall s older, counter (s :: older) = counter older + (counts s older).toNat)
    (history : List step) : counter history = occurrences counts history := by
  induction history with
  | nil => exact hnil
  | cons s older ih => rw [hcons, ih, occurrences]

end Counters

/-!
## Two counts of one population
-/

/-- Fewer elements meet the stronger predicate exactly when one meets the weaker one only. -/
theorem countP_lt_countP_iff {α : Type} {p q : α -> Bool} {xs : List α}
    (himp : forall x, p x = true -> q x = true) :
    xs.countP p < xs.countP q <-> exists x, x ∈ xs ∧ q x = true ∧ p x = false := by
  induction xs with
  | nil => simp
  | cons x xs ih =>
      have hle : xs.countP p <= xs.countP q := List.countP_mono_left fun y _ => himp y
      have hx := himp x
      simp only [List.countP_cons, List.mem_cons, or_and_right, exists_or, exists_eq_left, <- ih]
      cases hp : p x <;> cases hq : q x
      · simp
      · simp
        omega
      · simp [hp, hq] at hx
      · simp

end Foundation
