import Mathlib.Data.List.Basic

/-!
# Histories

A history is a list with the newest element first.  Its suffixes are its
earlier stages, so a property of every stage is a property of every suffix.
-/

namespace Foundation

variable {alpha : Type}

/-- The goal was met at some point and every newer element keeps it alive. -/
inductive Since (keep goal : alpha -> Prop) : List alpha -> Prop where
  | here {a : alpha} {older : List alpha} : goal a -> Since keep goal (a :: older)
  | later {a : alpha} {older : List alpha} :
      keep a -> Since keep goal older -> Since keep goal (a :: older)

namespace Since

variable {keep goal : alpha -> Prop}

/-- The history splits at the point where the goal was met. -/
theorem exists_split {history : List alpha} (h : Since keep goal history) :
    exists newer a older, history = newer ++ a :: older ∧ goal a ∧
      forall b, b ∈ newer -> keep b := by
  induction h with
  | @here a older hgoal =>
      exact ⟨[], a, older, rfl, hgoal, fun b hb => absurd hb List.not_mem_nil⟩
  | @later a older hkeep _ ih =>
      rcases ih with ⟨newer, b, oldest, hsplit, hgoal, hnewer⟩
      refine ⟨a :: newer, b, oldest, by rw [hsplit, List.cons_append], hgoal, ?_⟩
      intro c hc
      rcases List.mem_cons.mp hc with hca | hmem
      · rw [hca]
        exact hkeep
      · exact hnewer c hmem

end Since

/-- A history splits at every one of its positions. -/
theorem eq_take_cons_drop {history : List alpha} {n : Nat} {a : alpha}
    (h : history[n]? = some a) :
    history = history.take n ++ a :: history.drop (n + 1) := by
  rcases List.getElem?_eq_some_iff.mp h with ⟨hn, ha⟩
  rw [← ha, List.getElem_cons_drop hn, List.take_append_drop]

/-- Every element of the history meets a condition on the history before it. -/
inductive Throughout (p : alpha -> List alpha -> Prop) : List alpha -> Prop where
  | nil : Throughout p []
  | cons {a : alpha} {older : List alpha} :
      p a older -> Throughout p older -> Throughout p (a :: older)

namespace Throughout

variable {p : alpha -> List alpha -> Prop} {a : alpha} {older : List alpha}

theorem head (h : Throughout p (a :: older)) : p a older := by
  cases h with
  | cons ha _ => exact ha

theorem tail (h : Throughout p (a :: older)) : Throughout p older := by
  cases h with
  | cons _ holder => exact holder

theorem mono {q : alpha -> List alpha -> Prop} {history : List alpha}
    (h : Throughout p history) (himp : forall a older, p a older -> q a older) :
    Throughout q history := by
  induction h with
  | nil => exact .nil
  | cons ha _ ih => exact .cons (himp _ _ ha) ih

instance decidable [forall a older, Decidable (p a older)] :
    forall history : List alpha, Decidable (Throughout p history)
  | [] => isTrue .nil
  | _ :: older =>
      have := decidable older
      decidable_of_iff (p _ older ∧ Throughout p older)
        ⟨fun h => .cons h.1 h.2, fun h => ⟨h.head, h.tail⟩⟩

theorem of_append : forall newer : List alpha, Throughout p (newer ++ older) ->
    Throughout p older
  | [], h => h
  | _ :: newer, h => of_append newer h.tail

theorem of_split (newer : List alpha) (h : Throughout p (newer ++ a :: older)) :
    p a older :=
  (of_append newer h).head

theorem of_forall_split {history : List alpha}
    (h : forall newer a older, history = newer ++ a :: older -> p a older) :
    Throughout p history := by
  induction history with
  | nil => exact .nil
  | cons a older ih =>
      refine .cons (h [] a older rfl) (ih fun newer b oldest hsplit => ?_)
      exact h (a :: newer) b oldest (by rw [hsplit, List.cons_append])

end Throughout

/-!
## Blocks
-/

section Blocks

variable (opens : alpha -> Bool)

/-- The history cut into blocks: an element that opens a block is its oldest. -/
def blocks : List alpha -> List (List alpha)
  | [] => []
  | a :: older =>
      if opens a then [a] :: blocks older
      else
        match blocks older with
        | [] => [[a]]
        | block :: rest => (a :: block) :: rest

def newestBlock (history : List alpha) : List alpha :=
  (blocks opens history).headD []

variable {opens} {a : alpha} {older : List alpha} {q : List alpha -> Bool}

theorem blocks_cons_of_opens (h : opens a = true) :
    blocks opens (a :: older) = [a] :: blocks opens older := by
  rw [blocks, if_pos h]

theorem newestBlock_cons_of_opens (h : opens a = true) :
    newestBlock opens (a :: older) = [a] := by
  rw [newestBlock, blocks_cons_of_opens h]
  rfl

theorem newestBlock_cons (h : opens a = false) :
    newestBlock opens (a :: older) = a :: newestBlock opens older := by
  unfold newestBlock
  rw [blocks, if_neg (by rw [h]; exact Bool.false_ne_true)]
  cases blocks opens older with
  | nil => rfl
  | cons block rest => rfl

/-- A newer element changes the count of the blocks by what it does to the
newest one. -/
theorem countP_blocks_cons (older : List alpha) (hnil : q [] = false)
    (h : opens a = false) :
    (blocks opens (a :: older)).countP q + (q (newestBlock opens older)).toNat =
      (blocks opens older).countP q + (q (a :: newestBlock opens older)).toNat := by
  unfold newestBlock
  rw [blocks, if_neg (by rw [h]; exact Bool.false_ne_true)]
  cases blocks opens older with
  | nil =>
      simp only [List.headD_nil, hnil]
      cases hone : q [a] <;> simp [hone]
  | cons block rest =>
      simp only [List.headD_cons]
      cases hold : q block <;> cases hnew : q (a :: block) <;> simp [hold, hnew]

theorem countP_blocks_le (older : List alpha) (hnil : q [] = false)
    (hmono : forall block, q block = true -> q (a :: block) = true) :
    (blocks opens older).countP q <= (blocks opens (a :: older)).countP q := by
  cases h : opens a with
  | true =>
      rw [blocks_cons_of_opens h, List.countP_cons]
      exact Nat.le_add_right _ _
  | false =>
      have hcount := countP_blocks_cons older hnil h
      cases hnewest : q (newestBlock opens older) with
      | false =>
          rw [hnewest] at hcount
          simp only [Bool.toNat_false, Nat.add_zero] at hcount
          rw [hcount]
          exact Nat.le_add_right _ _
      | true =>
          rw [hnewest, hmono _ hnewest] at hcount
          exact Nat.le_of_eq (Nat.add_right_cancel hcount).symm

theorem countP_blocks_succ (older : List alpha) (hnil : q [] = false)
    (h : opens a = false) (hnewest : q (newestBlock opens older) = false)
    (hnow : q (a :: newestBlock opens older) = true) :
    (blocks opens (a :: older)).countP q = (blocks opens older).countP q + 1 := by
  have hcount := countP_blocks_cons older hnil h
  rw [hnewest, hnow] at hcount
  exact hcount

end Blocks

end Foundation
