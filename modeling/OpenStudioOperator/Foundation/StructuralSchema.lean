import OpenStudioOperator.Foundation.Json

/-!
# Structural schemas

A server that stores a document keeps the members that the schema declares and
drops the others, except where the schema preserves what it does not know.
-/

namespace Foundation

inductive Schema where
  /-- Members that are not declared stay. -/
  | preserved
  | string
  | array (items : Schema)
  | object (properties : List (String × Schema))

namespace Schema

mutual

/-- The document without the members that the schema does not declare. -/
def prune : Schema -> Json -> Json
  | preserved, j => j
  | string, j => j
  | array items, j =>
      match j with
      | .arr js => .arr (js.map (prune items))
      | other => other
  | object properties, j =>
      match j with
      | .obj ms => .obj (ms.filterMap fun m => (pruneMember properties m.1 m.2).map (m.1, ·))
      | other => other

/-- A member under the property of its name, if there is one. -/
def pruneMember : List (String × Schema) -> String -> Json -> Option Json
  | [], _, _ => none
  | property :: rest, k, v =>
      match pruneProperty property k v with
      | some v' => some v'
      | none => pruneMember rest k v

def pruneProperty : String × Schema -> String -> Json -> Option Json
  | (name, schema), k, v => if k = name then some (prune schema v) else none

end

theorem pruneMember_eq (k : String) (v : Json) : forall properties : List (String × Schema),
    pruneMember properties k v = (properties.lookup k).map fun schema => prune schema v
  | [] => by rw [pruneMember, List.lookup_nil, Option.map_none]
  | (name, schema) :: rest => by
      rw [pruneMember, pruneProperty]
      by_cases hk : k = name
      · subst hk
        rw [if_pos rfl, List.lookup_cons_self, Option.map_some]
      · rw [if_neg hk, List.lookup_cons, beq_eq_false_iff_ne.mpr hk]
        exact pruneMember_eq k v rest

/-- What a schema leaves of a member. -/
def pruneAt (properties : List (String × Schema)) (k : String) (v : Json) : Option Json :=
  (properties.lookup k).map fun schema => prune schema v

theorem prune_obj (properties : List (String × Schema)) (ms : List (String × Json)) :
    prune (object properties) (.obj ms) =
      .obj (ms.filterMap fun m => (pruneAt properties m.1 m.2).map (m.1, ·)) := by
  simp only [prune, pruneMember_eq, pruneAt]

theorem prune_arr (items : Schema) (js : List Json) :
    prune (array items) (.arr js) = .arr (js.map (prune items)) := by
  rw [prune]

/-- Whether a member stays depends on its key alone. -/
theorem lookup_prune (properties : List (String × Schema)) (k : String) :
    forall ms : List (String × Json),
      (ms.filterMap fun m => (pruneAt properties m.1 m.2).map (m.1, ·)).lookup k =
        (ms.lookup k).bind (pruneAt properties k)
  | [] => rfl
  | (k', v) :: rest => by
      have ih := lookup_prune properties k rest
      rw [List.filterMap_cons]
      by_cases hk : k = k'
      · subst hk
        rw [List.lookup_cons_self, Option.bind_some]
        cases hv : pruneAt properties k v with
        | some v' => simp
        | none =>
            have hundeclared : forall v', pruneAt properties k v' = none := by
              intro v'
              unfold pruneAt at hv ⊢
              rw [Option.map_eq_none_iff] at hv
              rw [hv, Option.map_none]
            simp only [Option.map_none]
            rw [ih]
            cases rest.lookup k with
            | none => rfl
            | some v' => exact hundeclared v'
      · rw [List.lookup_cons, beq_eq_false_iff_ne.mpr hk, ← ih]
        cases pruneAt properties k' v with
        | none => rfl
        | some v' => simp [List.lookup_cons, beq_eq_false_iff_ne.mpr hk]

mutual

theorem prune_prune : forall (schema : Schema) (j : Json),
    prune schema (prune schema j) = prune schema j
  | preserved, j => by rw [prune, prune]
  | string, j => by rw [prune, prune]
  | array items, j => by
      cases j with
      | arr js =>
          rw [prune_arr, prune_arr, List.map_map]
          congr 1
          apply List.map_congr_left
          intro item _
          exact prune_prune items item
      | _ => rfl
  | object properties, j => by
      cases j with
      | obj ms =>
          rw [prune_obj, prune_obj, List.filterMap_filterMap]
          congr 1
          apply List.filterMap_congr
          intro m _
          cases hv : pruneAt properties m.1 m.2 with
          | none => rfl
          | some v => simp [pruneAt_pruneAt properties m.1 m.2 v hv]
      | _ => rfl

/-- What the schema left of a member stays. -/
theorem pruneAt_pruneAt : forall (properties : List (String × Schema)) (k : String)
    (v v' : Json), pruneAt properties k v = some v' -> pruneAt properties k v' = some v'
  | [], _, _, _, h => by cases h
  | property :: rest, k, v, v', h => by
      have hproperty := pruneProperty_pruneProperty property v
      rcases property with ⟨name, schema⟩
      unfold pruneAt at h ⊢
      by_cases hk : k = name
      · subst hk
        rw [List.lookup_cons_self, Option.map_some] at h ⊢
        rw [← Option.some.inj h, hproperty]
      · rw [List.lookup_cons, beq_eq_false_iff_ne.mpr hk] at h ⊢
        exact pruneAt_pruneAt rest k v v' h

theorem pruneProperty_pruneProperty : forall (property : String × Schema) (v : Json),
    prune property.2 (prune property.2 v) = prune property.2 v
  | (_, schema), v => prune_prune schema v

end

end Schema

end Foundation
