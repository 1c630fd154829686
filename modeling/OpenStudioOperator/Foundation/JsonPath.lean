import OpenStudioOperator.Foundation.Json

/-!
# Patches of one path

A path names a member, a member of that member, and so on.  A merge patch of one path sets
what stands at its end, makes the objects on the way, and touches no other path.
-/

namespace Foundation
namespace Json

/-- What stands at the end of a path. -/
def at? (j : Json) : List String -> Option Json
  | [] => some j
  | k :: path => (j.member? k).bind fun v => v.at? path

/-- The patch of one path. -/
def patchAt (v : Json) : List String -> Json
  | [] => v
  | k :: path => obj [(k, patchAt v path)]

theorem isNull_patchAt {v : Json} (hv : v.isNull = false) (path : List String) :
    (patchAt v path).isNull = false := by
  cases path with
  | nil => exact hv
  | cons k path => rfl

theorem at?_null_of_ne {path : List String} (h : path ≠ []) : null.at? path = none := by
  cases path with
  | nil => exact absurd rfl h
  | cons k path => rfl

theorem getD_at?_null (path : List String) : (null.at? path).getD null = null := by
  cases path <;> rfl

/-- A member after a patch of that member alone. -/
theorem member?_patch_self (t p : Json) (k : String) :
    (t.mergePatch (obj [(k, p)])).member? k = mergedMember (t.member? k) p := by
  rw [mergePatch, mergeMembers, mergeMembers]
  exact lookup_mergeMember_self t.members k p

theorem member?_patch_of_ne {k k' : String} (hne : k' ≠ k) (t p : Json) :
    (t.mergePatch (obj [(k, p)])).member? k' = t.member? k' := by
  rw [mergePatch, mergeMembers, mergeMembers]
  exact lookup_mergeMember_of_ne hne t.members p

/-- At its own path a patch merges its value. -/
theorem at?_patchAt_self {v : Json} (hv : v.isNull = false) (path : List String) :
    forall t : Json, (t.mergePatch (patchAt v path)).at? path =
      some (((t.at? path).getD null).mergePatch v) := by
  induction path with
  | nil => exact fun _ => rfl
  | cons k path ih =>
      intro t
      rw [patchAt, at?, member?_patch_self, mergedMember_some (isNull_patchAt hv path),
        Option.bind_some, ih, at?]
      cases t.member? k with
      | none => rw [Option.getD_none, getD_at?_null, Option.bind_none, Option.getD_none]
      | some child => rfl

/-- A patch leaves every path that neither leads to its own nor goes on from it. -/
theorem at?_patchAt_of_apart {v : Json} {path : List String} : forall {q : List String} (t : Json),
    ¬ path <+: q -> ¬ q <+: path -> (t.mergePatch (patchAt v path)).at? q = t.at? q := by
  induction path with
  | nil => exact fun _ h _ => absurd List.nil_prefix h
  | cons k path ih =>
      intro q t hbelow habove
      cases q with
      | nil => exact absurd List.nil_prefix habove
      | cons k' q =>
          rw [patchAt, at?, at?]
          by_cases hk : k' = k
          · subst hk
            rw [List.cons_prefix_cons, not_and] at hbelow habove
            have hbelow := hbelow rfl
            have habove := habove rfl
            have hobject : (patchAt v path).isNull = false := by
              cases path with
              | nil => exact absurd List.nil_prefix hbelow
              | cons k path => rfl
            rw [member?_patch_self, mergedMember_some hobject, Option.bind_some,
              ih _ hbelow habove]
            cases t.member? k' with
            | none =>
                rw [Option.getD_none, Option.bind_none]
                exact at?_null_of_ne fun hq => habove (hq ▸ List.nil_prefix)
            | some child => rfl
          · rw [member?_patch_of_ne hk]

/-- What stands above a path knows what stands at its end. -/
theorem at?_append (t : Json) (p q : List String) :
    t.at? (p ++ q) = (t.at? p).bind fun child => child.at? q := by
  induction p generalizing t with
  | nil => rfl
  | cons k p ih =>
      rw [List.cons_append, at?, at?]
      cases t.member? k with
      | none => rfl
      | some child => exact ih child

end Json
end Foundation
