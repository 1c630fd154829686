import OpenStudioOperator.Foundation.Json

/-!
# Racing merge patches

Two writers of one document that both compute their patch from the same read.
The second patch is then stale.  Whether the outcome is one of the two serial
ones is decided member by member.
-/

namespace Foundation
namespace Json

/-- A member after a patch that may say nothing about it. -/
def patched (sent : Option Json) (member : Option Json) : Option Json :=
  match sent with
  | none => member
  | some v => mergedMember member v

/-- A member after a writer that reads it and sends its patch. -/
def after (send : Option Json -> Option Json) (member : Option Json) : Option Json :=
  patched (send member) member

/-- The stale patch does what the last writer would have done after the first. -/
def Forward (first last : Option Json -> Option Json) (member : Option Json) : Prop :=
  patched (last member) (after first member) = after last (after first member)

/-- The stale patch does what the last writer would have done before the first. -/
def Backward (first last : Option Json -> Option Json) (member : Option Json) : Prop :=
  patched (last member) (after first member) = after first (after last member)

section Members

variable {first last : Option Json -> Option Json} {member : Option Json}

theorem after_of_none (h : first member = none) : after first member = member := by
  rw [after, h, patched]

theorem after_of_some {v : Json} (h : first member = some v) :
    after first member = mergedMember member v := by
  rw [after, h, patched]

theorem forward_of_first_none (h : first member = none) : Forward first last member := by
  rw [Forward, after_of_none h, after]

theorem backward_of_last_none (h : last member = none) : Backward first last member := by
  rw [Backward, after_of_none h, h, patched]

/-- The last writer sends what it would send after the first. -/
theorem forward_of_same (h : last (after first member) = last member) :
    Forward first last member := by
  rw [Forward, ← h, after]
  rfl

theorem forward_of_last_never (h : forall x, last x = none) : Forward first last member :=
  forward_of_same (by rw [h, h])

theorem backward_of_first_never (h : forall x, first x = none) : Backward first last member := by
  rw [Backward, after_of_none (h _), after_of_none (h _), after]

end Members

/-!
## Whole documents
-/

/-- The document after a writer. -/
def written (build : Json -> Option Json) (raw : Json) : Json :=
  match build raw with
  | none => raw
  | some patch => raw.mergePatch patch

/-- The patch from `raw` is made member by member. -/
def Keyed (send : String -> Option Json -> Option Json) (build : Json -> Option Json)
    (raw : Json) : Prop :=
  match build raw with
  | none => forall k, send k (raw.members.lookup k) = none
  | some patch => exists members, patch = obj members ∧ Members.Sorted members ∧
      forall k, members.lookup k = send k (raw.members.lookup k)

section Documents

variable {send send' : String -> Option Json -> Option Json}
  {build build' : Json -> Option Json} {raw patch patch' : Json}

theorem Keyed.obj (h : Keyed send build raw) (hbuild : build raw = some patch) :
    exists members, patch = .obj members ∧ Members.Sorted members ∧
      forall k, members.lookup k = send k (raw.members.lookup k) := by
  rw [Keyed, hbuild] at h
  exact h

/-- Any document patched by such a writer, which may have read another one. -/
theorem Keyed.mergePatch (h : Keyed send build raw) (hbuild : build raw = some patch)
    (target : Json) (htarget : Members.Sorted target.members) :
    exists members, target.mergePatch patch = .obj members ∧ Members.Sorted members ∧
      forall k, members.lookup k =
        patched (send k (raw.members.lookup k)) (target.members.lookup k) := by
  rcases h.obj hbuild with ⟨members, hpatch, hsorted, hlookup⟩
  subst hpatch
  refine ⟨_, by rw [Json.mergePatch], sorted_mergeMembers members htarget, ?_⟩
  intro k
  rw [lookup_mergeMembers _ _ _ hsorted, hlookup]
  cases send k (raw.members.lookup k) <;> rfl

/-- The document after the writer that read it. -/
theorem Keyed.written (h : Keyed send build raw) {members : List (String × Json)}
    (hraw : raw = .obj members) (hsorted : Members.Sorted members) :
    exists members', written build raw = .obj members' ∧ Members.Sorted members' ∧
      forall k, members'.lookup k = after (send k) (members.lookup k) := by
  subst hraw
  unfold Json.written
  cases hbuild : build (.obj members) with
  | some patch => exact h.mergePatch hbuild _ hsorted
  | none =>
      rw [Keyed, hbuild] at h
      exact ⟨members, rfl, hsorted, fun k => (after_of_none (h k)).symm⟩

/-- The race ends as the first writer followed by the last. -/
theorem race_forward (hsorted : Members.Sorted raw.members) (h : Keyed send build raw)
    (h' : Keyed send' build' raw) (hbuild : build raw = some patch)
    (hbuild' : build' raw = some patch') (hlater : Keyed send' build' (raw.mergePatch patch))
    (hforward : forall k, Forward (send k) (send' k) (raw.members.lookup k)) :
    (raw.mergePatch patch).mergePatch patch' = written build' (raw.mergePatch patch) := by
  rcases h.mergePatch hbuild raw hsorted with ⟨ms, hms, hsortedms, hlookup⟩
  rw [hms] at hlater ⊢
  rcases h'.mergePatch hbuild' (.obj ms) hsortedms with ⟨race, hrace, hsortedrace, hlookuprace⟩
  rcases hlater.written rfl hsortedms with ⟨serial, hserial, hsortedserial, hlookupserial⟩
  rw [hrace, hserial]
  refine congrArg Json.obj (Members.ext hsortedrace hsortedserial ?_)
  intro k
  rw [hlookuprace, hlookupserial, members, hlookup]
  exact hforward k

/-- The race ends as the last writer followed by the first. -/
theorem race_backward (hsorted : Members.Sorted raw.members) (h : Keyed send build raw)
    (h' : Keyed send' build' raw) (hbuild : build raw = some patch)
    (hbuild' : build' raw = some patch') (hlater : Keyed send build (raw.mergePatch patch'))
    (hbackward : forall k, Backward (send k) (send' k) (raw.members.lookup k)) :
    (raw.mergePatch patch).mergePatch patch' = written build (raw.mergePatch patch') := by
  rcases h.mergePatch hbuild raw hsorted with ⟨ms, hms, hsortedms, hlookup⟩
  rcases h'.mergePatch hbuild' raw hsorted with ⟨ms', hms', hsortedms', hlookup'⟩
  rw [hms'] at hlater ⊢
  rw [hms]
  rcases h'.mergePatch hbuild' (.obj ms) hsortedms with ⟨race, hrace, hsortedrace, hlookuprace⟩
  rcases hlater.written rfl hsortedms' with ⟨serial, hserial, hsortedserial, hlookupserial⟩
  rw [hrace, hserial]
  refine congrArg Json.obj (Members.ext hsortedrace hsortedserial ?_)
  intro k
  rw [hlookuprace, hlookupserial, members, hlookup, hlookup']
  exact hbackward k

end Documents

end Json
end Foundation
