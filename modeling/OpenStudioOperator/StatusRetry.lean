import OpenStudioOperator.Foundation.ReadModifyWrite
import OpenStudioOperator.StatusDocument

/-!
# Conflict retries

`_mutate` for any builder of patches.  A builder computes the patch from the
status that was just read, may decline or raise, and may remember its earlier
calls, as a closure does.
-/

namespace OpenStudioOperator
namespace StatusDocument

open Foundation ReadModifyWrite

variable {exc acc : Type}

/-- How a mutation fails: by its own conflict error, or by what a call or the
builder raised. -/
inductive Failure (exc : Type) where
  | statusStoreConflictError
  | raised (e : exc)
deriving DecidableEq

/-- What the API server raises is passed on. -/
def failing (server : Server Json exc) : Server Json (Failure exc) where
  beforeRead := server.beforeRead
  read := fun n => (server.read n).map .raised
  beforePatch := server.beforePatch
  patch := fun n =>
    match server.patch n with
    | .ok => .ok
    | .conflict => .conflict
    | .raised e applied => .raised (.raised e) applied

/-- `_read_status` of what the GET returned, then the builder. -/
def buildFrom (raise : PyExc -> exc)
    (build : acc -> List (String × Json) -> Except exc (Option Json × acc)) (a : acc)
    (status : Json) : Except (Failure exc) (Option Json × acc) :=
  match readStatus status with
  | .error e => .error (.raised (raise e))
  | .ok ms =>
      match build a ms with
      | .error e => .error (.raised e)
      | .ok built => .ok built

/-- `_mutate`. -/
def mutate (raise : PyExc -> exc) (server : Server Json exc)
    (build : acc -> List (String × Json) -> Except exc (Option Json × acc)) (a : acc)
    (status : Json) : RmwOutcome Json Json (Failure exc) acc :=
  run (failing server) (fun patch s => s.mergePatch patch) (buildFrom raise build)
    .statusStoreConflictError maxConflictRetries 1 a status

/-- The patches that reached the status. -/
def appliedPatches (out : RmwOutcome Json Json (Failure exc) acc) :
    List (Attempt Json Json (Failure exc)) :=
  out.attempts.filter fun t => t.answer.applied

/-- The attempts `ts` were all answered by a conflict; the next one is number
`n`, of a builder that remembers `a`, on a status left at `s`. -/
def AfterConflicts (raise : PyExc -> exc) (server : Server Json exc)
    (build : acc -> List (String × Json) -> Except exc (Option Json × acc)) (a₀ : acc)
    (status : Json) (ts : List (Attempt Json Json (Failure exc))) (n : Nat) (a : acc)
    (s : Json) : Prop :=
  Conflicts (failing server) (buildFrom raise build) 1 a₀ status ts n a s

/-- The discipline of the retry loop. -/
structure RetryDiscipline (raise : PyExc -> exc) (server : Server Json exc)
    (build : acc -> List (String × Json) -> Except exc (Option Json × acc)) (a₀ : acc)
    (status : Json) (out : RmwOutcome Json Json (Failure exc) acc) : Prop where
  bounded : out.attempts.length <= maxConflictRetries
  /-- A patch is sent only after conflicts, and computed from the status read
  immediately before it. -/
  computed : forall earlier t later, out.attempts = earlier ++ t :: later ->
    exists a a' s, AfterConflicts raise server build a₀ status earlier
        (earlier.length + 1) a s ∧
      t.readState = server.beforeRead (earlier.length + 1) s ∧
      buildFrom raise build a t.readState = .ok (some t.sent, a') ∧
      t.target = server.beforePatch (earlier.length + 1) t.readState
  /-- A normal return applied its last patch only, or declined and applied none. -/
  returned : forall a', out.result = .ok a' ->
    (exists earlier last, out.attempts = earlier ++ [last] ∧ last.answer = .ok ∧
        appliedPatches out = [last] ∧ out.final = last.target.mergePatch last.sent) ∨
      (exists n a s, AfterConflicts raise server build a₀ status out.attempts n a s ∧
        buildFrom raise build a (server.beforeRead n s) = .ok (none, a') ∧
        appliedPatches out = [] ∧ out.final = server.beforeRead n s)
  exhausted : out.result = .error .statusStoreConflictError <->
    out.attempts.length = maxConflictRetries ∧
      forall t, t ∈ out.attempts -> t.answer = .conflict
  /-- A failed read is raised at once. -/
  unread : forall ts n a s, AfterConflicts raise server build a₀ status ts n a s ->
    ts.length < maxConflictRetries -> forall e, server.read n = some e ->
    out.result = .error (.raised e) ∧ out.attempts = ts
  /-- What the builder raises is raised at once. -/
  unbuilt : forall ts n a s, AfterConflicts raise server build a₀ status ts n a s ->
    ts.length < maxConflictRetries -> server.read n = none ->
    forall e, buildFrom raise build a (server.beforeRead n s) = .error e ->
    out.result = .error e ∧ out.attempts = ts
  /-- An answer that is neither a success nor a conflict is raised at once. -/
  refused : forall ts n a s, AfterConflicts raise server build a₀ status ts n a s ->
    ts.length < maxConflictRetries -> server.read n = none ->
    forall patch a', buildFrom raise build a (server.beforeRead n s) = .ok (some patch, a') ->
    forall e applied, server.patch n = .raised e applied ->
    out.result = .error (.raised e) ∧ exists last, out.attempts = ts ++ [last]
  /-- A raise without an applied patch leaves what the others made of the status. -/
  unchanged : forall e, out.result = .error e -> appliedPatches out = [] ->
    OthersOnly (failing server) 1 status out.final

section Discipline

variable {raise : PyExc -> exc} {server : Server Json exc}
variable {build : acc -> List (String × Json) -> Except exc (Option Json × acc)}

theorem failing_read (n : Nat) :
    (failing server).read n ≠ some (Failure.statusStoreConflictError : Failure exc) := by
  intro h
  have h' : (server.read n).map Failure.raised = some .statusStoreConflictError := h
  rw [Option.map_eq_some_iff] at h'
  rcases h' with ⟨e, _, heq⟩
  cases heq

theorem failing_read_none {n : Nat} (h : server.read n = none) :
    (failing server).read n = none := by
  show (server.read n).map Failure.raised = none
  rw [h, Option.map_none]

theorem failing_patch (n : Nat) (applied : Bool) :
    (failing server).patch n ≠ .raised Failure.statusStoreConflictError applied := by
  intro h
  unfold failing at h
  simp only at h
  split at h <;> cases h

theorem buildFrom_error (a : acc) (status : Json) :
    buildFrom raise build a status ≠ .error .statusStoreConflictError := by
  intro h
  unfold buildFrom at h
  split at h
  · cases h
  · split at h <;> cases h

/-- Every mutation follows the discipline, whatever its builder, the answers of
the API server and the writes of others. -/
theorem mutate_retry_discipline (raise : PyExc -> exc) (server : Server Json exc)
    (build : acc -> List (String × Json) -> Except exc (Option Json × acc)) (a₀ : acc)
    (status : Json) :
    RetryDiscipline raise server build a₀ status (mutate raise server build a₀ status) where
  bounded := run_length_le _ _ _ _
  computed := by
    intro earlier t later h
    rcases run_split h with ⟨a, a', s, hconflicts, _, hread, hbuild, htarget, _⟩
    rw [Nat.add_comm 1 earlier.length] at hconflicts hread htarget
    exact ⟨a, a', s, hconflicts, hread, hbuild, htarget⟩
  returned := by
    intro a' h
    rcases run_returned_cases h with
      ⟨earlier, last, _, _, _, hattempts, hanswer, _, _, _, _, happlied, hfinal⟩ |
        ⟨n, a, s, hconflicts, _, hbuild, hnone, hfinal⟩
    · exact Or.inl ⟨earlier, last, hattempts, hanswer, happlied, hfinal⟩
    · exact Or.inr ⟨n, a, s, hconflicts, hbuild, hnone, hfinal⟩
  exhausted := run_exhausted_iff failing_read buildFrom_error failing_patch
  unread := by
    intro ts n a s hconflicts hfew e hread
    have hread' : (failing server).read n = some (.raised e) := by
      show (server.read n).map Failure.raised = _
      rw [hread, Option.map_some]
    unfold mutate
    rw [run_of_course hconflicts hfew (.unread hread')]
    exact ⟨rfl, List.append_nil ts⟩
  unbuilt := by
    intro ts n a s hconflicts hfew hread e hbuild
    unfold mutate
    rw [run_of_course hconflicts hfew (.unbuilt (failing_read_none hread) hbuild)]
    exact ⟨rfl, List.append_nil ts⟩
  refused := by
    intro ts n a s hconflicts hfew hread patch a' hbuild e applied hpatch
    have hpatch' : (failing server).patch n = .raised (.raised e) applied := by
      unfold failing
      simp only [hpatch]
    unfold mutate
    rw [run_of_course hconflicts hfew (.refused (failing_read_none hread) hbuild hpatch')]
    exact ⟨rfl, _, rfl⟩
  unchanged := by
    intro e _ hnone
    apply run_unchanged
    intro t ht
    have hnot := List.filter_eq_nil_iff.mp hnone t ht
    simpa using hnot

end Discipline

end StatusDocument
end OpenStudioOperator
