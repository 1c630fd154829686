import OpenStudioOperator.StatusConcurrency

/-!
# Mutations member by member

What a mutation sends for a member of the status depends on that member alone.
A mutation is a list of members with what it does to each.
-/

namespace OpenStudioOperator
namespace StatusDocument

open Foundation

/-- What a mutation does to one member of the status. -/
inductive MemberOp where
  | entry (protectedIds : List String) (key : String) (encoded : Json)
  | escalate (id : String) (at' : Instant) (outcome : String)
  | scope (live : List String)
  | scalar (encoded : Json)
  | append (event : List (String × String)) (maxEntries : Option Nat)
  | clearEvents

/-- The members of a soft stop with the escalation marks. -/
def marked (at' : Instant) (outcome : String) (current : List (String × Json)) :
    List (String × Json) :=
  Members.insert "escalatedAt" (timestamp at')
    (Members.insert "escalationOutcome" (.str outcome) current)

/-- The events of a member that may be no list. -/
def eventsOf (raw : Json) : List Json :=
  match raw with
  | .arr items => items
  | _ => []

namespace MemberOp

/-- The patch of the member, from the member that was read. -/
def patch : MemberOp -> Json -> Option Json
  | entry protectedIds key encoded, raw =>
      if !encoded.isNull ∧ statusMapMaxEntries <= raw.members.length ∧
          !(getMember raw.members key).pyEq encoded then
        some (cappedPatch protectedIds key encoded raw.members)
      else if (getMember raw.members key).pyEq encoded then none
      else some (.obj [(key, encoded)])
  | escalate id at' outcome, raw =>
      match getMember raw.members id with
      | .obj current =>
          if (Json.obj (marked at' outcome current)).pyEq (.obj current) then none
          else some (.obj [(id, .obj (marked at' outcome current))])
      | _ => none
  | scope live, raw =>
      let dead := raw.members.filter fun entry => entry.1 ∉ live
      if dead.isEmpty then none else some (.obj (dead.map fun entry => (entry.1, Json.null)))
  | scalar encoded, raw => if raw.pyEq encoded then none else some encoded
  | append event maxEntries, raw =>
      if maxEntries.any fun limit => decide (limit <= (eventsOf raw).length) then none
      else some (.arr (eventsOf raw ++ [encodeEvent event]))
  | clearEvents, raw => if raw.truthy then some .null else none

end MemberOp

/-- The members that a mutation writes. -/
def StoreMutation.memberOps (protectedIds : StatusField -> List String) :
    StoreMutation -> List (String × MemberOp)
  | .setSoftStop id record =>
      [(StatusField.softStops.key, .entry (protectedIds .softStops) id record.toDict)]
  | .markSoftStopEscalated id at' outcome =>
      [(StatusField.softStops.key, .escalate id at' outcome)]
  | .clearSoftStop id =>
      [(StatusField.softStops.key, .entry (protectedIds .softStops) id .null)]
  | .setRequeue id record =>
      [(StatusField.requeues.key, .entry (protectedIds .requeues) id record.toDict)]
  | .setStartedSince id at' =>
      [(StatusField.startedSince.key, .entry (protectedIds .startedSince) id (timestamp at'))]
  | .clearStartedSince id =>
      [(StatusField.startedSince.key, .entry (protectedIds .startedSince) id .null)]
  | .setArchivedAnalysis id record =>
      [(StatusField.archivedAnalyses.key,
        .entry (protectedIds .archivedAnalyses) id record.toDict)]
  | .clearArchivedAnalysis id =>
      [(StatusField.archivedAnalyses.key, .entry (protectedIds .archivedAnalyses) id .null)]
  | .setStopRecord id record =>
      [(StatusField.stoppedAnalyses.key,
        .entry (protectedIds .stoppedAnalyses) id record.toDict)]
  | .pruneStopRecord id =>
      [(StatusField.stoppedAnalyses.key, .entry (protectedIds .stoppedAnalyses) id .null)]
  | .appendDeferredEvent event maxEntries => [(deferredEventsKey, .append event maxEntries)]
  | .clearDeferredEvents => [(deferredEventsKey, .clearEvents)]
  | .setLastRecycleAt at' => [(lastRecycleAtKey, .scalar ((at'.map timestamp).getD .null))]
  | .setLastWebBackgroundRestartAt at' =>
      [(lastWebBackgroundRestartKey, .scalar ((at'.map timestamp).getD .null))]
  | .setStallWindowStartedAt at' =>
      [(stallWindowStartedAtKey, .scalar ((at'.map timestamp).getD .null))]
  | .setWebBackgroundIneffectiveRestarts count =>
      [(webBackgroundIneffectiveRestartsKey, .scalar (.int count))]
  | .prune liveAnalysisIds liveDatapointIds =>
      (pruneScopes liveAnalysisIds liveDatapointIds).filterMap fun s =>
        s.2.map fun live => (s.1.key, .scope live)

section MemberPatch

variable (unicode : UnicodeData) (protectedIds : StatusField -> List String)

/-- The patch of one member of the status. -/
def StoreMutation.memberPatch (op : StoreMutation) (ms : List (String × Json)) (k : String) :
    Option Json :=
  ((op.memberOps protectedIds).lookup k).bind fun m => m.patch (getMember ms k)

/-- The patch is the patches of its members. -/
def StoreMutation.Splits (op : StoreMutation) (ms : List (String × Json)) : Prop :=
  match op.buildPatch unicode protectedIds ms with
  | .ok (some patch) => exists members, patch = .obj members ∧ Members.Sorted members ∧
      forall k, members.lookup k = op.memberPatch protectedIds ms k
  | _ => forall k, op.memberPatch protectedIds ms k = none

variable {unicode protectedIds}

theorem entryPatch_member (prot : List String) (field : StatusField) (key : String)
    (encoded : Json) (ms : List (String × Json)) :
    entryPatch prot field key encoded ms =
      ((MemberOp.entry prot key encoded).patch (getMember ms field.key)).map
        fun v => .obj [(field.key, v)] := by
  unfold entryPatch MemberOp.patch
  simp only
  split
  · rfl
  · split <;> rfl

theorem scalarPatch_member (key : String) (encoded : Json) (ms : List (String × Json)) :
    scalarPatch key encoded ms =
      ((MemberOp.scalar encoded).patch (getMember ms key)).map fun v => .obj [(key, v)] := by
  unfold scalarPatch MemberOp.patch
  simp only
  split <;> rfl

theorem appendPatch_member (event : List (String × String)) (maxEntries : Option Nat)
    (ms : List (String × Json)) :
    appendPatch event maxEntries ms =
      ((MemberOp.append event maxEntries).patch (getMember ms deferredEventsKey)).map
        fun v => .obj [(deferredEventsKey, v)] := by
  have heq : appendPatch event maxEntries ms =
      if maxEntries.any fun limit =>
          decide (limit <= (eventsOf (getMember ms deferredEventsKey)).length) then none
      else some (.obj [(deferredEventsKey,
        .arr (eventsOf (getMember ms deferredEventsKey) ++ [encodeEvent event]))]) := rfl
  rw [heq, MemberOp.patch]
  split <;> rfl

theorem clearPatch_member (ms : List (String × Json)) :
    clearPatch ms = (MemberOp.clearEvents.patch (getMember ms deferredEventsKey)).map
      fun v => .obj [(deferredEventsKey, v)] := by
  unfold clearPatch MemberOp.patch
  simp only
  split <;> rfl

/-- A mutation of one member. -/
theorem splits_single {op : StoreMutation} {ms : List (String × Json)} {key : String}
    {m : MemberOp} (hops : op.memberOps protectedIds = [(key, m)])
    (hbuild : op.buildPatch unicode protectedIds ms =
      .ok ((m.patch (getMember ms key)).map fun v => .obj [(key, v)])) :
    op.Splits unicode protectedIds ms := by
  have hmember : forall k, op.memberPatch protectedIds ms k =
      if k = key then m.patch (getMember ms key) else none := by
    intro k
    unfold StoreMutation.memberPatch
    rw [hops, List.lookup_cons]
    by_cases hk : k = key
    · subst hk
      simp
    · simp [hk, beq_eq_false_iff_ne.mpr hk]
  unfold StoreMutation.Splits
  rw [hbuild]
  cases hsent : m.patch (getMember ms key) with
  | none =>
      simp only [Option.map_none]
      intro k
      rw [hmember, hsent, ite_self]
  | some v =>
      simp only [Option.map_some]
      refine ⟨_, rfl, List.pairwise_singleton _ _, ?_⟩
      intro k
      rw [hmember, hsent, List.lookup_cons]
      by_cases hk : k = key
      · simp [hk]
      · simp [hk, beq_eq_false_iff_ne.mpr hk]

theorem splits_escalation (id : String) (at' : Instant) (outcome : String)
    (ms : List (String × Json)) :
    (StoreMutation.markSoftStopEscalated id at' outcome).Splits unicode protectedIds ms := by
  have hpatch : escalationPatch unicode id at' outcome ms =
      .ok (((MemberOp.escalate id at' outcome).patch (getMember ms StatusField.softStops.key)).map
        fun v => .obj [(StatusField.softStops.key, v)]) ∨
      (MemberOp.escalate id at' outcome).patch (getMember ms StatusField.softStops.key) = none ∧
        exists e, escalationPatch unicode id at' outcome ms = .error e := by
    unfold escalationPatch MemberOp.patch
    simp only
    cases getMember (getMember ms StatusField.softStops.key).members id with
    | obj current =>
        left
        by_cases hsame : (Json.obj (marked at' outcome current)).pyEq (.obj current) = true
        · simp only [marked] at hsame ⊢
          simp [hsame]
        · simp only [marked] at hsame ⊢
          simp [hsame]
    | _ => exact Or.inr ⟨rfl, _, rfl⟩
  rcases hpatch with hok | ⟨hnone, e, herror⟩
  · exact splits_single rfl hok
  · unfold StoreMutation.Splits
    rw [StoreMutation.buildPatch, herror]
    intro k
    unfold StoreMutation.memberPatch StoreMutation.memberOps
    rw [List.lookup_cons]
    by_cases hk : k = StatusField.softStops.key
    · subst hk
      simpa using hnone
    · simp [beq_eq_false_iff_ne.mpr hk]

theorem lookup_scope_absent {field : StatusField}
    {scopes : List (StatusField × Option (List String))} (h : field ∉ scopes.map fun s => s.1) :
    (scopes.filterMap fun s => s.2.map fun live => (s.1.key, MemberOp.scope live)).lookup
      field.key = none := by
  apply Members.lookup_eq_none_of_ne
  intro m hm
  rcases List.mem_filterMap.mp hm with ⟨s, hs, hscope⟩
  rcases Option.map_eq_some_iff.mp hscope with ⟨live, _, heq⟩
  intro hkey
  rw [← heq] at hkey
  exact h (List.mem_map.mpr ⟨s, hs, StatusField.key_injective hkey⟩)

/-- What `prune` sends for the maps of some scopes. -/
theorem lookup_scopes (ms : List (String × Json)) (k : String) :
    forall (scopes : List (StatusField × Option (List String))) (start : List (String × Json)),
      (scopes.map fun s => s.1).Nodup ->
      (forall s, s ∈ scopes -> start.lookup s.1.key = none) ->
      ((scopes.filterMap (scopePatch ms)).foldl (fun ms d => Members.insert d.1 d.2 ms)
          start).lookup k =
        (start.lookup k).or
          (((scopes.filterMap fun s => s.2.map fun live => (s.1.key, MemberOp.scope live)).lookup
            k).bind fun m => m.patch (getMember ms k))
  | [], start, _, _ => by simp
  | (field, live) :: rest, start, hnodup, hstart => by
      rcases List.nodup_cons.mp hnodup with ⟨hfield, hrest⟩
      have hlater := fun s (hs : s ∈ rest) => hstart s (List.mem_cons_of_mem _ hs)
      have hhead := hstart (field, live) List.mem_cons_self
      have hscope : scopePatch ms (field, live) = live.bind fun ids =>
          ((MemberOp.scope ids).patch (getMember ms field.key)).map fun v => (field.key, v) := by
        unfold scopePatch MemberOp.patch
        cases live with
        | none => rfl
        | some ids =>
            simp only [Option.bind_some]
            split <;> rfl
      cases live with
      | none =>
          have hnone : scopePatch ms (field, none) = none := hscope
          simp only [List.filterMap_cons, hnone, Option.map_none]
          exact lookup_scopes ms k rest start hrest hlater
      | some ids =>
          simp only [Option.bind_some] at hscope
          cases hsent : (MemberOp.scope ids).patch (getMember ms field.key) with
          | none =>
              rw [hsent, Option.map_none] at hscope
              simp only [List.filterMap_cons, hscope, Option.map_some]
              rw [lookup_scopes ms k rest start hrest hlater, List.lookup_cons]
              by_cases hk : k = field.key
              · subst hk
                rw [hhead, beq_self_eq_true, lookup_scope_absent hfield]
                exact hsent.symm
              · simp [beq_eq_false_iff_ne.mpr hk]
          | some v =>
              rw [hsent, Option.map_some] at hscope
              simp only [List.filterMap_cons, hscope, Option.map_some, List.foldl_cons]
              rw [lookup_scopes ms k rest _ hrest, List.lookup_cons]
              · by_cases hk : k = field.key
                · subst hk
                  rw [Members.lookup_insert_self, hhead]
                  simp [hsent]
                · rw [Members.lookup_insert_of_ne _ hk]
                  simp [beq_eq_false_iff_ne.mpr hk]
              · intro s hs
                rw [Members.lookup_insert_of_ne]
                · exact hlater s hs
                · intro heq
                  exact hfield (List.mem_map.mpr ⟨s, hs, StatusField.key_injective heq⟩)

theorem splits_prune (liveAnalysisIds liveDatapointIds : Option (List String))
    (ms : List (String × Json)) :
    (StoreMutation.prune liveAnalysisIds liveDatapointIds).Splits unicode protectedIds ms := by
  have hnodup : ((pruneScopes liveAnalysisIds liveDatapointIds).map fun s => s.1).Nodup := by
    simp [pruneScopes]
  have hlookup := fun k => lookup_scopes ms k (pruneScopes liveAnalysisIds liveDatapointIds) []
    hnodup fun _ _ => rfl
  have hsorted := (sorted_foldl_insert
    ((pruneScopes liveAnalysisIds liveDatapointIds).filterMap (scopePatch ms)) []
    List.Pairwise.nil).1
  unfold StoreMutation.Splits
  rw [StoreMutation.buildPatch, prunePatch]
  split
  · rename_i heq
    split at heq
    · cases heq
    · cases heq
      exact ⟨_, rfl, hsorted, hlookup⟩
  · rename_i hnone
    split at hnone
    · rename_i hempty
      rw [List.isEmpty_iff.mp hempty] at hlookup
      intro k
      exact (hlookup k).symm
    · exact absurd rfl (hnone _)

/-- Every mutation works member by member. -/
theorem splits (op : StoreMutation) (ms : List (String × Json)) :
    op.Splits unicode protectedIds ms := by
  cases op with
  | markSoftStopEscalated id at' outcome => exact splits_escalation id at' outcome ms
  | prune liveAnalysisIds liveDatapointIds =>
      exact splits_prune liveAnalysisIds liveDatapointIds ms
  | appendDeferredEvent event maxEntries =>
      exact splits_single rfl (congrArg Except.ok (appendPatch_member event maxEntries ms))
  | clearDeferredEvents => exact splits_single rfl (congrArg Except.ok (clearPatch_member ms))
  | setLastRecycleAt at' =>
      exact splits_single rfl (congrArg Except.ok (scalarPatch_member _ _ ms))
  | setLastWebBackgroundRestartAt at' =>
      exact splits_single rfl (congrArg Except.ok (scalarPatch_member _ _ ms))
  | setStallWindowStartedAt at' =>
      exact splits_single rfl (congrArg Except.ok (scalarPatch_member _ _ ms))
  | setWebBackgroundIneffectiveRestarts count =>
      exact splits_single rfl (congrArg Except.ok (scalarPatch_member _ _ ms))
  | _ => exact splits_single rfl (congrArg Except.ok (entryPatch_member _ _ _ _ ms))

end MemberPatch

end StatusDocument
end OpenStudioOperator
