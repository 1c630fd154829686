import OpenStudioOperator.StatusStoreLaws

/-!
# The status store beside writers that only remove

Other writers may remove an entry at any read and any patch, but nobody else
writes it.  Then every store method leaves the entry as it was, removes it, or
is the one that wrote it.
-/

namespace OpenStudioOperator

open Foundation

/-- An entry is as it was, or gone. -/
def Spared {part : Type} (old new : Option part) : Prop :=
  new = old ∨ new = none

section Spared

variable {part : Type} {a b c : Option part}

theorem Spared.refl (a : Option part) : Spared a a :=
  Or.inl rfl

theorem Spared.trans (h : Spared a b) (h' : Spared b c) : Spared a c := by
  rcases h' with hsame | hgone
  · rw [hsame]
    exact h
  · exact Or.inr hgone

theorem Spared.of_none (h : Spared none b) : b = none :=
  h.elim id id

theorem Spared.of_some {value : part} (h : Spared a (some value)) : a = some value := by
  rcases h with hsame | hgone
  · exact hsame.symm
  · cases hgone

/-- A removal keeps an entry among those it may be. -/
theorem written_or_spared (h : b = c ∨ Spared a b) {d : Option part} (h' : Spared b d) :
    d = c ∨ Spared a d := by
  rcases h with hwritten | hspared
  · rcases h' with hsame | hgone
    · exact Or.inl (hsame.trans hwritten)
    · exact Or.inr (Or.inr hgone)
  · exact Or.inr (hspared.trans h')

end Spared

/-- Other writers may remove this entry but do not write it. -/
def Env.MayRemove {part : Type} (env : Env) (view : Status -> Option part) : Prop :=
  forall trace op n s,
    Spared (view s) (view ((env.server trace op).beforeRead n s)) ∧
      Spared (view s) (view ((env.server trace op).beforePatch n s))

theorem Env.Leaves.mayRemove {part : Type} {env : Env} {view : Status -> Option part}
    (h : env.Leaves view) : env.MayRemove view :=
  fun trace op n s => ⟨Or.inl (h trace op n s).1, Or.inl (h trace op n s).2⟩

/-- Removing keys from the maps leaves this entry or removes it. -/
def Erasable {part : Type} (view : Status -> Option part) : Prop :=
  forall (field : StatusField) ids s, Spared (view s) (view (field.eraseIn ids s))

/-- Every entry that others may only remove is as it was, or gone. -/
def Env.Spares (env : Env) (s s' : Status) : Prop :=
  forall (part : Type) (view : Status -> Option part),
    env.MayRemove view -> Erasable view -> Spared (view s) (view s')

theorem wp_readStatus_sparing {op : StoreOp} {env : Env} {w : World}
    {Q : Status -> World -> Prop} {E : Exc -> World -> Prop}
    (hok : forall s, env.Spares w.status s -> Q s (w.commit env.now op (.ok ()) s))
    (hraise : forall s e, env.Spares w.status s ->
      E e (w.commit env.now op (.error e) s)) :
    Prog.wp (readStatus op) env w Q E := by
  have hspares : env.Spares w.status
      ((env.server w.trace op).beforeRead 1 w.status) := by
    intro part view hremove _
    exact (hremove w.trace op 1 w.status).1
  cases hread : (env.server w.trace op).read 1 with
  | none =>
      have hQ := hok _ hspares
      simpa only [Prog.wp, readStatus, hread] using hQ
  | some e =>
      have hE := hraise _ e hspares
      simpa only [Prog.wp, readStatus, hread] using hE

/-!
## Erasing keys
-/

section EraseAll

variable {record : Type}

theorem get?_eraseAll (k : String) :
    forall (ids : List String) (m : Dict String record),
      (eraseAll ids m).get? k = if k ∈ ids then none else m.get? k
  | [], _ => rfl
  | id :: ids, m => by
      show (eraseAll ids (m.erase id)).get? k = _
      rw [get?_eraseAll k ids]
      rcases eq_or_ne k id with hk | hk
      · rw [hk, m.get?_erase_self]
        simp
      · rw [m.get?_erase_of_ne hk]
        simp [hk]

theorem spared_eraseAll (ids : List String) (m : Dict String record) (k : String) :
    Spared (m.get? k) ((eraseAll ids m).get? k) := by
  rw [get?_eraseAll]
  split_ifs
  · exact Or.inr rfl
  · exact Or.inl rfl

end EraseAll

theorem erasable_requeue (k : String) : Erasable (requeuesField.entry k) := by
  intro field ids s
  cases field with
  | requeues => exact spared_eraseAll ids s.requeues k
  | _ => exact Spared.refl _

theorem erasable_startedSince (k : String) : Erasable (startedSinceField.entry k) := by
  intro field ids s
  cases field with
  | startedSince => exact spared_eraseAll ids s.startedSince k
  | _ => exact Spared.refl _

/-!
## Writing one map entry
-/

/-- What one call of `_set_map_entry` does to a map whose entries are replaced.
A returned write is there whatever the others did. -/
structure SparingWrite {record : Type} (env : Env) (field : MapField record)
    (key : String) (encoded : Option record) (r : Except Exc Unit)
    (s s' : Status) : Prop where
  returned : r = .ok () -> field.entry key s' = encoded
  self : env.MayRemove (field.entry key) ->
    field.entry key s' = encoded ∨ Spared (field.entry key s) (field.entry key s')
  other : forall k, k ≠ key -> env.MayRemove (field.entry k) ->
    Spared (field.entry k s) (field.entry k s')
  frame : forall (part : Type) (view : Status -> Option part), env.MayRemove view ->
    (forall d t, view (field.write d t) = view t) -> Spared (view s) (view s')

section SparingWrite

variable {record : Type} [DecidableEq record] {merge : record -> record -> record}

/-- Applied to a map that has kept or lost another key, the patch keeps it, or
drops it at the cap. -/
theorem spared_applyMapPatch_other (hmerge : forall old new, merge old new = new)
    {protectedIds : List String} {key k : String} (hne : k ≠ key)
    {encoded old : Option record} {m m' : Dict String record}
    (hm : Spared old (m.get? k)) (hm' : Spared old (m'.get? k))
    {patch : Dict String (Option record)}
    (hpatch : (buildMapPatch protectedIds key encoded m).1 = some patch) :
    Spared old ((applyMapPatch merge patch m').get? k) := by
  rcases buildMapPatch_cases protectedIds key encoded m with
    ⟨_, _, hbuild⟩ | ⟨_, hbuild⟩ | hbuild
  · -- at the cap the patch repeats the entry as it was read
    rw [hbuild, Option.some.injEq] at hpatch
    rw [get?_applyMapPatch, ← hpatch, Dict.get?_set_of_ne _ _ hne, Dict.get?_mapValues]
    cases hget : m.get? k with
    | none => exact hm'
    | some r =>
        rw [hget] at hm
        simp only [Option.map_some]
        split_ifs
        · exact Or.inr rfl
        · have hkept : mergeEntry merge (m'.get? k) r = r := by
            cases m'.get? k with
            | none => rfl
            | some r' => exact hmerge r' r
          rw [Option.map_some, hkept]
          exact hm
  · rw [hbuild] at hpatch
    cases hpatch
  · rw [hbuild, Option.some.injEq] at hpatch
    rw [get?_applyMapPatch, ← hpatch, Dict.get?_set_of_ne _ _ hne, Dict.get?_empty]
    exact hm'

variable {field : MapField record} {op : StoreOp} {key : String}
variable {encoded : Option record} {env : Env} {w : World}

/-- The applied patch leaves the written entry as encoded. -/
theorem entry_applyFieldPatch_self (hreplace : forall old new, field.merge old new = new)
    {protectedIds evicted evicted' : List String} {s : Status}
    {patch : Dict String (Option record)}
    (hbuild : buildFieldPatch field protectedIds key encoded evicted s =
      .ok (some patch, evicted')) (t : Status) :
    field.entry key (applyFieldPatch field patch t) = encoded := by
  have hpatch := get?_buildMapPatch_self (buildFieldPatch_ok hbuild)
  show (field.read (field.write _ t)).get? key = _
  rw [field.read_write, get?_applyMapPatch, hpatch]
  cases encoded with
  | none => rfl
  | some r =>
      show some (mergeEntry field.merge ((field.read t).get? key) r) = some r
      cases (field.read t).get? key with
      | none => rfl
      | some r' => rw [mergeEntry, hreplace]

theorem setOutcome_sparingWrite (hreplace : forall old new, field.merge old new = new) :
    SparingWrite env field key encoded
      (answerOf (setOutcome op field key encoded env w).result)
      w.status (setOutcome op field key encoded env w).final := by
  constructor
  · intro hanswer
    cases hresult : (setOutcome op field key encoded env w).result with
    | error e =>
        rw [hresult] at hanswer
        cases hanswer
    | ok evicted =>
        apply ReadModifyWrite.run_returned (fun s => field.entry key s = encoded) ?_ ?_
          _ _ _ evicted _ hresult
        · intro a s patch a' hbuild t
          exact entry_applyFieldPatch_self hreplace hbuild t
        · intro a s a' hbuild
          exact get?_of_buildMapPatch_none (buildFieldPatch_ok hbuild)
  · intro hremove
    apply ReadModifyWrite.run_invariant (fun s =>
      field.entry key s = encoded ∨ Spared (field.entry key w.status) (field.entry key s))
    · intro n s hs
      exact written_or_spared hs (hremove w.trace op n s).1
    · intro n s hs
      exact written_or_spared hs (hremove w.trace op n s).2
    · intro a s patch a' hbuild _ t _
      exact Or.inl (entry_applyFieldPatch_self hreplace hbuild t)
    · exact Or.inr (Spared.refl _)
  · intro k hne hremove
    apply ReadModifyWrite.run_invariant (fun s =>
      Spared (field.entry k w.status) (field.entry k s))
    · intro n s hs
      exact hs.trans (hremove w.trace op n s).1
    · intro n s hs
      exact hs.trans (hremove w.trace op n s).2
    · intro a s patch a' hbuild hs t ht
      show Spared _ ((field.read (field.write _ t)).get? k)
      rw [field.read_write]
      exact spared_applyMapPatch_other hreplace hne hs ht (buildFieldPatch_ok hbuild)
    · exact Spared.refl _
  · intro part view hremove hwrite
    apply ReadModifyWrite.run_invariant (fun s => Spared (view w.status) (view s))
    · intro n s hs
      exact hs.trans (hremove w.trace op n s).1
    · intro n s hs
      exact hs.trans (hremove w.trace op n s).2
    · intro a s patch a' hbuild _ t ht
      show Spared _ (view (field.write _ t))
      rw [hwrite]
      exact ht
    · exact Spared.refl _

end SparingWrite

/-!
## Pruning
-/

section Prune

variable {liveAnalysisIds liveDatapointIds : Option (List String)}
variable {env : Env} {w : World}

theorem spared_applyPrunePatch {part : Type} {view : Status -> Option part}
    (h : Erasable view) :
    forall (deletions : List (StatusField × List String)) (s : Status),
      Spared (view s) (view (applyPrunePatch deletions s))
  | [], _ => Spared.refl _
  | d :: deletions, s =>
      (h d.1 d.2 s).trans (spared_applyPrunePatch h deletions (d.1.eraseIn d.2 s))

theorem pruneOutcome_spares :
    env.Spares w.status (pruneOutcome liveAnalysisIds liveDatapointIds env w).final := by
  intro part view hremove herase
  apply ReadModifyWrite.run_invariant (fun s => Spared (view w.status) (view s))
  · intro n s hs
    exact hs.trans (hremove w.trace _ n s).1
  · intro n s hs
    exact hs.trans (hremove w.trace _ n s).2
  · intro a s patch a' _ _ t ht
    exact ht.trans (spared_applyPrunePatch herase patch t)
  · exact Spared.refl _

/-- The patch deletes the dead keys of the status it was computed from. -/
def PruneSent (liveAnalysisIds liveDatapointIds : Option (List String))
    (issued : Option (Attempt Status (List (StatusField × List String)) Exc)) : Prop :=
  forall attempt, issued = some attempt ->
    attempt.sent = deletionsOf liveAnalysisIds liveDatapointIds attempt.readState

theorem pruneOutcome_sent :
    PruneSent liveAnalysisIds liveDatapointIds
      (pruneOutcome liveAnalysisIds liveDatapointIds env w).applied := by
  intro attempt h
  rcases ReadModifyWrite.run_attempts _ _ _ _ attempt (List.mem_of_find?_eq_some h) with
    ⟨before, after, hbuild⟩
  unfold buildPrunePatch at hbuild
  simp only [Except.ok.injEq, Prod.mk.injEq] at hbuild
  split_ifs at hbuild
  · cases hbuild.1
  · exact (Option.some.inj hbuild.1).symm

@[simp] theorem wp_protectAnchorKeys (field : StatusField) (keys : List String)
    (env : Env) (w : World) (Q : Unit -> World -> Prop) (E : Exc -> World -> Prop) :
    Prog.wp (protectAnchorKeys field keys) env w Q E <->
      Q () { w with
        protectedKeys := fun f => if f = field then keys else w.protectedKeys f } :=
  Iff.rfl

/-- What a prune leaves: the removals, and the patch that made them. -/
theorem wp_prune {Q : List (StatusField × List String) -> World -> Prop}
    {E : Exc -> World -> Prop}
    (hok : forall pruned s issued, env.Spares w.status s ->
      PruneSent liveAnalysisIds liveDatapointIds issued ->
      Q pruned ((w.commit env.now (.prune liveAnalysisIds liveDatapointIds) (.ok ())
        s).notePruned env.now issued))
    (hraise : forall e s issued, env.Spares w.status s ->
      PruneSent liveAnalysisIds liveDatapointIds issued ->
      E e ((w.commit env.now (.prune liveAnalysisIds liveDatapointIds) (.error e)
        s).notePruned env.now issued)) :
    Prog.wp (prune liveAnalysisIds liveDatapointIds) env w Q E := by
  have hspares := @pruneOutcome_spares liveAnalysisIds liveDatapointIds env w
  have hsent := @pruneOutcome_sent liveAnalysisIds liveDatapointIds env w
  cases hresult : (pruneOutcome liveAnalysisIds liveDatapointIds env w).result with
  | ok pruned =>
      have hQ := hok pruned _ _ hspares hsent
      simpa only [Prog.wp, prune, hresult] using hQ
  | error e =>
      have hE := hraise e _ _ hspares hsent
      simpa only [Prog.wp, prune, hresult] using hE

end Prune

end OpenStudioOperator
