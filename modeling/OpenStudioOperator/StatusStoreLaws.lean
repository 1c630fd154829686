import OpenStudioOperator.StatusStore

/-!
# Laws of the status store

First what a map patch does to a map, then one rule for each store method:
what it leaves in the status and on the trace, with other writers interfering
at every read and every patch.
-/

namespace OpenStudioOperator

open Foundation

/-!
## Map patch laws
-/

section MapPatchLaws

variable {record : Type}

theorem get?_applyPatchEntry (merge : record -> record -> record)
    (m : Dict String record) (entry : String × Option record) (k : String) :
    (applyPatchEntry merge m entry).get? k =
      if k = entry.1 then entry.2.map (mergeEntry merge (m.get? k))
      else m.get? k := by
  rcases entry with ⟨k', v⟩
  by_cases hk : k = k'
  · subst hk
    cases v with
    | none => simp [applyPatchEntry]
    | some r => simp [applyPatchEntry]
  · cases v with
    | none => simp [applyPatchEntry, hk, Dict.get?_erase_of_ne m hk]
    | some r => simp [applyPatchEntry, hk, Dict.get?_set_of_ne m _ hk]

theorem get?_foldl_applyPatchEntry (merge : record -> record -> record)
    (k : String) :
    forall (entries : List (String × Option record)) (m : Dict String record),
      (entries.map Prod.fst).Nodup ->
        (entries.foldl (applyPatchEntry merge) m).get? k =
          match entries.lookup k with
          | none => m.get? k
          | some v => v.map (mergeEntry merge (m.get? k))
  | [], m, _ => rfl
  | (k', v) :: rest, m, hnodup => by
      rw [List.map_cons, List.nodup_cons] at hnodup
      rcases hnodup with ⟨hnotMem, hrest⟩
      rw [List.foldl_cons, get?_foldl_applyPatchEntry merge k rest _ hrest,
        get?_applyPatchEntry]
      by_cases hk : k = k'
      · -- the key is written here, so no later entry of the patch names it
        have hlater : rest.lookup k = none := by
          cases hlookup : rest.lookup k with
          | none => rfl
          | some v' =>
              have hmem := (Dict.lookup_eq_some_iff_mem k v' rest hrest).mp hlookup
              exact absurd (List.mem_map.mpr ⟨(k, v'), hmem, hk⟩) hnotMem
        simp [hk, hk ▸ hlater]
      · simp [hk, List.lookup_cons, beq_eq_false_iff_ne.mpr hk]

/-- RFC 7386 on one map: a null removes, a record merges, the rest stays. -/
theorem get?_applyMapPatch (merge : record -> record -> record)
    (patch : Dict String (Option record)) (m : Dict String record)
    (k : String) :
    (applyMapPatch merge patch m).get? k =
      match patch.get? k with
      | none => m.get? k
      | some v => v.map (mergeEntry merge (m.get? k)) :=
  get?_foldl_applyPatchEntry merge k patch.entries m patch.nodupKeys

variable [DecidableEq record] {merge : record -> record -> record}

/-- The three shapes of the patch: an eviction, nothing, a single entry. -/
theorem buildMapPatch_cases (protectedIds : List String) (key : String)
    (encoded : Option record) (m : Dict String record) :
    (encoded.isSome ∧ statusMapMaxEntries ≤ m.size ∧
      buildMapPatch protectedIds key encoded m =
        (some ((m.mapValues fun k v =>
            if k ∈ evictedKeys protectedIds m then none else some v).set key encoded),
          some (evictedKeys protectedIds m))) ∨
    (m.get? key = encoded ∧
      buildMapPatch protectedIds key encoded m = (none, none)) ∨
    buildMapPatch protectedIds key encoded m =
      (some (Dict.empty.set key encoded), none) := by
  by_cases hcap : encoded.isSome ∧ statusMapMaxEntries ≤ m.size ∧
      m.get? key ≠ encoded
  · exact Or.inl ⟨hcap.1, hcap.2.1, by simp only [buildMapPatch, if_pos hcap]⟩
  · by_cases hsame : m.get? key = encoded
    · exact Or.inr (Or.inl ⟨hsame, by
        simp only [buildMapPatch, if_neg hcap, if_pos hsame]⟩)
    · exact Or.inr (Or.inr (by
        simp only [buildMapPatch, if_neg hcap, if_neg hsame]))

/-- The patch carries the written key. -/
theorem get?_buildMapPatch_self {protectedIds : List String} {key : String}
    {encoded : Option record} {m : Dict String record}
    {patch : Dict String (Option record)}
    (hpatch : (buildMapPatch protectedIds key encoded m).1 = some patch) :
    patch.get? key = some encoded := by
  rcases buildMapPatch_cases protectedIds key encoded m with
    ⟨_, _, hbuild⟩ | ⟨_, hbuild⟩ | hbuild
  · rw [hbuild, Option.some.injEq] at hpatch
    rw [← hpatch, Dict.get?_set_self]
  · rw [hbuild] at hpatch
    exact absurd hpatch (by simp)
  · rw [hbuild, Option.some.injEq] at hpatch
    rw [← hpatch, Dict.get?_set_self]

/-- No patch is sent only for an entry that is already as encoded. -/
theorem get?_of_buildMapPatch_none {protectedIds : List String} {key : String}
    {encoded : Option record} {m : Dict String record}
    (hpatch : (buildMapPatch protectedIds key encoded m).1 = none) :
    m.get? key = encoded := by
  rcases buildMapPatch_cases protectedIds key encoded m with
    ⟨_, _, hbuild⟩ | ⟨hsame, _⟩ | hbuild
  · rw [hbuild] at hpatch
    exact absurd hpatch (by simp)
  · exact hsame
  · rw [hbuild] at hpatch
    exact absurd hpatch (by simp)

/-- Applied to any map with the same entry there, the patch keeps another key
or, at the cap, drops it. -/
theorem get?_applyMapPatch_other (hmerge : forall r, merge r r = r)
    {protectedIds : List String} {key k : String} (hne : k ≠ key)
    {encoded : Option record} {m m' : Dict String record}
    (hentry : m'.get? k = m.get? k) {patch : Dict String (Option record)}
    (hpatch : (buildMapPatch protectedIds key encoded m).1 = some patch) :
    (applyMapPatch merge patch m').get? k = m.get? k ∨
      ((applyMapPatch merge patch m').get? k = none ∧ encoded.isSome ∧
        statusMapMaxEntries <= m.size) := by
  rcases buildMapPatch_cases protectedIds key encoded m with
    ⟨hsome, hcap, hbuild⟩ | ⟨_, hbuild⟩ | hbuild
  · rw [hbuild, Option.some.injEq] at hpatch
    rw [get?_applyMapPatch, ← hpatch, Dict.get?_set_of_ne _ _ hne,
      Dict.get?_mapValues, hentry]
    cases hget : m.get? k with
    | none => exact Or.inl rfl
    | some r =>
        simp only [Option.map_some]
        split_ifs with hevicted
        · exact Or.inr ⟨rfl, hsome, hcap⟩
        · left
          rw [Option.map_some, mergeEntry, hmerge]
  · rw [hbuild] at hpatch
    exact absurd hpatch (by simp)
  · rw [hbuild, Option.some.injEq] at hpatch
    left
    rw [get?_applyMapPatch, ← hpatch, Dict.get?_set_of_ne _ _ hne,
      Dict.get?_empty, hentry]

end MapPatchLaws

/-!
## Interference

Other writers act through the answers of the environment: they may change the
status before every read and before every patch.
-/

/-- No other writer changes this part of the status. -/
def Env.Leaves {part : Type} (env : Env) (view : Status -> part) : Prop :=
  forall trace op n s,
    view ((env.server trace op).beforeRead n s) = view s ∧
      view ((env.server trace op).beforePatch n s) = view s

/-- Every part of the status that other writers leave alone is unchanged. -/
def Env.Keeps (env : Env) (s s' : Status) : Prop :=
  forall (part : Type) (view : Status -> part),
    env.Leaves view -> view s' = view s

/-- As `Env.Keeps`, for the parts a write to the given map does not touch. -/
def Env.KeepsBut {record : Type} (env : Env) (field : MapField record)
    (s s' : Status) : Prop :=
  forall (part : Type) (view : Status -> part),
    env.Leaves view -> (forall d t, view (field.write d t) = view t) ->
      view s' = view s

theorem wp_readStatus {op : StoreOp} {env : Env} {w : World}
    {Q : Status -> World -> Prop} {E : Exc -> World -> Prop}
    (hok : forall s, env.Keeps w.status s ->
      Q s (w.commit env.now op (.ok ()) s))
    (hraise : forall s e, env.Keeps w.status s ->
      E e (w.commit env.now op (.error e) s)) :
    Prog.wp (readStatus op) env w Q E := by
  have hkeeps : env.Keeps w.status
      ((env.server w.trace op).beforeRead 1 w.status) := by
    intro part view hleaves
    exact (hleaves w.trace op 1 w.status).1
  cases hread : (env.server w.trace op).read 1 with
  | none =>
      have hQ := hok _ hkeeps
      simpa only [Prog.wp, readStatus, hread] using hQ
  | some e =>
      have hE := hraise _ e hkeeps
      simpa only [Prog.wp, readStatus, hread] using hE

theorem wp_mutateStatus {patch acc : Type} {op : StoreOp}
    {apply' : patch -> Status -> Status}
    {build : acc -> Status -> Except Exc (Option patch × acc)} {init : acc}
    {env : Env} {w : World} {Q : acc -> World -> Prop}
    {E : Exc -> World -> Prop}
    (hok : forall a, (mutateOutcome op apply' build init env w).result = .ok a ->
      Q a (w.commit env.now op (.ok ())
        (mutateOutcome op apply' build init env w).final))
    (hraise : forall e,
      (mutateOutcome op apply' build init env w).result = .error e ->
      E e (w.commit env.now op (.error e)
        (mutateOutcome op apply' build init env w).final)) :
    Prog.wp (mutateStatus op apply' build init) env w Q E := by
  cases hresult : (mutateOutcome op apply' build init env w).result with
  | ok a =>
      have hQ := hok a hresult
      simpa only [Prog.wp, mutateStatus, hresult] using hQ
  | error e =>
      have hE := hraise e hresult
      simpa only [Prog.wp, mutateStatus, hresult] using hE

/-!
## Writing one map entry
-/

/-- What one call of `_set_map_entry` does to the status.  The written entry is
merged in, or left when the call raised; another entry stays unless the cap
drops it; the other maps stay. -/
structure MapWrite {record : Type} (env : Env) (field : MapField record)
    (key : String) (encoded : Option record) (r : Except Exc Unit)
    (s s' : Status) : Prop where
  self : env.Leaves (field.entry key) ->
    field.entry key s' =
        encoded.map (mergeEntry field.merge (field.entry key s)) ∨
      (r ≠ .ok () ∧ field.entry key s' = field.entry key s)
  other : forall k, k ≠ key -> env.Leaves (field.entry k) ->
    field.entry k s' = field.entry k s ∨
      (field.entry k s' = none ∧ encoded.isSome ∧
        (env.Leaves field.read -> statusMapMaxEntries <= (field.read s).size))
  frame : env.KeepsBut field s s'

theorem Env.Leaves.entry {record : Type} {env : Env} {field : MapField record}
    (h : env.Leaves field.read) (k : String) : env.Leaves (field.entry k) := by
  intro trace op n s
  unfold MapField.entry
  exact ⟨by rw [(h trace op n s).1], by rw [(h trace op n s).2]⟩

/-- An entry that is there after a write was there before or is the new one. -/
theorem MapWrite.entry_cases {record : Type} {env : Env}
    {field : MapField record} {key k : String} {encoded : Option record}
    {r : Except Exc Unit} {s s' : Status} {value : record}
    (h : MapWrite env field key encoded r s s')
    (hleaves : env.Leaves (field.entry k)) (hget : field.entry k s' = some value) :
    (k = key ∧ exists new, encoded = some new ∧
        value = mergeEntry field.merge (field.entry key s) new) ∨
      field.entry k s = some value := by
  rcases eq_or_ne k key with hk | hk
  · subst hk
    rcases h.self hleaves with hnew | ⟨_, hold⟩
    · rw [hnew, Option.map_eq_some_iff] at hget
      rcases hget with ⟨new, hencoded, hvalue⟩
      exact Or.inl ⟨rfl, new, hencoded, hvalue.symm⟩
    · rw [hold] at hget
      exact Or.inr hget
  · rcases h.other k hk hleaves with hsame | ⟨hnone, _⟩
    · rw [hsame] at hget
      exact Or.inr hget
    · rw [hnone] at hget
      exact absurd hget (by simp)

section SetMapEntryRule

variable {record : Type} [DecidableEq record]
variable {field : MapField record} {op : StoreOp} {key : String}
variable {encoded : Option record} {env : Env} {w : World}

theorem buildFieldPatch_ok {protectedIds evicted evicted' : List String}
    {s : Status} {patch? : Option (Dict String (Option record))}
    (h : buildFieldPatch field protectedIds key encoded evicted s =
      .ok (patch?, evicted')) :
    (buildMapPatch protectedIds key encoded (field.read s)).1 = patch? := by
  simp only [buildFieldPatch, Except.ok.injEq, Prod.mk.injEq] at h
  exact h.1

/-- The outcome of the retry loop behind one write. -/
def setOutcome (op : StoreOp) (field : MapField record) (key : String)
    (encoded : Option record) (env : Env) (w : World) :
    RmwOutcome Status (Dict String (Option record)) Exc (List String) :=
  mutateOutcome op (applyFieldPatch field)
    (buildFieldPatch field (w.protectedKeys field.name) key encoded) [] env w

theorem setOutcome_self (hleaves : env.Leaves (field.entry key)) :
    ReadModifyWrite.Changes (field.entry key) (field.entry key w.status)
      (fun new => new =
        encoded.map (mergeEntry field.merge (field.entry key w.status)))
      (setOutcome op field key encoded env w) := by
  apply ReadModifyWrite.run_changes (field.entry key)
    (fun old new => new = encoded.map (mergeEntry field.merge old))
  · intro n s
    exact (hleaves w.trace op n s).1
  · intro n s
    exact (hleaves w.trace op n s).2
  · intro a s patch a' hbuild t ht
    have hpatch := get?_buildMapPatch_self (buildFieldPatch_ok hbuild)
    show (field.read (field.write _ t)).get? key = _
    rw [field.read_write, get?_applyMapPatch, hpatch, ← ht]
    rfl
  · intro a s a' hbuild
    have hsame : field.entry key s = encoded :=
      get?_of_buildMapPatch_none (buildFieldPatch_ok hbuild)
    rw [hsame]
    cases encoded with
    | none => rfl
    | some r => rw [Option.map_some, mergeEntry, field.merge_self]

/-- What the whole map says when nobody else writes it. -/
theorem setOutcome_other_of_leaves (hleaves : env.Leaves field.read)
    {k : String} (hne : k ≠ key) :
    ReadModifyWrite.Changes field.read (field.read w.status)
      (fun m => m.get? k = field.entry k w.status ∨
        (m.get? k = none ∧ encoded.isSome ∧
          statusMapMaxEntries <= (field.read w.status).size))
      (setOutcome op field key encoded env w) := by
  apply ReadModifyWrite.run_changes field.read
    (fun old new => new.get? k = old.get? k ∨
      (new.get? k = none ∧ encoded.isSome ∧ statusMapMaxEntries <= old.size))
  · intro n s
    exact (hleaves w.trace op n s).1
  · intro n s
    exact (hleaves w.trace op n s).2
  · intro a s patch a' hbuild t ht
    rw [applyFieldPatch, field.read_write]
    exact get?_applyMapPatch_other field.merge_self hne (by rw [ht])
      (buildFieldPatch_ok hbuild)
  · intro a s a' _
    exact Or.inl rfl

/-- What one entry says when others write the rest of the map. -/
theorem setOutcome_other {k : String} (hne : k ≠ key)
    (hleaves : env.Leaves (field.entry k)) :
    ReadModifyWrite.Changes (field.entry k) (field.entry k w.status)
      (fun new => new = field.entry k w.status ∨ (new = none ∧ encoded.isSome))
      (setOutcome op field key encoded env w) := by
  apply ReadModifyWrite.run_changes (field.entry k)
    (fun old new => new = old ∨ (new = none ∧ encoded.isSome))
  · intro n s
    exact (hleaves w.trace op n s).1
  · intro n s
    exact (hleaves w.trace op n s).2
  · intro a s patch a' hbuild t ht
    show (field.read (field.write _ t)).get? k = _ ∨
      (field.read (field.write _ t)).get? k = none ∧ _
    rw [field.read_write]
    rcases get?_applyMapPatch_other field.merge_self hne ht
      (buildFieldPatch_ok hbuild) with hsame | ⟨hnone, hsome, _⟩
    · exact Or.inl hsame
    · exact Or.inr ⟨hnone, hsome⟩
  · intro a s a' _
    exact Or.inl rfl

theorem setOutcome_frame :
    env.KeepsBut field w.status (setOutcome op field key encoded env w).final := by
  intro part view hleaves hwrite
  apply ReadModifyWrite.run_frame view
  · intro n s
    exact (hleaves w.trace op n s).1
  · intro n s
    exact (hleaves w.trace op n s).2
  · intro p t
    exact hwrite _ t

/-- The recorded answer of a call. -/
def answerOf {alpha : Type} : Except Exc alpha -> Except Exc Unit
  | .ok _ => .ok ()
  | .error e => .error e

theorem setOutcome_mapWrite :
    MapWrite env field key encoded
      (answerOf (setOutcome op field key encoded env w).result)
      w.status (setOutcome op field key encoded env w).final := by
  constructor
  · intro hleaves
    have hself := @setOutcome_self record _ field op key encoded env w hleaves
    unfold ReadModifyWrite.Changes at hself
    cases hresult : (setOutcome op field key encoded env w).result with
    | ok a =>
        rw [hresult] at hself
        exact Or.inl hself
    | error e =>
        rw [hresult] at hself
        rcases hself with hold | hnew
        · exact Or.inr ⟨by simp [answerOf], hold⟩
        · exact Or.inl hnew
  · intro k hne hleavesEntry
    rcases Classical.em (env.Leaves field.read) with hleaves | hshared
    · have hother := @setOutcome_other_of_leaves record _ field op key encoded env w
        hleaves k hne
      unfold ReadModifyWrite.Changes at hother
      cases hresult : (setOutcome op field key encoded env w).result with
      | ok a =>
          rw [hresult] at hother
          rcases hother with hsame | ⟨hnone, hsome, hcap⟩
          · exact Or.inl hsame
          · exact Or.inr ⟨hnone, hsome, fun _ => hcap⟩
      | error e =>
          rw [hresult] at hother
          rcases hother with hold | hsame | ⟨hnone, hsome, hcap⟩
          · left
            unfold MapField.entry
            rw [hold]
          · exact Or.inl hsame
          · exact Or.inr ⟨hnone, hsome, fun _ => hcap⟩
    · have hother := @setOutcome_other record _ field op key encoded env w k hne
        hleavesEntry
      unfold ReadModifyWrite.Changes at hother
      have hcap : env.Leaves field.read ->
          statusMapMaxEntries <= (field.read w.status).size :=
        fun hleaves => absurd hleaves hshared
      cases hresult : (setOutcome op field key encoded env w).result with
      | ok a =>
          rw [hresult] at hother
          rcases hother with hsame | ⟨hnone, hsome⟩
          · exact Or.inl hsame
          · exact Or.inr ⟨hnone, hsome, hcap⟩
      | error e =>
          rw [hresult] at hother
          rcases hother with hold | hsame | ⟨hnone, hsome⟩
          · exact Or.inl hold
          · exact Or.inl hsame
          · exact Or.inr ⟨hnone, hsome, hcap⟩
  · exact setOutcome_frame

/-- One map write, for any account of what it does to the status. -/
theorem wp_setMapEntry_of {Wrote : Except Exc Unit -> Status -> Status -> Prop}
    {Q E : World -> Prop}
    (hwrote : Wrote (answerOf (setOutcome op field key encoded env w).result)
      w.status (setOutcome op field key encoded env w).final)
    (hok : forall s, Wrote (.ok ()) w.status s -> Q (w.commit env.now op (.ok ()) s))
    (hraise : forall s e, Wrote (.error e) w.status s ->
      E (w.commit env.now op (.error e) s))
    (hcapped : forall w' message, Q w' ->
      Q (w'.log env.now (.statusMapCapped field.name message (.ok ()))))
    (hunreported : forall w' message e, Q w' ->
      E (w'.log env.now (.statusMapCapped field.name message (.error e)))) :
    Prog.wp (setMapEntry op field key encoded) env w
      (fun _ w' => Q w') (fun _ w' => E w') := by
  unfold setMapEntry
  rw [Prog.wp_bind]
  show Prog.wp (mutateStatus op (applyFieldPatch field)
      (buildFieldPatch field (w.protectedKeys field.name) key encoded) [] >>= _)
    env w _ _
  rw [Prog.wp_bind]
  apply wp_mutateStatus
  · intro evicted hresult
    have hresult' : (setOutcome op field key encoded env w).result = .ok evicted :=
      hresult
    rw [hresult'] at hwrote
    have hQ := hok _ hwrote
    apply Prog.wp_ite
    · intro _
      exact hQ
    · intro _
      unfold reportEviction
      apply wp_call
      · intro _ _
        exact hcapped _ _ hQ
      · intro e _
        exact hunreported _ _ e hQ
  · intro e hresult
    have hresult' : (setOutcome op field key encoded env w).result = .error e :=
      hresult
    rw [hresult'] at hwrote
    exact hraise _ e hwrote

theorem wp_setMapEntry {Q E : World -> Prop}
    (hok : forall s, MapWrite env field key encoded (.ok ()) w.status s ->
      Q (w.commit env.now op (.ok ()) s))
    (hraise : forall s e, MapWrite env field key encoded (.error e) w.status s ->
      E (w.commit env.now op (.error e) s))
    (hcapped : forall w' message, Q w' ->
      Q (w'.log env.now (.statusMapCapped field.name message (.ok ()))))
    (hunreported : forall w' message e, Q w' ->
      E (w'.log env.now (.statusMapCapped field.name message (.error e)))) :
    Prog.wp (setMapEntry op field key encoded) env w
      (fun _ w' => Q w') (fun _ w' => E w') :=
  wp_setMapEntry_of setOutcome_mapWrite hok hraise hcapped hunreported

end SetMapEntryRule

/-!
## Stamping the escalation marker
-/

def SoftStopRecord.stamp (record : SoftStopRecord) (at' : Instant)
    (outcome : EscalationOutcome) : SoftStopRecord :=
  { record with
    escalatedAt := some at'
    escalationOutcome := some outcome }

/-- What one call of `mark_soft_stop_escalated` does to the status: the anchor
is stamped, or left when the call raised; nothing else changes. -/
structure MarkWrite (env : Env) (id : String) (at' : Instant)
    (outcome : EscalationOutcome) (r : Except Exc Unit) (s s' : Status) :
    Prop where
  self : env.Leaves (softStopsField.entry id) ->
    (exists record, softStopsField.entry id s = some record ∧
        softStopsField.entry id s' = some (record.stamp at' outcome)) ∨
      (r ≠ .ok () ∧ softStopsField.entry id s' = softStopsField.entry id s)
  other : forall k, k ≠ id -> env.Leaves (softStopsField.entry k) ->
    softStopsField.entry k s' = softStopsField.entry k s
  frame : env.KeepsBut softStopsField s s'

section MarkRule

variable {id : String} {at' : Instant} {outcome : EscalationOutcome}
variable {env : Env} {w : World}

/-- The outcome of the retry loop behind one marker. -/
def markOutcome (id : String) (at' : Instant) (outcome : EscalationOutcome)
    (env : Env) (w : World) : RmwOutcome Status SoftStopRecord Exc Unit :=
  mutateOutcome (.markSoftStopEscalated id at' outcome)
    (fun record => applyFieldPatch softStopsField (Dict.empty.set id (some record)))
    (fun _ => buildEscalationMark id at' outcome) () env w

theorem buildEscalationMark_some {s : Status} {patch : SoftStopRecord} {a : Unit}
    (h : buildEscalationMark id at' outcome s = .ok (some patch, a)) :
    exists record, s.softStops.get? id = some record ∧
      patch = record.stamp at' outcome := by
  unfold buildEscalationMark at h
  cases hget : s.softStops.get? id with
  | none => simp [hget] at h
  | some record =>
      simp only [hget] at h
      split_ifs at h
      · simp at h
      · simp only [Except.ok.injEq, Prod.mk.injEq, Option.some.injEq, and_true] at h
        exact ⟨record, rfl, h.symm⟩

theorem buildEscalationMark_none {s : Status} {a : Unit}
    (h : buildEscalationMark id at' outcome s = .ok (none, a)) :
    exists record, s.softStops.get? id = some record ∧
      record.stamp at' outcome = record := by
  unfold buildEscalationMark at h
  cases hget : s.softStops.get? id with
  | none => simp [hget] at h
  | some record =>
      simp only [hget] at h
      split_ifs at h with hsame
      · exact ⟨record, rfl, hsame⟩
      · simp at h

theorem markOutcome_self (hleaves : env.Leaves (softStopsField.entry id)) :
    ReadModifyWrite.Changes (softStopsField.entry id)
      (softStopsField.entry id w.status)
      (fun new => exists record, softStopsField.entry id w.status = some record ∧
        new = some (record.stamp at' outcome))
      (markOutcome id at' outcome env w) := by
  apply ReadModifyWrite.run_changes (softStopsField.entry id)
    (fun old new => exists record, old = some record ∧
      new = some (record.stamp at' outcome))
  · intro n s
    exact (hleaves w.trace _ n s).1
  · intro n s
    exact (hleaves w.trace _ n s).2
  · intro _ s patch _ hbuild t ht
    rcases buildEscalationMark_some hbuild with ⟨record, hget, hpatch⟩
    have hget' : t.softStops.get? id = some record := ht.trans hget
    refine ⟨record, hget, ?_⟩
    show (applyMapPatch SoftStopRecord.merge (Dict.empty.set id (some patch))
      t.softStops).get? id = _
    rw [get?_applyMapPatch, Dict.get?_set_self, hget', hpatch]
    rfl
  · intro _ s _ hbuild
    rcases buildEscalationMark_none hbuild with ⟨record, hget, hsame⟩
    refine ⟨record, hget, ?_⟩
    rw [hsame]
    exact hget

theorem markOutcome_other {k : String} (hne : k ≠ id)
    (hleaves : env.Leaves (softStopsField.entry k)) :
    softStopsField.entry k (markOutcome id at' outcome env w).final =
      softStopsField.entry k w.status := by
  apply ReadModifyWrite.run_frame (softStopsField.entry k)
  · intro n s
    exact (hleaves w.trace _ n s).1
  · intro n s
    exact (hleaves w.trace _ n s).2
  · intro record t
    show (applyMapPatch SoftStopRecord.merge (Dict.empty.set id (some record))
      t.softStops).get? k = _
    rw [get?_applyMapPatch, Dict.get?_set_of_ne _ _ hne, Dict.get?_empty]
    rfl

theorem markOutcome_frame :
    env.KeepsBut softStopsField w.status (markOutcome id at' outcome env w).final := by
  intro part view hleaves hwrite
  apply ReadModifyWrite.run_frame view
  · intro n s
    exact (hleaves w.trace _ n s).1
  · intro n s
    exact (hleaves w.trace _ n s).2
  · intro p t
    exact hwrite _ t

theorem wp_markSoftStopEscalated {Q E : World -> Prop}
    (hok : forall s, MarkWrite env id at' outcome (.ok ()) w.status s ->
      Q (w.commit env.now (.markSoftStopEscalated id at' outcome) (.ok ()) s))
    (hraise : forall s e, MarkWrite env id at' outcome (.error e) w.status s ->
      E (w.commit env.now (.markSoftStopEscalated id at' outcome) (.error e) s)) :
    Prog.wp (markSoftStopEscalated id at' outcome) env w
      (fun _ w' => Q w') (fun _ w' => E w') := by
  have hself := @markOutcome_self id at' outcome env w
  unfold ReadModifyWrite.Changes at hself
  unfold markSoftStopEscalated
  apply wp_mutateStatus
  · intro a hresult
    have hresult' : (markOutcome id at' outcome env w).result = .ok a := hresult
    rw [hresult'] at hself
    apply hok
    constructor
    · intro hleaves
      exact Or.inl (hself hleaves)
    · intro k hne hleaves
      exact markOutcome_other hne hleaves
    · exact markOutcome_frame
  · intro e hresult
    have hresult' : (markOutcome id at' outcome env w).result = .error e := hresult
    rw [hresult'] at hself
    apply hraise
    constructor
    · intro hleaves
      rcases hself hleaves with hold | hnew
      · exact Or.inr ⟨by simp, hold⟩
      · exact Or.inl hnew
    · intro k hne hleaves
      exact markOutcome_other hne hleaves
    · exact markOutcome_frame

end MarkRule

/-!
## Writing one scalar
-/

/-- What one call of `_set_scalar` does to the status.  A returned write is
there whatever the others did. -/
structure ScalarWrite {value : Type} (env : Env) (field : ScalarField value)
    (encoded : Option value) (r : Except Exc Unit) (s s' : Status) : Prop where
  returned : r = .ok () -> field.read s' = encoded
  self : env.Leaves field.read ->
    field.read s' = encoded ∨ field.read s' = field.read s
  frame : forall (part : Type) (view : Status -> part), env.Leaves view ->
    (forall v t, view (field.write v t) = view t) -> view s' = view s

section SetScalarRule

variable {value : Type} [DecidableEq value]
variable {field : ScalarField value} {op : StoreOp} {encoded : Option value}
variable {env : Env} {w : World}

theorem buildScalarPatch_cases {s : Status} {patch : Option (Option value)} {u : Unit}
    (h : buildScalarPatch field encoded s = .ok (patch, u)) :
    patch = some encoded ∨ (patch = none ∧ field.read s = encoded) := by
  unfold buildScalarPatch at h
  split_ifs at h with hsame
  · cases h
    exact Or.inr ⟨rfl, hsame⟩
  · cases h
    exact Or.inl rfl

/-- The outcome of the retry loop behind one scalar write. -/
def scalarOutcome (op : StoreOp) (field : ScalarField value) (encoded : Option value)
    (env : Env) (w : World) : RmwOutcome Status (Option value) Exc Unit :=
  mutateOutcome op field.write (fun _ => buildScalarPatch field encoded) () env w

theorem scalarOutcome_scalarWrite :
    ScalarWrite env field encoded (answerOf (scalarOutcome op field encoded env w).result)
      w.status (scalarOutcome op field encoded env w).final := by
  constructor
  · intro hanswer
    cases hresult : (scalarOutcome op field encoded env w).result with
    | error e =>
        rw [hresult] at hanswer
        cases hanswer
    | ok u =>
        apply ReadModifyWrite.run_returned (fun s => field.read s = encoded) ?_ ?_
          _ _ _ u _ hresult
        · intro a s patch a' hbuild t
          rcases buildScalarPatch_cases hbuild with hpatch | ⟨hpatch, _⟩
          · rw [Option.some.inj hpatch, field.read_write]
          · cases hpatch
        · intro a s a' hbuild
          rcases buildScalarPatch_cases hbuild with hpatch | ⟨_, hsame⟩
          · cases hpatch
          · exact hsame
  · intro hleaves
    apply ReadModifyWrite.run_invariant (fun s =>
      field.read s = encoded ∨ field.read s = field.read w.status)
    · intro n s hs
      rw [(hleaves w.trace op n s).1]
      exact hs
    · intro n s hs
      rw [(hleaves w.trace op n s).2]
      exact hs
    · intro a s patch a' hbuild _ t _
      rcases buildScalarPatch_cases hbuild with hpatch | ⟨hpatch, _⟩
      · rw [Option.some.inj hpatch, field.read_write]
        exact Or.inl rfl
      · cases hpatch
    · exact Or.inr rfl
  · intro part view hleaves hwrite
    apply ReadModifyWrite.run_frame view
    · intro n s
      exact (hleaves w.trace op n s).1
    · intro n s
      exact (hleaves w.trace op n s).2
    · intro v t
      exact hwrite v t

theorem wp_setScalar {Q : Unit -> World -> Prop} {E : Exc -> World -> Prop}
    (hok : forall s, ScalarWrite env field encoded (.ok ()) w.status s ->
      Q () (w.commit env.now op (.ok ()) s))
    (hraise : forall e s, ScalarWrite env field encoded (.error e) w.status s ->
      E e (w.commit env.now op (.error e) s)) :
    Prog.wp (setScalar op field encoded) env w Q E := by
  have hwrite := @scalarOutcome_scalarWrite value _ field op encoded env w
  apply wp_mutateStatus
  · intro u hresult
    apply hok
    unfold scalarOutcome at hwrite
    rw [hresult] at hwrite
    exact hwrite
  · intro e hresult
    apply hraise
    unfold scalarOutcome at hwrite
    rw [hresult] at hwrite
    exact hwrite

end SetScalarRule

end OpenStudioOperator
