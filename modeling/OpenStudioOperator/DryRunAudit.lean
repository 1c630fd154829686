import OpenStudioOperator.Foundation.Dict
import OpenStudioOperator.Foundation.History
import OpenStudioOperator.Foundation.PyText

/-!
# The audit of the dry-run field

Every watch event of a cluster-manager resource is compared with the last value
of `spec.dryRun` that the process has seen of it.  A change is told by a
`DryRunToggled` event.
-/

namespace OpenStudioOperator
namespace DryRunAudit

open Foundation

/-- Namespace and name. -/
abbrev CrKey := String × String

/-- `DRY_RUN_TOGGLED_EVENT`. -/
def dryRunToggledEvent : String := "DryRunToggled"

/-- An event given to `emit`. -/
structure AuditEvent where
  crNamespace : String
  name : String
  type : String
  reason : String
  message : String
deriving DecidableEq, Repr

/-- `_last_dry_run` and the gauge `DRY_RUN_ACTIVE`. -/
structure AuditState where
  lastDryRun : Dict CrKey Bool := .empty
  dryRunActive : Dict CrKey Bool := .empty

/-- What a call did: it raised the exception of `emit`, or emitted an event, or
neither. -/
structure Recorded where
  raised : Bool := false
  emitted : Option AuditEvent := none
deriving DecidableEq, Repr

/-- A watch event: its type, the resource, its body, and whether `emit` raises. -/
structure WatchEvent where
  type : Option String
  crNamespace : String
  name : String
  body : Json
  emitRaises : Bool

section Audit

variable (unicode : UnicodeData)

/-- `str(value or "")`. -/
def textOf : Option Json -> String
  | none => ""
  | some value => if value.truthy then value.pyStr unicode else ""

/-- `_dry_run_of`. -/
def dryRunOf : Json -> Bool
  | .obj members =>
      match members.lookup "spec" with
      | some (.obj spec) => ((spec.lookup "dryRun").map Json.truthy).getD false
      | _ => false
  | _ => false

/-- The members of a mapping. -/
def mapping? : Json -> Option (List (String × Json))
  | .obj members => some members
  | _ => none

/-- `_acting_manager`; of two entries of one time the first counts. -/
def actingManager : Json -> Option String
  | .obj members =>
      match members.lookup "metadata" with
      | some (.obj metadata) =>
          match metadata.lookup "managedFields" with
          | some (.arr managed) =>
              match managed.filterMap mapping? with
              | [] => none
              | first :: rest =>
                  let time := fun m : List (String × Json) => textOf unicode (m.lookup "time")
                  let latest := rest.foldl
                    (fun best m => if time best < time m then m else best) first
                  let manager := textOf unicode (latest.lookup "manager")
                  if manager.isEmpty then none else some manager
          | _ => none
      | _ => none
  | _ => none

/-- Namespace and name of a body that has both. -/
def keyOf : Json -> Option CrKey
  | .obj members =>
      match members.lookup "metadata" with
      | some (.obj metadata) =>
          let crNamespace := textOf unicode (metadata.lookup "namespace")
          let name := textOf unicode (metadata.lookup "name")
          if crNamespace.isEmpty || name.isEmpty then none else some (crNamespace, name)
      | _ => none
  | _ => none

def label (dryRun : Bool) : String := if dryRun then "true" else "false"

/-- The part of the message that names the move. -/
def moveText (key : CrKey) (previous current : Bool) : String :=
  "spec.dryRun toggled: " ++ label previous ++ " → " ++ label current
    ++ " on OpenStudioClusterManager " ++ key.1 ++ "/" ++ key.2 ++ " (issue #397 audit). "

def effect (current : Bool) : String :=
  if current then "Operator mutations are now SUPPRESSED (dry-run mode, D11)."
  else "Operator mutations are now LIVE (D11 enforcement resumed)."

def attribution (manager : Option String) : String :=
  match manager with
  | some manager =>
      " Last writer per metadata.managedFields: " ++ reprStr unicode manager
        ++ "; the acting principal is recorded in the kube-apiserver audit log."
  | none =>
      " metadata carries no managedFields hint; the acting principal "
        ++ "is recorded in the kube-apiserver audit log."

def toggledEvent (body : Json) (key : CrKey) (previous current : Bool) : AuditEvent where
  crNamespace := key.1
  name := key.2
  type := "Normal"
  reason := dryRunToggledEvent
  message := moveText key previous current ++ effect current
    ++ attribution unicode (actingManager unicode body)

/-- `record_dry_run_transition`; it returns whether an event was emitted. -/
def recordDryRunTransition (body : Json) (emitRaises : Bool) (state : AuditState) :
    Recorded × AuditState :=
  match keyOf unicode body with
  | none => ({}, state)
  | some key =>
      let current := dryRunOf body
      -- the new value is stored before the event is emitted
      let stored := { state with lastDryRun := state.lastDryRun.set key current }
      match state.lastDryRun.get? key with
      | none => ({}, stored)
      | some previous =>
          if previous = current then ({}, stored)
          else if emitRaises then ({ raised := true }, stored)
          else
            ({ emitted := some (toggledEvent unicode body key previous current) },
              { stored with dryRunActive := stored.dryRunActive.set key current })

/-- `dry_run_toggle_audit`. -/
def dryRunToggleAudit (e : WatchEvent) (state : AuditState) : Recorded × AuditState :=
  if e.type = some "DELETED" then
    ({}, { state with lastDryRun := state.lastDryRun.erase (e.crNamespace, e.name) })
  else recordDryRunTransition unicode e.body e.emitRaises state

/-- The process after a history of watch events, the newest first. -/
def stateAfter : List WatchEvent -> AuditState
  | [] => {}
  | e :: older => (dryRunToggleAudit unicode e (stateAfter older)).2

/-- The event that a watch event makes the process emit. -/
def emitted (e : WatchEvent) (older : List WatchEvent) : Option AuditEvent :=
  (dryRunToggleAudit unicode e (stateAfter unicode older)).1.emitted

/-!
## At least once
-/

/-- The event is an observation of the resource that shows `v`. -/
def WatchEvent.Shows (e : WatchEvent) (key : CrKey) (v : Bool) : Prop :=
  e.type ≠ some "DELETED" ∧ keyOf unicode e.body = some key ∧ dryRunOf e.body = v

instance (e : WatchEvent) (key : CrKey) (v : Bool) : Decidable (e.Shows unicode key v) :=
  inferInstanceAs (Decidable (_ ∧ _ ∧ _))

/-- The value of the last observation of the resource. -/
def lastShown (key : CrKey) : List WatchEvent -> Option Bool
  | [] => none
  | e :: older =>
      if e.Shows unicode key true then some true
      else if e.Shows unicode key false then some false
      else lastShown key older

/-- An event reports the move of the resource to `v`. -/
structure AuditEvent.Reports (e : AuditEvent) (key : CrKey) (v : Bool) : Prop where
  named : (e.crNamespace, e.name) = key
  reason : e.reason = dryRunToggledEvent
  message : exists rest, e.message = moveText key (!v) v ++ rest

/-- The move to `v` is reported at this observation. -/
def Told (key : CrKey) (v : Bool) (e : WatchEvent) (older : List WatchEvent) : Prop :=
  exists event, emitted unicode e older = some event ∧ event.Reports key v

/-- The value most recently reported, or else the first one that was observed. -/
def lastKnown (key : CrKey) : List WatchEvent -> Option Bool
  | [] => none
  | e :: older =>
      let known := fun v =>
        if (emitted unicode e older).isSome || (lastKnown key older).isNone then some v
        else lastKnown key older
      if e.Shows unicode key true then known true
      else if e.Shows unicode key false then known false
      else lastKnown key older

/-- A change between two successive observations of the resource is reported, at the
second one or, if the emit failed there, at the next one that still shows the value
and whose emit does not fail; and no event tells the value that is known. -/
structure AtLeastOnce (key : CrKey) (history : List WatchEvent) : Prop where
  reported : forall newer e older v, history = newer ++ e :: older -> e.Shows unicode key v ->
    lastShown unicode key older = some (!v) ->
    Told unicode key v e older ∨
      (e.emitRaises = true ∧ forall later next between,
        newer = later ++ next :: between -> next.Shows unicode key v ->
        next.emitRaises = false ->
        (forall b, b ∈ between -> forall w, b.Shows unicode key w ->
          w = v ∧ b.emitRaises = true) ->
        Told unicode key v next (between ++ e :: older))
  silent : forall newer e older v, history = newer ++ e :: older -> e.Shows unicode key v ->
    lastKnown unicode key older = some v -> emitted unicode e older = none

/-- The event deletes the resource. -/
def WatchEvent.deletes (e : WatchEvent) (key : CrKey) : Prop :=
  e.type = some "DELETED" ∧ (e.crNamespace, e.name) = key

/-- The emit of a change of the resource does not fail. -/
def Emits (key : CrKey) (e : WatchEvent) (older : List WatchEvent) : Prop :=
  forall v, e.Shows unicode key v -> lastShown unicode key older = some (!v) ->
    e.emitRaises = false

/-!
## One observation
-/

section Observation

variable {unicode} {key : CrKey} {v w : Bool} {e : WatchEvent} {older : List WatchEvent}
variable {state : AuditState}

theorem WatchEvent.Shows.unique (h : e.Shows unicode key v) (h' : e.Shows unicode key w) :
    v = w :=
  h.2.2.symm.trans h'.2.2

theorem audit_of_shows (h : e.Shows unicode key v) :
    dryRunToggleAudit unicode e state =
      recordDryRunTransition unicode e.body e.emitRaises state := by
  unfold dryRunToggleAudit
  rw [if_neg h.1]

theorem lastDryRun_of_shows (h : e.Shows unicode key v) :
    (dryRunToggleAudit unicode e state).2.lastDryRun = state.lastDryRun.set key v := by
  rw [audit_of_shows h]
  simp only [recordDryRunTransition, h.2.1, h.2.2]
  cases state.lastDryRun.get? key with
  | none => rfl
  | some previous =>
      dsimp only
      split
      · rfl
      · split
        · rfl
        · rfl

/-- Other events leave the entry of the resource. -/
theorem get?_of_not_shows (h : forall v, ¬ e.Shows unicode key v) (hdeletes : ¬ e.deletes key) :
    (dryRunToggleAudit unicode e state).2.lastDryRun.get? key = state.lastDryRun.get? key := by
  by_cases htype : e.type = some "DELETED"
  · unfold dryRunToggleAudit
    rw [if_pos htype]
    exact Dict.get?_erase_of_ne _ fun heq => hdeletes ⟨htype, heq.symm⟩
  · cases hkey : keyOf unicode e.body with
    | none =>
        simp only [dryRunToggleAudit, if_neg htype, recordDryRunTransition, hkey]
    | some key' =>
        have hne : key ≠ key' := by
          intro heq
          rw [← heq] at hkey
          exact h _ ⟨htype, hkey, rfl⟩
        have hshows : e.Shows unicode key' (dryRunOf e.body) := ⟨htype, hkey, rfl⟩
        rw [lastDryRun_of_shows hshows]
        exact Dict.get?_set_of_ne _ _ hne

/-- Only a change is emitted, and only if the emit does not fail. -/
theorem emitted_of_shows (h : e.Shows unicode key v) :
    emitted unicode e older =
      if (stateAfter unicode older).lastDryRun.get? key = some (!v) ∧ e.emitRaises = false then
        some (toggledEvent unicode e.body key (!v) v)
      else none := by
  unfold emitted
  rw [audit_of_shows h]
  simp only [recordDryRunTransition, h.2.1, h.2.2]
  cases hget : (stateAfter unicode older).lastDryRun.get? key with
  | none => rfl
  | some previous =>
      cases hraises : e.emitRaises with
      | true =>
          cases previous <;> cases v <;> rfl
      | false =>
          cases previous <;> cases v <;> rfl

theorem lastShown_cons_of_shows (h : e.Shows unicode key v) :
    lastShown unicode key (e :: older) = some v := by
  unfold lastShown
  cases v with
  | true => rw [if_pos h]
  | false =>
      have hnot : ¬ e.Shows unicode key true := fun htrue => Bool.false_ne_true (h.unique htrue)
      rw [if_neg hnot, if_pos h]

theorem lastShown_cons_of_not_shows (h : forall v, ¬ e.Shows unicode key v) :
    lastShown unicode key (e :: older) = lastShown unicode key older := by
  rw [lastShown, if_neg (h true), if_neg (h false)]

theorem lastKnown_cons_of_shows (h : e.Shows unicode key v) :
    lastKnown unicode key (e :: older) =
      if (emitted unicode e older).isSome || (lastKnown unicode key older).isNone then some v
      else lastKnown unicode key older := by
  simp only [lastKnown]
  cases v with
  | true => rw [if_pos h]
  | false =>
      have hnot : ¬ e.Shows unicode key true := fun htrue => Bool.false_ne_true (h.unique htrue)
      rw [if_neg hnot, if_pos h]

theorem lastKnown_cons_of_not_shows (h : forall v, ¬ e.Shows unicode key v) :
    lastKnown unicode key (e :: older) = lastKnown unicode key older := by
  simp only [lastKnown]
  rw [if_neg (h true), if_neg (h false)]

end Observation

/-!
## Runs
-/

section Runs

variable {unicode} {key : CrKey} {history : List WatchEvent}

/-- The table has the last value seen, whether it was reported or not. -/
theorem get?_stateAfter (hdeletes : forall e, e ∈ history -> ¬ e.deletes key) :
    (stateAfter unicode history).lastDryRun.get? key = lastShown unicode key history := by
  induction history with
  | nil => rfl
  | cons e older ih =>
      have holder := ih fun e' he' => hdeletes e' (List.mem_cons_of_mem _ he')
      by_cases hshows : exists v, e.Shows unicode key v
      · rcases hshows with ⟨v, hv⟩
        rw [stateAfter, lastDryRun_of_shows hv, lastShown_cons_of_shows hv, Dict.get?_set_self]
      · have hnone : forall v, ¬ e.Shows unicode key v := fun v hv => hshows ⟨v, hv⟩
        rw [stateAfter, get?_of_not_shows hnone (hdeletes e List.mem_cons_self), holder,
          lastShown_cons_of_not_shows hnone]

/-- While no emit fails, the value that is known is the last one shown. -/
theorem lastKnown_eq_lastShown (hdeletes : forall e, e ∈ history -> ¬ e.deletes key)
    (hemits : Throughout (Emits unicode key) history) :
    lastKnown unicode key history = lastShown unicode key history := by
  induction history with
  | nil => rfl
  | cons e older ih =>
      have holder := fun e' he' => hdeletes e' (List.mem_cons_of_mem e he')
      have hknown := ih holder hemits.tail
      by_cases hshows : exists v, e.Shows unicode key v
      · rcases hshows with ⟨v, hv⟩
        rw [lastKnown_cons_of_shows hv, lastShown_cons_of_shows hv, emitted_of_shows hv,
          get?_stateAfter holder, hknown]
        cases hlast : lastShown unicode key older with
        | none => simp
        | some previous =>
            by_cases hsame : previous = v
            · subst hsame
              simp
            · have hmove : previous = !v := by
                cases previous <;> cases v <;> simp_all
              subst hmove
              have hemit : some (!v) = some (!v) ∧ e.emitRaises = false :=
                ⟨rfl, hemits.head v hv hlast⟩
              rw [if_pos hemit]
              rfl
      · have hnone : forall v, ¬ e.Shows unicode key v := fun v hv => hshows ⟨v, hv⟩
        rw [lastKnown_cons_of_not_shows hnone, lastShown_cons_of_not_shows hnone, hknown]

theorem toggledEvent_reports (body : Json) (v : Bool) :
    (toggledEvent unicode body key (!v) v).Reports key v where
  named := rfl
  reason := rfl
  message := ⟨effect v ++ attribution unicode (actingManager unicode body), by
    rw [toggledEvent, String.append_assoc]⟩

theorem atLeastOnce_of_emits (hdeletes : forall e, e ∈ history -> ¬ e.deletes key)
    (hemits : Throughout (Emits unicode key) history) : AtLeastOnce unicode key history where
  reported newer e older v hsplit hshows hlast := by
    rw [hsplit] at hdeletes hemits
    have holder : forall e', e' ∈ older -> ¬ e'.deletes key := fun e' he' =>
      hdeletes e' (List.mem_append_right _ (List.mem_cons_of_mem _ he'))
    left
    refine ⟨toggledEvent unicode e.body key (!v) v, ?_, toggledEvent_reports e.body v⟩
    rw [emitted_of_shows hshows, get?_stateAfter holder,
      if_pos ⟨hlast, hemits.of_split newer v hshows hlast⟩]
  silent newer e older v hsplit hshows hknown := by
    rw [hsplit] at hdeletes hemits
    have holder : forall e', e' ∈ older -> ¬ e'.deletes key := fun e' he' =>
      hdeletes e' (List.mem_append_right _ (List.mem_cons_of_mem _ he'))
    rw [lastKnown_eq_lastShown holder (hemits.of_append newer).tail] at hknown
    have hsame : ¬ (some v = some (!v) ∧ e.emitRaises = false) := by
      rintro ⟨heq, _⟩
      cases v <;> cases heq
    rw [emitted_of_shows hshows, get?_stateAfter holder, hknown, if_neg hsame]

/-- After an emit that failed the next observation with the same value is silent. -/
theorem not_atLeastOnce_of_raised {e : WatchEvent} {older : List WatchEvent} {v : Bool}
    (hdeletes : forall e', e' ∈ e :: older -> ¬ e'.deletes key) (hshows : e.Shows unicode key v)
    (hlast : lastShown unicode key older = some (!v)) (hraises : e.emitRaises = true) :
    ¬ AtLeastOnce unicode key ({ e with emitRaises := false } :: e :: older) := by
  intro hlaw
  have hagain : WatchEvent.Shows unicode { e with emitRaises := false } key v := hshows
  have htold : forall e' older' event, e'.Shows unicode key v ->
      emitted unicode e' older' = some event ->
      (stateAfter unicode older').lastDryRun.get? key = some (!v) ∧ e'.emitRaises = false := by
    intro e' older' event hshows' hevent
    rw [emitted_of_shows hshows'] at hevent
    by_contra hnot
    rw [if_neg hnot] at hevent
    cases hevent
  rcases hlaw.reported [{ e with emitRaises := false }] e older v rfl hshows hlast with
    ⟨event, hevent, _⟩ | ⟨_, hnext⟩
  · rw [(htold e older event hshows hevent).2] at hraises
    cases hraises
  · rcases hnext [] { e with emitRaises := false } [] rfl hagain rfl
      (fun b hb => absurd hb List.not_mem_nil) with ⟨event, hevent, _⟩
    have hget := (htold _ _ event hagain hevent).1
    rw [List.nil_append, get?_stateAfter hdeletes, lastShown_cons_of_shows hshows] at hget
    cases v <;> cases hget

/-- A run whose emits do not fail reports every change at least once; in every other
run there is a point from which one more observation breaks this. -/
theorem dry_run_toggled_at_least_once (unicode : UnicodeData) (key : CrKey)
    (history : List WatchEvent) (hdeletes : forall e, e ∈ history -> ¬ e.deletes key) :
    (Throughout (Emits unicode key) history -> AtLeastOnce unicode key history) ∧
    (¬ Throughout (Emits unicode key) history -> exists newer older e,
      history = newer ++ older ∧ ¬ AtLeastOnce unicode key (e :: older)) := by
  refine ⟨atLeastOnce_of_emits hdeletes, fun hfails => ?_⟩
  by_contra hnone
  refine hfails (Throughout.of_forall_split fun newer e older hsplit v hshows hlast => ?_)
  by_contra hraises
  have hall : forall e', e' ∈ e :: older -> ¬ e'.deletes key := fun e' he' => by
    rw [hsplit] at hdeletes
    exact hdeletes e' (List.mem_append_right _ he')
  exact hnone ⟨newer, e :: older, _, hsplit,
    not_atLeastOnce_of_raised hall hshows hlast (Bool.eq_true_of_not_eq_false hraises)⟩

end Runs

end Audit

/-- A watch event of the resource `os/main`. -/
def observed (dryRun emitRaises : Bool) : WatchEvent where
  type := some "MODIFIED"
  crNamespace := "os"
  name := "main"
  body := .obj [("metadata", .obj [("namespace", .str "os"), ("name", .str "main")]),
    ("spec", .obj [("dryRun", .bool dryRun)])]
  emitRaises := emitRaises

theorem dry_run_toggled_at_least_once_twice :
    AtLeastOnce UnicodeData.ascii ("os", "main")
      [observed false false, observed true false, observed false false] := by
  refine (dry_run_toggled_at_least_once UnicodeData.ascii ("os", "main")
    [observed false false, observed true false, observed false false]
    fun e he hdeletes => ?_).1
    (.cons (fun _ _ _ => rfl) (.cons (fun _ _ _ => rfl) (.cons (fun _ _ _ => rfl) .nil)))
  have hnone : forall e, e ∈ [observed false false, observed true false, observed false false] ->
      e.type = some "MODIFIED" := by
    simp [observed]
  have htype := hdeletes.1
  rw [hnone e he] at htype
  exact absurd htype (by decide)

/-- The emit of the move to `true` fails; the next observation does not report it. -/
theorem dry_run_toggled_at_least_once_counterexample :
    ¬ AtLeastOnce UnicodeData.ascii ("os", "main")
      [observed true false, observed true true, observed false false] := by
  intro hlaw
  rcases hlaw.reported [observed true false] (observed true true) [observed false false] true
    rfl (by decide +kernel) (by decide +kernel) with ⟨event, hevent, _⟩ | ⟨_, hnext⟩
  · have hnone : emitted UnicodeData.ascii (observed true true) [observed false false] = none := by
      decide +kernel
    rw [hnone] at hevent
    cases hevent
  · rcases hnext [] (observed true false) [] rfl (by decide +kernel) rfl
      (fun b hb => absurd hb List.not_mem_nil) with ⟨event, hevent, _⟩
    have hnone : emitted UnicodeData.ascii (observed true false)
        ([] ++ observed true true :: [observed false false]) = none := by decide +kernel
    rw [hnone] at hevent
    cases hevent

end DryRunAudit
end OpenStudioOperator
