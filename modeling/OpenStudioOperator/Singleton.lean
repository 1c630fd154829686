import OpenStudioOperator.Foundation.Raising
import OpenStudioOperator.Foundation.SortOn
import OpenStudioOperator.Effects
import OpenStudioOperator.StatusDocument
import Mathlib.Data.Finset.Basic
import Mathlib.Data.Prod.Lex
import Mathlib.Data.String.Basic

/-!
# The singleton guard

At most one cluster-manager resource of a namespace is served: the oldest.
Every timer and the storage pruner elect it afresh from their own listing.  The
guard also announces a change of the election with Events.
-/

namespace OpenStudioOperator
namespace SingletonGuard

open Foundation

/-!
## Resources
-/

structure Metadata where
  crNamespace : Option String := none
  name : Option String := none
  uid : Option String := none
  creationTimestamp : Option String := none
  deletionTimestamp : Option String := none
  labels : Option (List (String × String)) := none
  annotations : Option (List (String × String)) := none
  resourceVersion : Option String := none
deriving DecidableEq

/-- A listed or watched cluster-manager resource; `spec` has the members of its
spec, if it has one. -/
structure ClusterManager where
  metadata : Metadata
  spec : Option (List (String × Json)) := none
  status : Json := .null
deriving DecidableEq

/-- `str(value or "")`. -/
def textOf (value : Option String) : String :=
  value.getD ""

inductive GuardError where
  | singletonGuardError (message : String)
  | raised (exc : StatusDocument.PyExc)
deriving DecidableEq, Repr

def crName (cr : ClusterManager) : String :=
  if textOf cr.metadata.name = "" then "<unnamed>" else textOf cr.metadata.name

def crCreated (cr : ClusterManager) : String :=
  if textOf cr.metadata.creationTimestamp = "" then "<no creationTimestamp>"
  else textOf cr.metadata.creationTimestamp

/-- Identity by uid when both carry one, else by name. -/
def sameCr (a b : ClusterManager) : Bool :=
  if textOf a.metadata.uid ≠ "" ∧ textOf b.metadata.uid ≠ "" then
    decide (a.metadata.uid = b.metadata.uid)
  else
    decide (a.metadata.name = b.metadata.name)

section Election

variable (unicode : UnicodeData)

/-!
## Seniority
-/

/-- `datetime.max`, the place of a resource without a creation timestamp. -/
def missingCreated : Instant :=
  IsoFormat.endOfCalendar - 1

def parseUtc (context value : String) : Except GuardError Instant :=
  match StatusDocument.parseIsoUtc unicode (.str value) with
  | .ok t => .ok t
  | .error (.valueError message) => .error (.singletonGuardError (context ++ ": " ++ message))
  | .error exc => .error (.raised exc)

abbrev SeniorityKey := Instant ×ₗ String ×ₗ String

/-- The creation instant of a resource. -/
def created (cr : ClusterManager) : Except GuardError Instant :=
  let raw := textOf cr.metadata.creationTimestamp
  if raw = "" then .ok missingCreated
  else
    parseUtc unicode
      ("OpenStudioClusterManager " ++ crName cr ++ ": metadata.creationTimestamp") raw

def seniorityKey (cr : ClusterManager) : Except GuardError SeniorityKey := do
  let at' <- created unicode cr
  return toLex (at', toLex (textOf cr.metadata.name, textOf cr.metadata.uid))

/-- Oldest first. -/
def sortCrsBySeniority (items : List ClusterManager) :
    Except GuardError (List ClusterManager) := do
  let keyed <- items.mapM fun cr => do return (<- seniorityKey unicode cr, cr)
  return (sortOn Prod.fst keyed).map Prod.snd

def resolveActiveCr (items : List ClusterManager) :
    Except GuardError (Option ClusterManager) := do
  return (<- sortCrsBySeniority unicode items).head?

/-- Whether `body` is the resource that the operator serves, given the listing
of its namespace. -/
def isActive (body : ClusterManager) (items : List ClusterManager) :
    Except GuardError Bool := do
  match <- resolveActiveCr unicode items with
  | none => return false
  | some winner => return sameCr body winner

/-!
## Announcements
-/

structure GuardEvent where
  cr : ClusterManager
  type : EventType
  reason : String
  message : String
deriving DecidableEq

/-- The winner's name and the set of the losers' names. -/
abbrev GuardView := Option String × Finset String

def conflictEvent (winner loser : ClusterManager) : GuardEvent where
  cr := loser
  type := .warning
  reason := "SingletonConflict"
  message := "Ignored by the operator: " ++ crName winner
    ++ " is the oldest OpenStudioClusterManager in this namespace (created " ++ crCreated winner
    ++ " vs " ++ crCreated loser
    ++ "). Exactly one CR may be served per namespace (D05); delete this CR or the other one."

def activeEvent (winner : ClusterManager) (losers : List ClusterManager) (count : Nat) :
    GuardEvent where
  cr := winner
  type := .normal
  reason := "SingletonActive"
  message := "Served as the oldest of " ++ toString count
    ++ " OpenStudioClusterManager CRs in this namespace (D05); the others are ignored: "
    ++ ", ".intercalate (losers.map crName) ++ "."

def losersOf (winner : Option ClusterManager) (items : List ClusterManager) :
    List ClusterManager :=
  items.filter fun cr =>
    match winner with
    | none => true
    | some w => !sameCr cr w

def viewOf (winner : Option ClusterManager) (items : List ClusterManager) : GuardView :=
  (winner.map crName, ((losersOf winner items).map crName).toFinset)

/-- One snapshot: the view to remember and the Events. -/
def enforce (lastState : Option GuardView) (items : List ClusterManager) :
    Except GuardError (Option GuardView × List GuardEvent) := do
  let winner <- resolveActiveCr unicode items
  let losers := losersOf winner items
  let state := viewOf winner items
  if some state = lastState then
    return (lastState, [])
  match winner with
  | none => return (some state, [])
  | some w =>
      if losers.isEmpty then
        return (some state, [])
      return (some state, losers.map (conflictEvent w) ++ [activeEvent w losers items.length])

/-- A run over snapshots, with the Events of each. -/
def enforceAll : Option GuardView -> List (List ClusterManager) ->
    Except GuardError (List (List GuardEvent))
  | _, [] => return []
  | lastState, items :: rest => do
      let after <- enforce unicode lastState items
      return after.2 :: (<- enforceAll after.1 rest)

end Election

section Laws

variable {unicode : UnicodeData}

/-!
## Listings

The resources of a namespace carry distinct uids, and a creation timestamp
that is absent or readable.
-/

structure Listing (unicode : UnicodeData) (items : List ClusterManager) : Prop where
  uid_ne : forall cr, cr ∈ items -> textOf cr.metadata.uid ≠ ""
  uid_nodup : (items.map fun cr => cr.metadata.uid).Nodup
  datable : forall cr, cr ∈ items -> exists t, created unicode cr = .ok t

/-- The place of a resource in the order of seniority. -/
def seniority (unicode : UnicodeData) (cr : ClusterManager) : SeniorityKey :=
  match seniorityKey unicode cr with
  | .ok k => k
  | .error _ => toLex (missingCreated, toLex ("", ""))

/-- `winner` is the least resource of the listing by creation instant, name and
uid. -/
structure Oldest (unicode : UnicodeData) (items : List ClusterManager)
    (winner : ClusterManager) : Prop where
  mem : winner ∈ items
  least : forall cr, cr ∈ items -> forall k k', seniorityKey unicode winner = .ok k ->
    seniorityKey unicode cr = .ok k' -> k <= k'

theorem Listing.perm {items items' : List ClusterManager} (h : Listing unicode items)
    (hperm : items'.Perm items) : Listing unicode items' where
  uid_ne cr hcr := h.uid_ne cr (hperm.mem_iff.mp hcr)
  uid_nodup := (hperm.map _).nodup_iff.mpr h.uid_nodup
  datable cr hcr := h.datable cr (hperm.mem_iff.mp hcr)

theorem Listing.nodup {items : List ClusterManager} (h : Listing unicode items) : items.Nodup :=
  List.Nodup.of_map _ h.uid_nodup

theorem Listing.eq_of_uid {items : List ClusterManager} (h : Listing unicode items)
    {a b : ClusterManager} (ha : a ∈ items) (hb : b ∈ items)
    (huid : a.metadata.uid = b.metadata.uid) : a = b :=
  List.inj_on_of_nodup_map h.uid_nodup ha hb huid

/-- The creation instant of every resource can be read. -/
def Datable (unicode : UnicodeData) (items : List ClusterManager) : Prop :=
  forall cr, cr ∈ items -> exists t, created unicode cr = .ok t

theorem Datable.key {items : List ClusterManager} (h : Datable unicode items)
    {cr : ClusterManager} (hcr : cr ∈ items) :
    seniorityKey unicode cr = .ok (seniority unicode cr) := by
  rcases h cr hcr with ⟨t, ht⟩
  have hkey : seniorityKey unicode cr =
      .ok (toLex (t, toLex (textOf cr.metadata.name, textOf cr.metadata.uid))) := by
    unfold seniorityKey
    rw [ht]
    rfl
  unfold seniority
  rw [hkey]

theorem Listing.key {items : List ClusterManager} (h : Listing unicode items)
    {cr : ClusterManager} (hcr : cr ∈ items) :
    seniorityKey unicode cr = .ok (seniority unicode cr) :=
  Datable.key h.datable hcr

theorem uid_of_key {cr : ClusterManager} {k : SeniorityKey}
    (h : seniorityKey unicode cr = .ok k) :
    (ofLex (ofLex k).2).2 = textOf cr.metadata.uid := by
  unfold seniorityKey at h
  cases hcreated : created unicode cr with
  | error err =>
      rw [hcreated] at h
      cases h
  | ok t =>
      rw [hcreated] at h
      cases h
      rfl

theorem eq_of_textOf {a b : Option String} (ha : textOf a ≠ "") (h : textOf a = textOf b) :
    a = b := by
  cases a with
  | none => exact absurd rfl ha
  | some s =>
      cases b with
      | none => exact absurd h ha
      | some s' => exact congrArg some h

/-- The order of seniority tells the resources of a listing apart. -/
theorem Listing.seniority_injective {items : List ClusterManager} (h : Listing unicode items) :
    forall a, a ∈ items -> forall b, b ∈ items ->
      seniority unicode a = seniority unicode b -> a = b := by
  intro a ha b hb heq
  apply h.eq_of_uid ha hb
  apply eq_of_textOf (h.uid_ne a ha)
  rw [← uid_of_key (h.key ha), ← uid_of_key (h.key hb), heq]

theorem Listing.sameCr_iff {items : List ClusterManager} (h : Listing unicode items)
    {a b : ClusterManager} (ha : a ∈ items) (hb : b ∈ items) : sameCr a b = true <-> a = b := by
  unfold sameCr
  rw [if_pos ⟨h.uid_ne a ha, h.uid_ne b hb⟩, decide_eq_true_iff]
  constructor
  · exact h.eq_of_uid ha hb
  · intro heq
    rw [heq]

/-!
## The election
-/

theorem Datable.sort_eq {items : List ClusterManager} (h : Datable unicode items) :
    sortCrsBySeniority unicode items = .ok (sortOn (seniority unicode) items) := by
  have hkeyed : (items.mapM fun cr => do return (<- seniorityKey unicode cr, cr)) =
      .ok (items.map fun cr => (seniority unicode cr, cr)) := by
    apply mapM_ok
    intro cr hcr
    rw [h.key hcr]
    rfl
  have hsort : sortOn Prod.fst (items.map fun cr => (seniority unicode cr, cr)) =
      (sortOn (seniority unicode) items).map fun cr => (seniority unicode cr, cr) := by
    unfold sortOn
    rw [List.map_insertionSort (fun a b => seniority unicode a <= seniority unicode b)
      (fun a b => a.1 <= b.1)]
    intro a _ b _
    exact Iff.rfl
  unfold sortCrsBySeniority
  rw [hkeyed]
  show Except.ok _ = Except.ok _
  rw [hsort, List.map_map]
  exact congrArg Except.ok (List.map_id _)

theorem Datable.resolve_eq {items : List ClusterManager} (h : Datable unicode items) :
    resolveActiveCr unicode items = .ok (sortOn (seniority unicode) items).head? := by
  unfold resolveActiveCr
  rw [h.sort_eq]
  rfl

theorem Listing.resolve_eq {items : List ClusterManager} (h : Listing unicode items) :
    resolveActiveCr unicode items = .ok (sortOn (seniority unicode) items).head? :=
  Datable.resolve_eq h.datable

/-- A listing that is not empty elects its oldest resource, whatever its
order. -/
theorem Listing.elects {items : List ClusterManager} (h : Listing unicode items)
    (hne : items ≠ []) :
    exists winner, Oldest unicode items winner ∧
      forall items', items'.Perm items ->
        resolveActiveCr unicode items' = .ok (some winner) := by
  rcases head?_sortOn (seniority unicode) hne with ⟨winner, hhead, hmem, hleast⟩
  exists winner
  constructor
  · constructor
    · exact hmem
    · intro cr hcr k k' hk hk'
      rw [h.key hmem] at hk
      rw [h.key hcr] at hk'
      cases hk
      cases hk'
      exact hleast cr hcr
  · intro items' hperm
    rw [(h.perm hperm).resolve_eq, head?_sortOn_perm _ hperm h.seniority_injective, hhead]

theorem Listing.oldest_unique {items : List ClusterManager} (h : Listing unicode items)
    {a b : ClusterManager} (ha : Oldest unicode items a) (hb : Oldest unicode items b) :
    a = b := by
  apply h.seniority_injective a ha.mem b hb.mem
  apply le_antisymm
  · exact ha.least b hb.mem _ _ (h.key ha.mem) (h.key hb.mem)
  · exact hb.least a ha.mem _ _ (h.key hb.mem) (h.key ha.mem)

theorem Listing.isActive_eq {items items' : List ClusterManager} (h : Listing unicode items)
    (hperm : items'.Perm items) {winner : ClusterManager} (hwinner : Oldest unicode items winner)
    {cr : ClusterManager} (hcr : cr ∈ items) :
    isActive unicode cr items' = .ok (decide (cr = winner)) := by
  have hne : items ≠ [] := List.ne_nil_of_mem hwinner.mem
  rcases h.elects hne with ⟨w, hw, hresolve⟩
  have heq : w = winner := h.oldest_unique hw hwinner
  unfold isActive
  rw [hresolve items' hperm, heq]
  show Except.ok (sameCr cr winner) = _
  congr 1
  rw [Bool.eq_iff_iff, decide_eq_true_iff]
  exact h.sameCr_iff hcr hwinner.mem

/-!
## Announced changes
-/

/-- The winner's name and the other resources' names. -/
def view (unicode : UnicodeData) (items : List ClusterManager) : GuardView :=
  match resolveActiveCr unicode items with
  | .ok winner => viewOf winner items
  | .error _ => (none, ∅)

/-- The Events of a snapshot, given the one before it: they are emitted exactly
when there is more than one resource and the view has changed, and then the
conflict goes to every other resource and the winner is told that it is
served. -/
structure Announces (unicode : UnicodeData) (previous : Option (List ClusterManager))
    (items : List ClusterManager) (events : List GuardEvent) : Prop where
  changed : events ≠ [] <->
    1 < items.length ∧ forall before, previous = some before -> view unicode items ≠ view unicode before
  told : events ≠ [] -> forall winner, Oldest unicode items winner ->
    (events.map fun e => (e.cr, e.type, e.reason)) =
      ((items.filter fun cr => cr ≠ winner).map fun cr =>
        (cr, EventType.warning, "SingletonConflict")) ++
        [(winner, EventType.normal, "SingletonActive")]

/-- The snapshot before the i-th one of a sequence that follows `first`. -/
def snapshotBefore (first : Option (List ClusterManager))
    (snapshots : List (List ClusterManager)) : Nat -> Option (List ClusterManager)
  | 0 => first
  | i + 1 => snapshots[i]?

theorem Listing.losersOf_eq {items : List ClusterManager} (h : Listing unicode items)
    {winner : ClusterManager} (hwinner : winner ∈ items) :
    losersOf (some winner) items = items.filter fun cr => cr ≠ winner := by
  unfold losersOf
  apply List.filter_congr
  intro cr hcr
  rw [Bool.eq_iff_iff, decide_eq_true_iff, Bool.not_eq_true', ← Bool.not_eq_true,
    h.sameCr_iff hcr hwinner]

/-- There is another resource exactly when there is more than one. -/
theorem Listing.losers_ne_nil {items : List ClusterManager} (h : Listing unicode items)
    {winner : ClusterManager} (hwinner : winner ∈ items) :
    (items.filter fun cr => cr ≠ winner) ≠ [] <-> 1 < items.length := by
  have hcount : (items.filter fun cr => cr ≠ winner).length + 1 = items.length := by
    have herase : (items.erase winner) = items.filter fun cr => cr ≠ winner := by
      rw [h.nodup.erase_eq_filter]
      apply List.filter_congr
      intro cr _
      rw [Bool.eq_iff_iff, decide_eq_true_iff, bne_iff_ne]
    rw [← herase, List.length_erase_of_mem hwinner]
    have hpos : 0 < items.length := List.length_pos_of_mem hwinner
    omega
  rw [← List.length_pos_iff]
  omega

/-- The Events of a view that has changed. -/
def announcement (winner : Option ClusterManager) (items : List ClusterManager) :
    List GuardEvent :=
  match winner with
  | none => []
  | some w =>
      if (losersOf (some w) items).isEmpty then []
      else (losersOf (some w) items).map (conflictEvent w) ++
        [activeEvent w (losersOf (some w) items) items.length]

/-- A decided election leaves its view, and Events where the view is another. -/
theorem enforce_resolved {items : List ClusterManager} {winner : Option ClusterManager}
    (hresolve : resolveActiveCr unicode items = .ok winner) (lastState : Option GuardView) :
    enforce unicode lastState items = .ok (some (viewOf winner items),
      if some (viewOf winner items) = lastState then [] else announcement winner items) := by
  unfold enforce
  rw [hresolve]
  show (if _ then _ else _) = _
  by_cases hsame : some (viewOf winner items) = lastState
  · rw [if_pos hsame, if_pos hsame, ← hsame]
    rfl
  · rw [if_neg hsame, if_neg hsame]
    cases winner with
    | none => rfl
    | some w =>
        unfold announcement
        dsimp only
        by_cases hlone : (losersOf (some w) items).isEmpty = true
        · rw [if_pos hlone, if_pos hlone]
          rfl
        · rw [if_neg hlone, if_neg hlone]
          rfl

/-- One snapshot: the view is remembered, and a change of it is announced. -/
theorem Listing.enforce_step {items : List ClusterManager} (h : Listing unicode items)
    (previous : Option (List ClusterManager)) :
    exists events, enforce unicode (previous.map (view unicode)) items =
        .ok (some (view unicode items), events) ∧
      Announces unicode previous items events := by
  have hview : forall winner, resolveActiveCr unicode items = .ok winner ->
      view unicode items = viewOf winner items := by
    intro winner hresolve
    unfold view
    rw [hresolve]
  have hquiet : ¬ (1 < items.length ∧ forall before, previous = some before ->
        view unicode items ≠ view unicode before) -> Announces unicode previous items [] := by
    intro hnot
    constructor
    · exact ⟨fun hne => absurd rfl hne, fun hchanged => absurd hchanged hnot⟩
    · intro hne
      exact absurd rfl hne
  by_cases hnil : items = []
  · have hresolve : resolveActiveCr unicode items = .ok none := by
      rw [h.resolve_eq, hnil]
      rfl
    have hshort : ¬ 1 < items.length := by
      rw [hnil]
      exact Nat.not_lt_zero 1
    exists []
    constructor
    · rw [enforce_resolved hresolve, hview none hresolve]
      unfold announcement
      rw [ite_self]
    · exact hquiet fun hchanged => hshort hchanged.1
  · rcases h.elects hnil with ⟨winner, hwinner, hresolves⟩
    have hresolve := hresolves items (List.Perm.refl items)
    have hviewed := hview (some winner) hresolve
    rw [enforce_resolved hresolve, hviewed]
    exists if some (viewOf (some winner) items) = previous.map (view unicode) then []
      else announcement (some winner) items
    constructor
    · rfl
    by_cases hsame : some (viewOf (some winner) items) = previous.map (view unicode)
    · rw [if_pos hsame]
      apply hquiet
      intro hchanged
      cases previous with
      | none => cases hsame
      | some before =>
          apply hchanged.2 before rfl
          rw [hviewed]
          exact Option.some.inj hsame
    · have hdiffers : forall before, previous = some before ->
          view unicode items ≠ view unicode before := by
        intro before hbefore heq
        apply hsame
        rw [hbefore, Option.map_some, ← heq, hviewed]
      have hlosers := h.losersOf_eq hwinner.mem
      have hmany := h.losers_ne_nil hwinner.mem
      rw [if_neg hsame]
      unfold announcement
      dsimp only
      by_cases hlone : 1 < items.length
      · have hne := hmany.mpr hlone
        rw [if_neg]
        · constructor
          · exact ⟨fun _ => ⟨hlone, hdiffers⟩, fun _ => by simp⟩
          · intro _ other hother
            rw [h.oldest_unique hother hwinner, hlosers, List.map_append, List.map_map]
            rfl
        · rw [hlosers, List.isEmpty_iff]
          exact hne
      · rw [if_pos]
        · exact hquiet fun hchanged => hlone hchanged.1
        · rw [hlosers, List.isEmpty_iff]
          by_contra hne
          exact hlone (hmany.mp hne)

/-- A run over snapshots announces each against the one before it. -/
theorem enforceAll_announces : forall (snapshots : List (List ClusterManager))
    (first : Option (List ClusterManager)),
    (forall items, items ∈ snapshots -> Listing unicode items) ->
    exists emitted, enforceAll unicode (first.map (view unicode)) snapshots = .ok emitted ∧
      emitted.length = snapshots.length ∧
      forall i items events, snapshots[i]? = some items -> emitted[i]? = some events ->
        Announces unicode (snapshotBefore first snapshots i) items events := by
  intro snapshots
  induction snapshots with
  | nil =>
      intro first _
      exact ⟨[], rfl, rfl, fun i items events hitems => by cases hitems⟩
  | cons items rest ih =>
      intro first hlistings
      rcases (hlistings items List.mem_cons_self).enforce_step first with
        ⟨events, hstep, hannounces⟩
      rcases ih (some items) (fun s hs => hlistings s (List.mem_cons_of_mem items hs)) with
        ⟨emitted, hrun, hlength, hrest⟩
      exists events :: emitted
      constructor
      · unfold enforceAll
        rw [hstep]
        show (do return events :: (<- enforceAll unicode (some (view unicode items)) rest)) = _
        rw [Option.map_some] at hrun
        rw [hrun]
        rfl
      constructor
      · rw [List.length_cons, List.length_cons, hlength]
      · intro i items' events' hitems' hevents'
        cases i with
        | zero =>
            cases hitems'
            cases hevents'
            exact hannounces
        | succ i =>
            have hbefore : snapshotBefore first (items :: rest) (i + 1) =
                snapshotBefore (some items) rest i := by
              cases i <;> rfl
            rw [hbefore]
            exact hrest i items' events' hitems' hevents'

/-- A listing has exactly one active resource, its oldest, in whatever order it
is listed, and every sequence of snapshots announces its changes. -/
theorem one_active_cr {items : List ClusterManager} (hlisting : Listing unicode items)
    (hne : items ≠ []) (snapshots : List (List ClusterManager))
    (hlistings : forall snapshot, snapshot ∈ snapshots -> Listing unicode snapshot) :
    (exists winner, Oldest unicode items winner ∧
      forall items', items'.Perm items ->
        resolveActiveCr unicode items' = .ok (some winner) ∧
        forall cr, cr ∈ items -> isActive unicode cr items' = .ok (decide (cr = winner))) ∧
    exists emitted, enforceAll unicode none snapshots = .ok emitted ∧
      emitted.length = snapshots.length ∧
      forall i snapshot events, snapshots[i]? = some snapshot -> emitted[i]? = some events ->
        Announces unicode (snapshotBefore none snapshots i) snapshot events := by
  constructor
  · rcases hlisting.elects hne with ⟨winner, hwinner, hresolves⟩
    exists winner
    constructor
    · exact hwinner
    · intro items' hperm
      constructor
      · exact hresolves items' hperm
      · intro cr hcr
        exact hlisting.isActive_eq hperm hwinner hcr
  · exact enforceAll_announces snapshots none hlistings

end Laws

/-- Two resources, one without a timestamp and one at the last instant that a
`datetime` has. -/
def undatedCr : ClusterManager where
  metadata := { name := some "a", uid := some "u1" }

def lastInstantCr : ClusterManager where
  metadata := { name := some "b", uid := some "u2",
                creationTimestamp := some "9999-12-31T23:59:59.999999Z" }

theorem listing_undated_last :
    Listing UnicodeData.ascii [undatedCr, lastInstantCr] := by
  constructor
  · decide
  · decide
  · intro cr hcr
    have hok : ((created UnicodeData.ascii cr).toOption).isSome = true := by
      revert cr
      decide +kernel
    cases hcreated : created UnicodeData.ascii cr with
    | ok t => exact ⟨t, rfl⟩
    | error err =>
        rw [hcreated] at hok
        cases hok

theorem one_active_cr_undated :
    (exists winner, Oldest UnicodeData.ascii [undatedCr, lastInstantCr] winner ∧
      resolveActiveCr UnicodeData.ascii [lastInstantCr, undatedCr] = .ok (some winner)) ∧
    exists emitted, enforceAll UnicodeData.ascii none [[undatedCr, lastInstantCr]] =
      .ok emitted ∧ emitted.length = 1 := by
  have h := one_active_cr listing_undated_last (List.cons_ne_nil _ _)
    [[undatedCr, lastInstantCr]] (by
      intro snapshot hsnapshot
      rw [List.mem_singleton.mp hsnapshot]
      exact listing_undated_last)
  rcases h with ⟨⟨winner, hwinner, hperm⟩, emitted, hrun, hlength, _⟩
  constructor
  · exact ⟨winner, hwinner, (hperm _ (List.Perm.swap _ _ _)).1⟩
  · exact ⟨emitted, hrun, hlength⟩

/-- A resource without a timestamp can be elected before one that has one. -/
theorem undated_elected :
    ¬ forall items, Listing UnicodeData.ascii items -> forall winner, winner ∈ items ->
      isActive UnicodeData.ascii winner items = .ok true ->
      textOf winner.metadata.creationTimestamp = "" ->
      forall cr, cr ∈ items -> textOf cr.metadata.creationTimestamp = "" := by
  intro hlast
  have hactive : isActive UnicodeData.ascii undatedCr [undatedCr, lastInstantCr] = .ok true := by
    decide +kernel
  have hempty := hlast _ listing_undated_last undatedCr List.mem_cons_self hactive rfl
    lastInstantCr (List.mem_cons_of_mem _ List.mem_cons_self)
  exact absurd hempty (by decide)

end SingletonGuard
end OpenStudioOperator
