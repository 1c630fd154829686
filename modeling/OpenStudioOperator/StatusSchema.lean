import OpenStudioOperator.Foundation.StructuralSchema
import OpenStudioOperator.StatusPatches

/-!
# The status schema of the custom resource

The server applies a patch and then drops what the schema of the resource does
not declare.  It is compared with one that receives the same patches and keeps
everything.
-/

namespace OpenStudioOperator
namespace StatusDocument

open Foundation

/-!
## The schema
-/

/-- The properties of an item of `deferredEvents`. -/
def eventProperties : List (String × Schema) :=
  [("namespace", .string), ("name", .string), ("reason", .string), ("message", .string)]

/-- The properties of `status` in `deploy/crd.yaml`. -/
def statusProperties : List (String × Schema) :=
  [("softStops", .preserved),
    ("requeues", .preserved),
    ("startedSince", .preserved),
    ("archivedAnalyses", .preserved),
    ("stoppedAnalyses", .preserved),
    ("lastRecycleAt", .string),
    ("lastWebBackgroundRestart", .string),
    ("stallWindowStartedAt", .string),
    ("deferredEvents", .array (.object eventProperties))]

def statusSchema : Schema := .object statusProperties

/-!
## Two servers
-/

/-- The status that the cluster serves, and what it would be without pruning. -/
structure Served where
  pruned : Json
  plain : Json
deriving DecidableEq

/-- A mutation with the live anchors registered at that moment. -/
structure Mutation where
  protectedIds : StatusField -> List String
  op : StoreMutation

section Servers

variable (unicode : UnicodeData)

/-- The mutation reads the served status, and both servers receive its patch. -/
def Served.after (s : Served) (m : Mutation) : Served :=
  match readStatus s.pruned >>= m.op.buildPatch unicode m.protectedIds with
  | .ok (some patch) =>
      ⟨statusSchema.prune (s.pruned.mergePatch patch), s.plain.mergePatch patch⟩
  | _ => s

/-- Both servers after a sequence of mutations on an empty status. -/
def served (ms : List Mutation) : Served :=
  ms.foldl (Served.after unicode) ⟨.obj [], .obj []⟩

/-- Every typed getter returns the same from both servers. -/
def Served.Agrees (s : Served) : Prop :=
  forall getter : Getter, getter.run unicode s.pruned = getter.run unicode s.plain

end Servers

/-- The mutation writes nothing that the schema does not declare: no count but
zero, and no event with another member, unless the list is full. -/
def StoreMutation.Declared (op : StoreMutation) (status : Json) : Prop :=
  match op with
  | .setWebBackgroundIneffectiveRestarts count => count = 0
  | .appendDeferredEvent entry maxEntries =>
      (forall limit, maxEntries = some limit -> (storedEvents status.members).length < limit) ->
        forall pair, pair ∈ entry -> pair.1 ∈ eventProperties.map Prod.fst
  | _ => True

/-!
## What the getters read
-/

/-- The member of the status that a getter reads. -/
def Getter.field : Getter -> String
  | .softStops => StatusField.softStops.key
  | .softStop _ => StatusField.softStops.key
  | .requeues => StatusField.requeues.key
  | .requeue _ => StatusField.requeues.key
  | .startedSinceMap => StatusField.startedSince.key
  | .startedSince _ => StatusField.startedSince.key
  | .archivedAnalyses => StatusField.archivedAnalyses.key
  | .archivedAnalysis _ => StatusField.archivedAnalyses.key
  | .stopRecord _ => StatusField.stoppedAnalyses.key
  | .deferredEvents => deferredEventsKey
  | .lastRecycleAt => lastRecycleAtKey
  | .lastWebBackgroundRestartAt => lastWebBackgroundRestartKey
  | .stallWindowStartedAt => stallWindowStartedAtKey
  | .webBackgroundIneffectiveRestarts => webBackgroundIneffectiveRestartsKey

section Reads

variable {unicode : UnicodeData} {p q : List (String × Json)}

theorem readMap_congr {field : StatusField}
    (h : getMember p field.key = getMember q field.key) :
    readMap field (.obj p) = readMap field (.obj q) := by
  unfold readMap
  rw [readStatus_obj, readStatus_obj]
  simp only [bind, Except.bind, h]

theorem getScalar_congr {key : String} (h : getMember p key = getMember q key) :
    getScalar unicode key (.obj p) = getScalar unicode key (.obj q) := by
  unfold getScalar
  rw [readStatus_obj, readStatus_obj]
  simp only [bind, Except.bind, h]

/-- A getter reads one member. -/
theorem Getter.run_congr {getter : Getter}
    (h : getMember p getter.field = getMember q getter.field) :
    getter.run unicode (.obj p) = getter.run unicode (.obj q) := by
  cases getter with
  | deferredEvents =>
      rw [Getter.field] at h
      unfold Getter.run getDeferredEvents
      rw [readStatus_obj, readStatus_obj]
      simp only [bind, Except.bind, h]
  | lastRecycleAt => exact congrArg (Except.map Value.instant) (getScalar_congr h)
  | lastWebBackgroundRestartAt =>
      exact congrArg (Except.map Value.instant) (getScalar_congr h)
  | stallWindowStartedAt => exact congrArg (Except.map Value.instant) (getScalar_congr h)
  | webBackgroundIneffectiveRestarts =>
      rw [Getter.field] at h
      unfold Getter.run getInt
      rw [readStatus_obj, readStatus_obj]
      simp only [bind, Except.bind, h]
  | _ =>
      simp only [Getter.run, getEntries, getEntry]
      rw [readMap_congr h]

/-- The texts of an event. -/
def eventTexts (unicode : UnicodeData) (item : Json) : List (String × String) :=
  item.members.map fun m => (m.1, m.2.pyStr unicode)

def AllObjects (items : List Json) : Prop :=
  forall item, item ∈ items -> exists ms, item = .obj ms

theorem deferredEntries_objects : forall (i : Nat) (items : List Json), AllObjects items ->
    deferredEntries unicode i items = .ok (items.map (eventTexts unicode))
  | _, [], _ => rfl
  | i, item :: rest, h => by
      rcases h item List.mem_cons_self with ⟨ms, hms⟩
      subst hms
      rw [deferredEntries, deferredEntries_objects (i + 1) rest
        fun item hitem => h item (List.mem_cons_of_mem _ hitem)]
      rfl

theorem run_deferredEvents {items : List Json} (hitems : AllObjects items)
    (h : getMember p deferredEventsKey = .arr items) :
    Getter.deferredEvents.run unicode (.obj p) =
      .ok (.deferredEvents (items.map (eventTexts unicode))) := by
  unfold Getter.run getDeferredEvents
  rw [readStatus_obj]
  simp only [bind, Except.bind, h]
  cases items with
  | nil => rfl
  | cons item rest =>
      simp only [Json.truthy, List.isEmpty_cons, Bool.not_false, if_true]
      rw [deferredEntries_objects 0 _ hitems]
      rfl

theorem run_count {n : Int} (h : getMember p webBackgroundIneffectiveRestartsKey = .int n) :
    Getter.webBackgroundIneffectiveRestarts.run unicode (.obj p) = .ok (.count n) := by
  unfold Getter.run getInt
  rw [readStatus_obj]
  simp only [bind, Except.bind, h]
  rfl

theorem run_count_absent (h : getMember p webBackgroundIneffectiveRestartsKey = .null) :
    Getter.webBackgroundIneffectiveRestarts.run unicode (.obj p) = .ok (.count 0) := by
  unfold Getter.run getInt
  rw [readStatus_obj]
  simp only [bind, Except.bind, h]
  rfl

end Reads

/-!
## The pruned document
-/

section Pruned

variable {unicode : UnicodeData} {p q : List (String × Json)}

/-- The schema alters no member that it declares, `deferredEvents` apart. -/
theorem pruneAt_declared {k : String} (hk : k ≠ deferredEventsKey)
    (hdeclared : (statusProperties.lookup k).isSome = true) (v : Json) :
    Schema.pruneAt statusProperties k v = some v := by
  have hall : forall property, property ∈ statusProperties ->
      property.1 ≠ deferredEventsKey -> property.2.prune v = v := by
    simp [statusProperties, Schema.prune, deferredEventsKey]
  cases hlookup : statusProperties.lookup k with
  | none =>
      rw [hlookup] at hdeclared
      cases hdeclared
  | some schema =>
      unfold Schema.pruneAt
      rw [hlookup, Option.map_some, hall _ (Members.mem_of_lookup hlookup) hk]

theorem pruneAt_events (items : List Json) :
    Schema.pruneAt statusProperties deferredEventsKey (.arr items) =
      some (.arr (items.map (Schema.object eventProperties).prune)) := by
  have hlookup : statusProperties.lookup deferredEventsKey =
      some (.array (.object eventProperties)) := rfl
  unfold Schema.pruneAt
  rw [hlookup, Option.map_some, Schema.prune_arr]

/-- An event keeps its declared members. -/
theorem prune_event (ms : List (String × Json)) :
    (Schema.object eventProperties).prune (.obj ms) =
      .obj (ms.filter fun m => m.1 ∈ eventProperties.map Prod.fst) := by
  rw [Schema.prune_obj, ← List.filterMap_eq_filter]
  congr 1
  apply List.filterMap_congr
  intro m _
  have hstrings : forall property, property ∈ eventProperties -> property.2.prune m.2 = m.2 := by
    simp [eventProperties, Schema.prune]
  unfold Schema.pruneAt
  cases hlookup : eventProperties.lookup m.1 with
  | none =>
      have hnot : m.1 ∉ eventProperties.map Prod.fst := by
        intro hmem
        rcases List.mem_map.mp hmem with ⟨property, hproperty, hkey⟩
        exact absurd (beq_iff_eq.mpr hkey.symm)
          (by simpa using List.lookup_eq_none_iff.mp hlookup property hproperty)
      rw [Option.guard_eq_none_iff.mpr (by simpa using hnot)]
      rfl
  | some schema =>
      have hmem := Members.mem_of_lookup hlookup
      rw [Option.map_some, hstrings _ hmem, Option.map_some, eq_comm, Option.guard_eq_some_iff]
      exact ⟨rfl, by simpa using List.mem_map_of_mem (f := Prod.fst) hmem⟩

/-- All members of the event are declared. -/
def DeclaredEvent (item : Json) : Prop :=
  forall m, m ∈ item.members -> m.1 ∈ eventProperties.map Prod.fst

theorem eventTexts_prune_iff (ms : List (String × Json)) :
    eventTexts unicode ((Schema.object eventProperties).prune (.obj ms)) =
      eventTexts unicode (.obj ms) <-> DeclaredEvent (.obj ms) := by
  rw [prune_event]
  constructor
  · intro h
    have hlength := congrArg List.length h
    simp only [eventTexts, Json.members, List.length_map] at hlength
    intro m hm
    simpa using List.length_filter_eq_length_iff.mp hlength m hm
  · intro h
    rw [List.filter_eq_self.mpr fun m hm => by simpa using h m hm]

theorem declaredEvent_prune (ms : List (String × Json)) :
    DeclaredEvent ((Schema.object eventProperties).prune (.obj ms)) := by
  rw [prune_event]
  intro m hm
  simpa using (List.mem_filter.mp hm).2

/-- How the served members follow the unpruned ones. -/
structure Mirrors (p q : List (String × Json)) : Prop where
  member : forall k, p.lookup k = (q.lookup k).bind (Schema.pruneAt statusProperties k)
  count : q.lookup webBackgroundIneffectiveRestartsKey = none ∨
    exists n, q.lookup webBackgroundIneffectiveRestartsKey = some (.int n)
  events : q.lookup deferredEventsKey = none ∨
    exists items, q.lookup deferredEventsKey = some (.arr items) ∧ AllObjects items

/-- The unpruned members hold nothing that the schema drops. -/
structure Clean (q : List (String × Json)) : Prop where
  count : forall n, q.lookup webBackgroundIneffectiveRestartsKey = some (.int n) -> n = 0
  events : forall items, q.lookup deferredEventsKey = some (.arr items) ->
    forall item, item ∈ items -> DeclaredEvent item

theorem mirrors_empty : Mirrors [] [] :=
  ⟨fun _ => rfl, Or.inl rfl, Or.inl rfl⟩

theorem clean_empty : Clean [] := by
  constructor
  · intro n h
    cases h
  · intro items h
    cases h

/-- The count is never served. -/
theorem Mirrors.count_absent (h : Mirrors p q) :
    p.lookup webBackgroundIneffectiveRestartsKey = none := by
  rw [h.member]
  cases q.lookup webBackgroundIneffectiveRestartsKey <;> rfl

theorem Mirrors.same_member (h : Mirrors p q) {k : String} (hk : k ≠ deferredEventsKey)
    (hdeclared : (statusProperties.lookup k).isSome = true) : p.lookup k = q.lookup k := by
  rw [h.member]
  cases q.lookup k with
  | none => rfl
  | some v => exact pruneAt_declared hk hdeclared v

theorem Mirrors.run_count_iff (h : Mirrors p q) :
    Getter.webBackgroundIneffectiveRestarts.run unicode (.obj p) =
        Getter.webBackgroundIneffectiveRestarts.run unicode (.obj q) <->
      forall n, q.lookup webBackgroundIneffectiveRestartsKey = some (.int n) -> n = 0 := by
  have hserved : getMember p webBackgroundIneffectiveRestartsKey = .null := by
    unfold getMember
    rw [h.count_absent]
    rfl
  rw [run_count_absent hserved]
  rcases h.count with hnone | ⟨n, hn⟩
  · have hplain : getMember q webBackgroundIneffectiveRestartsKey = .null := by
      unfold getMember
      rw [hnone]
      rfl
    rw [run_count_absent hplain, hnone]
    simp
  · have hplain : getMember q webBackgroundIneffectiveRestartsKey = .int n := by
      unfold getMember
      rw [hn]
      rfl
    rw [run_count hplain, hn]
    simp [eq_comm]

theorem Mirrors.run_events_iff (h : Mirrors p q) :
    Getter.deferredEvents.run unicode (.obj p) = Getter.deferredEvents.run unicode (.obj q) <->
      forall items, q.lookup deferredEventsKey = some (.arr items) ->
        forall item, item ∈ items -> DeclaredEvent item := by
  have hmember := h.member deferredEventsKey
  rcases h.events with hnone | ⟨items, hitems, hobjects⟩
  · have hsame : getMember p deferredEventsKey = getMember q deferredEventsKey := by
      unfold getMember
      rw [hmember, hnone]
      rfl
    rw [Getter.run_congr hsame, hnone]
    simp
  · have hserved : getMember p deferredEventsKey =
        .arr (items.map (Schema.object eventProperties).prune) := by
      unfold getMember
      rw [hmember, hitems, Option.bind_some, pruneAt_events]
      rfl
    have hplain : getMember q deferredEventsKey = .arr items := by
      unfold getMember
      rw [hitems]
      rfl
    have hprunedObjects : AllObjects (items.map (Schema.object eventProperties).prune) := by
      intro item hitem
      rcases List.mem_map.mp hitem with ⟨raw, hraw, heq⟩
      rcases hobjects raw hraw with ⟨ms, hms⟩
      rw [← heq, hms, prune_event]
      exact ⟨_, rfl⟩
    rw [run_deferredEvents hprunedObjects hserved, run_deferredEvents hobjects hplain, hitems,
      Except.ok.injEq, Value.deferredEvents.injEq, List.map_map, List.map_inj_left]
    constructor
    · intro heq items' hitems' item hitem
      cases hitems'
      rcases hobjects item hitem with ⟨ms, hms⟩
      subst hms
      exact (eventTexts_prune_iff ms).mp (heq _ hitem)
    · intro hall item hitem
      rcases hobjects item hitem with ⟨ms, hms⟩
      subst hms
      exact (eventTexts_prune_iff ms).mpr (hall items rfl _ hitem)

/-- The getters agree as long as the schema drops nothing. -/
theorem Mirrors.agrees_iff (h : Mirrors p q) :
    Served.Agrees unicode ⟨.obj p, .obj q⟩ <-> Clean q := by
  constructor
  · intro hagrees
    exact ⟨h.run_count_iff.mp (hagrees .webBackgroundIneffectiveRestarts),
      h.run_events_iff.mp (hagrees .deferredEvents)⟩
  · intro hclean getter
    cases getter with
    | deferredEvents => exact h.run_events_iff.mpr hclean.events
    | webBackgroundIneffectiveRestarts => exact h.run_count_iff.mpr hclean.count
    | _ =>
        apply Getter.run_congr
        unfold getMember
        rw [h.same_member (ne_of_beq_false rfl) rfl]

end Pruned

/-!
## One mutation
-/

section Step

variable {unicode : UnicodeData} {p q patch : List (String × Json)}

/-- The served members after a patch. -/
def prunedMembers (p patch : List (String × Json)) : List (String × Json) :=
  (Json.mergeMembers p patch).filterMap fun m =>
    (Schema.pruneAt statusProperties m.1 m.2).map (m.1, ·)

/-- A patch that sets `deferredEvents` sets it whole. -/
def ReplacesEvents (patch : List (String × Json)) : Prop :=
  forall v, patch.lookup deferredEventsKey = some v -> v = .null ∨ exists items, v = .arr items

theorem mirror_member_merge (h : Mirrors p q) (hsorted : Members.Sorted patch)
    (hevents : ReplacesEvents patch) (k : String) :
    (prunedMembers p patch).lookup k =
      ((Json.mergeMembers q patch).lookup k).bind (Schema.pruneAt statusProperties k) := by
  unfold prunedMembers
  rw [Schema.lookup_prune, Json.lookup_mergeMembers _ _ _ hsorted,
    Json.lookup_mergeMembers _ _ _ hsorted]
  cases hpatch : patch.lookup k with
  | none =>
      simp only
      rw [h.member k, Option.bind_assoc]
      cases q.lookup k with
      | none => rfl
      | some v =>
          simp only [Option.bind_some]
          cases hv : Schema.pruneAt statusProperties k v with
          | none => rfl
          | some v' => exact Schema.pruneAt_pruneAt statusProperties k v v' hv
  | some v =>
      simp only
      by_cases hk : k = deferredEventsKey
      · subst hk
        rcases hevents v hpatch with hnull | ⟨items, harr⟩
        · rw [hnull]
          rfl
        · rw [harr]
          rfl
      · cases hlookup : statusProperties.lookup k with
        | none =>
            have hdrop : forall j, Schema.pruneAt statusProperties k j = none := by
              intro j
              unfold Schema.pruneAt
              rw [hlookup, Option.map_none]
            rw [Option.bind_eq_none_iff.mpr fun j _ => hdrop j,
              Option.bind_eq_none_iff.mpr fun j _ => hdrop j]
        | some schema => rw [h.same_member hk (by rw [hlookup]; rfl)]

theorem lookup_of_patchOf {keys : List String} {k : String}
    (hkeys : forall m, m ∈ patch -> m.1 ∈ keys) (hk : k ∉ keys) : patch.lookup k = none :=
  Members.lookup_eq_none_of_ne fun m hm heq => hk (heq ▸ hkeys m hm)

/-- A patch of other members keeps the two servers as they were. -/
theorem mirrors_merge_other (h : Mirrors p q) (hsorted : Members.Sorted patch)
    (hcount : patch.lookup webBackgroundIneffectiveRestartsKey = none)
    (hevents : patch.lookup deferredEventsKey = none) :
    Mirrors (prunedMembers p patch) (Json.mergeMembers q patch) ∧
      (Clean (Json.mergeMembers q patch) <-> Clean q) := by
  have hreplaces : ReplacesEvents patch := by
    intro v hv
    rw [hevents] at hv
    cases hv
  have hcountSame : (Json.mergeMembers q patch).lookup webBackgroundIneffectiveRestartsKey =
      q.lookup webBackgroundIneffectiveRestartsKey := by
    rw [Json.lookup_mergeMembers _ _ _ hsorted, hcount]
  have heventsSame : (Json.mergeMembers q patch).lookup deferredEventsKey =
      q.lookup deferredEventsKey := by
    rw [Json.lookup_mergeMembers _ _ _ hsorted, hevents]
  constructor
  · constructor
    · exact mirror_member_merge h hsorted hreplaces
    · rw [hcountSame]
      exact h.count
    · rw [heventsSame]
      exact h.events
  · constructor
    · intro hclean
      exact ⟨hcountSame ▸ hclean.count, heventsSame ▸ hclean.events⟩
    · intro hclean
      exact ⟨hcountSame.symm ▸ hclean.count, heventsSame.symm ▸ hclean.events⟩

/-- A count is clean exactly when it is zero. -/
theorem mirrors_merge_count (h : Mirrors p q) (hclean : Clean q) (n : Int) :
    Mirrors (prunedMembers p [(webBackgroundIneffectiveRestartsKey, .int n)])
        (Json.mergeMembers q [(webBackgroundIneffectiveRestartsKey, .int n)]) ∧
      (Clean (Json.mergeMembers q [(webBackgroundIneffectiveRestartsKey, .int n)]) <-> n = 0) := by
  have hlookup := fun k => Json.lookup_mergeMembers k
    [(webBackgroundIneffectiveRestartsKey, .int n)] q (List.pairwise_singleton _ _)
  have hcount : (Json.mergeMembers q [(webBackgroundIneffectiveRestartsKey, .int n)]).lookup
      webBackgroundIneffectiveRestartsKey = some (.int n) := hlookup _
  have hevents : (Json.mergeMembers q [(webBackgroundIneffectiveRestartsKey, .int n)]).lookup
      deferredEventsKey = q.lookup deferredEventsKey := hlookup _
  constructor
  · constructor
    · refine mirror_member_merge h (List.pairwise_singleton _ _) ?_
      intro v hv
      cases hv
    · exact Or.inr ⟨n, hcount⟩
    · rw [hevents]
      exact h.events
  · constructor
    · intro hafter
      exact hafter.count n hcount
    · intro hzero
      refine ⟨?_, hevents.symm ▸ hclean.events⟩
      intro m hm
      rw [hcount] at hm
      cases hm
      exact hzero

/-- A list of events is clean exactly when its events are declared. -/
theorem mirrors_merge_events (h : Mirrors p q) (hclean : Clean q) {items : List Json}
    (hobjects : AllObjects items) :
    Mirrors (prunedMembers p [(deferredEventsKey, .arr items)])
        (Json.mergeMembers q [(deferredEventsKey, .arr items)]) ∧
      (Clean (Json.mergeMembers q [(deferredEventsKey, .arr items)]) <->
        forall item, item ∈ items -> DeclaredEvent item) := by
  have hlookup := fun k => Json.lookup_mergeMembers k [(deferredEventsKey, .arr items)] q
    (List.pairwise_singleton _ _)
  have hcount : (Json.mergeMembers q [(deferredEventsKey, .arr items)]).lookup
      webBackgroundIneffectiveRestartsKey = q.lookup webBackgroundIneffectiveRestartsKey :=
    hlookup _
  have hevents : (Json.mergeMembers q [(deferredEventsKey, .arr items)]).lookup
      deferredEventsKey = some (.arr items) := hlookup _
  constructor
  · constructor
    · refine mirror_member_merge h (List.pairwise_singleton _ _) ?_
      intro v hv
      cases hv
      exact Or.inr ⟨items, rfl⟩
    · rw [hcount]
      exact h.count
    · exact Or.inr ⟨items, hevents, hobjects⟩
  · constructor
    · intro hafter
      exact hafter.events items hevents
    · intro hdeclared
      refine ⟨hcount.symm ▸ hclean.count, ?_⟩
      intro items' hitems'
      rw [hevents] at hitems'
      cases hitems'
      exact hdeclared

theorem mirrors_merge_clear (h : Mirrors p q) (hclean : Clean q) :
    Mirrors (prunedMembers p [(deferredEventsKey, .null)])
        (Json.mergeMembers q [(deferredEventsKey, .null)]) ∧
      Clean (Json.mergeMembers q [(deferredEventsKey, .null)]) := by
  have hlookup := fun k => Json.lookup_mergeMembers k [(deferredEventsKey, .null)] q
    (List.pairwise_singleton _ _)
  have hcount : (Json.mergeMembers q [(deferredEventsKey, .null)]).lookup
      webBackgroundIneffectiveRestartsKey = q.lookup webBackgroundIneffectiveRestartsKey :=
    hlookup _
  have hevents : (Json.mergeMembers q [(deferredEventsKey, .null)]).lookup
      deferredEventsKey = none := hlookup _
  constructor
  · constructor
    · refine mirror_member_merge h (List.pairwise_singleton _ _) ?_
      intro v hv
      cases hv
      exact Or.inl rfl
    · rw [hcount]
      exact h.count
    · exact Or.inl hevents
  · refine ⟨hcount.symm ▸ hclean.count, ?_⟩
    intro items hitems
    rw [hevents] at hitems
    cases hitems

theorem mem_keys_foldl_insert {a : String} : forall (entry : List (String × String))
    (start : List (String × Json)),
    a ∈ (entry.foldl (fun ms pair => Members.insert pair.1 (.str pair.2) ms) start).map Prod.fst <->
      a ∈ entry.map Prod.fst ∨ a ∈ start.map Prod.fst
  | [], _ => by simp
  | pair :: rest, start => by
      rw [List.foldl_cons, mem_keys_foldl_insert rest, Members.mem_keys_insert, List.map_cons,
        List.mem_cons]
      exact or_left_comm.trans or_assoc.symm

/-- The keys of an encoded event are those of the entry. -/
theorem declaredEvent_encodeEvent (entry : List (String × String)) :
    DeclaredEvent (encodeEvent entry) <->
      forall pair, pair ∈ entry -> pair.1 ∈ eventProperties.map Prod.fst := by
  have hkeys := fun a => @mem_keys_foldl_insert a entry []
  constructor
  · intro h pair hpair
    rcases List.mem_map.mp ((hkeys pair.1).mpr (Or.inl (List.mem_map_of_mem hpair))) with
      ⟨m, hm, heq⟩
    rw [← heq]
    exact h m hm
  · intro h m hm
    rcases (hkeys m.1).mp (List.mem_map_of_mem hm) with hentry | hnil
    · rcases List.mem_map.mp hentry with ⟨pair, hpair, heq⟩
      rw [← heq]
      exact h pair hpair
    · cases hnil

theorem after_sent {m : Mutation}
    (h : m.op.buildPatch unicode m.protectedIds p = .ok (some (.obj patch))) :
    Served.after unicode ⟨.obj p, .obj q⟩ m =
      ⟨.obj (prunedMembers p patch), .obj (Json.mergeMembers q patch)⟩ := by
  simp only [Served.after, readStatus_obj, bind, Except.bind, h, Json.mergePatch,
    Json.members, statusSchema, Schema.prune_obj, prunedMembers]

theorem after_skipped {m : Mutation}
    (h : forall patch, m.op.buildPatch unicode m.protectedIds p ≠ .ok (some patch)) :
    Served.after unicode ⟨.obj p, .obj q⟩ m = ⟨.obj p, .obj q⟩ := by
  unfold Served.after
  rw [readStatus_obj]
  cases hbuild : m.op.buildPatch unicode m.protectedIds p with
  | error e => simp only [bind, Except.bind, hbuild]
  | ok sent =>
      cases sent with
      | none => simp only [bind, Except.bind, hbuild]
      | some patch => exact absurd hbuild (h patch)

/-- A mutation of the maps or the timestamps writes what the schema declares. -/
theorem after_other (h : Mirrors p q) {m : Mutation}
    (hcount : webBackgroundIneffectiveRestartsKey ∉ m.op.fields)
    (hevents : deferredEventsKey ∉ m.op.fields) :
    exists p' q', Served.after unicode ⟨.obj p, .obj q⟩ m = ⟨.obj p', .obj q'⟩ ∧
      Mirrors p' q' ∧ (Clean q' <-> Clean q) := by
  by_cases hsent : exists patch, m.op.buildPatch unicode m.protectedIds p = .ok (some patch)
  · rcases hsent with ⟨patch, hpatch⟩
    rcases patchOf_buildPatch hpatch with ⟨members, hobj, hsorted, hkeys⟩
    subst hobj
    exact ⟨_, _, after_sent hpatch, mirrors_merge_other h hsorted
      (lookup_of_patchOf hkeys hcount) (lookup_of_patchOf hkeys hevents)⟩
  · exact ⟨p, q, after_skipped fun patch hpatch => hsent ⟨patch, hpatch⟩, h, Iff.rfl⟩

theorem after_count (h : Mirrors p q) (hclean : Clean q)
    (protectedIds : StatusField -> List String) (n : Int) :
    exists p' q', Served.after unicode ⟨.obj p, .obj q⟩
        ⟨protectedIds, .setWebBackgroundIneffectiveRestarts n⟩ = ⟨.obj p', .obj q'⟩ ∧
      Mirrors p' q' ∧ (Clean q' <-> n = 0) := by
  -- The served status never has a count, so the write is never skipped.
  have hserved : getMember p webBackgroundIneffectiveRestartsKey = .null := by
    unfold getMember
    rw [h.count_absent]
    rfl
  have hsent : (StoreMutation.setWebBackgroundIneffectiveRestarts n).buildPatch unicode
      protectedIds p = .ok (some (.obj [(webBackgroundIneffectiveRestartsKey, .int n)])) := by
    simp [StoreMutation.buildPatch, scalarPatch, hserved, Json.pyEq, Json.isNull]
  exact ⟨_, _, after_sent hsent, mirrors_merge_count h hclean n⟩

/-- The events that are served are objects with declared members. -/
theorem Mirrors.served_events (h : Mirrors p q) :
    forall item, item ∈ storedEvents p -> (exists ms, item = .obj ms) ∧ DeclaredEvent item := by
  have hmember := h.member deferredEventsKey
  unfold storedEvents getMember
  rcases h.events with hnone | ⟨items, hitems, hobjects⟩
  · rw [hmember, hnone]
    intro item hitem
    cases hitem
  · rw [hmember, hitems, Option.bind_some, pruneAt_events]
    intro item hitem
    rcases List.mem_map.mp hitem with ⟨raw, hraw, heq⟩
    rcases hobjects raw hraw with ⟨ms, hms⟩
    rw [← heq, hms]
    exact ⟨⟨_, prune_event ms⟩, declaredEvent_prune ms⟩

theorem after_append (h : Mirrors p q) (hclean : Clean q)
    (protectedIds : StatusField -> List String) (entry : List (String × String))
    (maxEntries : Option Nat) :
    exists p' q', Served.after unicode ⟨.obj p, .obj q⟩
        ⟨protectedIds, .appendDeferredEvent entry maxEntries⟩ = ⟨.obj p', .obj q'⟩ ∧
      Mirrors p' q' ∧
      (Clean q' <-> (StoreMutation.appendDeferredEvent entry maxEntries).Declared (.obj p)) := by
  rcases appendPatch_cases entry maxEntries p with ⟨⟨limit, hlimit, hfull⟩, hskip⟩ |
    ⟨hroom, hsent⟩
  · refine ⟨p, q, after_skipped ?_, h, ?_⟩
    · intro patch
      simp [StoreMutation.buildPatch, hskip]
    · constructor
      · intro _ hbelow
        exact absurd (hbelow limit hlimit) (Nat.not_lt_of_le hfull)
      · intro _
        exact hclean
  · have hobjects : AllObjects (storedEvents p ++ [encodeEvent entry]) := by
      intro item hitem
      rcases List.mem_append.mp hitem with hold | hnew
      · exact (h.served_events item hold).1
      · rw [List.mem_singleton.mp hnew]
        exact ⟨_, rfl⟩
    rcases mirrors_merge_events h hclean hobjects with ⟨hmirrors, hiff⟩
    refine ⟨_, _, after_sent (congrArg Except.ok hsent), hmirrors, hiff.trans ?_⟩
    rw [StoreMutation.Declared, ← declaredEvent_encodeEvent]
    constructor
    · intro hall _
      exact hall _ (List.mem_append_right _ (List.mem_singleton_self _))
    · intro hentry item hitem
      rcases List.mem_append.mp hitem with hold | hnew
      · exact (h.served_events item hold).2
      · rw [List.mem_singleton.mp hnew]
        exact hentry hroom

theorem after_clear (h : Mirrors p q) (hclean : Clean q)
    (protectedIds : StatusField -> List String) :
    exists p' q', Served.after unicode ⟨.obj p, .obj q⟩
        ⟨protectedIds, .clearDeferredEvents⟩ = ⟨.obj p', .obj q'⟩ ∧
      Mirrors p' q' ∧ Clean q' := by
  by_cases hstored : (getMember p deferredEventsKey).truthy = true
  · have hsent : StoreMutation.clearDeferredEvents.buildPatch unicode protectedIds p =
        .ok (some (.obj [(deferredEventsKey, .null)])) := by
      simp [StoreMutation.buildPatch, clearPatch, hstored]
    exact ⟨_, _, after_sent hsent, mirrors_merge_clear h hclean⟩
  · refine ⟨p, q, after_skipped ?_, h, hclean⟩
    intro patch
    simp [StoreMutation.buildPatch, clearPatch, hstored]

/-- One mutation keeps the two servers in step, and their getters in agreement
exactly when it writes what the schema declares. -/
theorem after_mirrors (h : Mirrors p q) (hclean : Clean q) (m : Mutation) :
    exists p' q', Served.after unicode ⟨.obj p, .obj q⟩ m = ⟨.obj p', .obj q'⟩ ∧
      Mirrors p' q' ∧ (Clean q' <-> m.op.Declared (.obj p)) := by
  rcases m with ⟨protectedIds, op⟩
  have hother : op.fields.contains webBackgroundIneffectiveRestartsKey = false ->
      op.fields.contains deferredEventsKey = false -> op.Declared (.obj p) ->
      exists p' q', Served.after unicode ⟨.obj p, .obj q⟩ ⟨protectedIds, op⟩ =
          ⟨.obj p', .obj q'⟩ ∧ Mirrors p' q' ∧ (Clean q' <-> op.Declared (.obj p)) := by
    intro hcount hevents hdeclared
    have hother := @after_other unicode p q h ⟨protectedIds, op⟩ (by simpa using hcount)
      (by simpa using hevents)
    rcases hother with ⟨p', q', hafter, hmirrors, hiff⟩
    exact ⟨p', q', hafter, hmirrors, hiff.trans (iff_of_true hclean hdeclared)⟩
  cases op with
  | setWebBackgroundIneffectiveRestarts n => exact after_count h hclean protectedIds n
  | appendDeferredEvent entry maxEntries =>
      exact after_append h hclean protectedIds entry maxEntries
  | clearDeferredEvents =>
      rcases @after_clear unicode p q h hclean protectedIds with ⟨p', q', hafter, hmirrors, hclean'⟩
      exact ⟨p', q', hafter, hmirrors, iff_of_true hclean' trivial⟩
  | _ => exact hother rfl rfl trivial

end Step

/-!
## Every sequence of mutations
-/

section Sequences

variable (unicode : UnicodeData)

theorem served_snoc (ms : List Mutation) (m : Mutation) :
    served unicode (ms ++ [m]) = Served.after unicode (served unicode ms) m := by
  unfold served
  rw [List.foldl_append]
  rfl

/-- As long as every mutation so far wrote what the schema declares, the
servers are in step and nothing was dropped. -/
theorem served_clean (ms : List Mutation) (n : Nat)
    (h : forall (i : Nat) (m : Mutation), i < n -> ms[i]? = some m ->
      m.op.Declared (served unicode (ms.take i)).pruned) :
    exists p q, served unicode (ms.take n) = ⟨.obj p, .obj q⟩ ∧ Mirrors p q ∧ Clean q := by
  induction n with
  | zero => exact ⟨[], [], rfl, mirrors_empty, clean_empty⟩
  | succ n ih =>
      rcases ih fun i m hi hm => h i m (Nat.lt_succ_of_lt hi) hm with
        ⟨p, q, hserved, hmirrors, hclean⟩
      cases hnext : ms[n]? with
      | none =>
          rw [List.take_add_one, hnext, Option.toList_none, List.append_nil]
          exact ⟨p, q, hserved, hmirrors, hclean⟩
      | some m =>
          have hdeclared := h n m (Nat.lt_succ_self n) hnext
          rw [hserved] at hdeclared
          rcases @after_mirrors unicode p q hmirrors hclean m with
            ⟨p', q', hafter, hmirrors', hiff⟩
          rw [List.take_add_one, hnext, Option.toList_some, served_snoc, hserved, hafter]
          exact ⟨p', q', rfl, hmirrors', hiff.mpr hdeclared⟩

/-- The getters agree all along a sequence of mutations exactly when none of
them writes what the schema drops. -/
theorem served_agrees_iff (ms : List Mutation) :
    (forall n, (served unicode (ms.take n)).Agrees unicode) <->
      forall (n : Nat) (m : Mutation), ms[n]? = some m ->
        m.op.Declared (served unicode (ms.take n)).pruned := by
  constructor
  · intro hagrees n
    induction n using Nat.strong_induction_on with
    | _ n ih =>
        intro m hm
        rcases served_clean unicode ms n fun i m' hi hm' => ih i hi m' hm' with
          ⟨p, q, hserved, hmirrors, hclean⟩
        rcases @after_mirrors unicode p q hmirrors hclean m with
          ⟨p', q', hafter, hmirrors', hiff⟩
        have hnext := hagrees (n + 1)
        rw [List.take_add_one, hm, Option.toList_some, served_snoc, hserved, hafter] at hnext
        rw [hserved]
        exact hiff.mp (hmirrors'.agrees_iff.mp hnext)
  · intro hdeclared n
    rcases served_clean unicode ms n fun i m _ hm => hdeclared i m hm with
      ⟨p, q, hserved, hmirrors, hclean⟩
    rw [hserved]
    exact hmirrors.agrees_iff.mpr hclean

end Sequences

/-- A count of one is dropped by the cluster and reads as zero. -/
theorem served_count_dropped :
    ¬ (served UnicodeData.ascii
      [⟨fun _ => [], .setWebBackgroundIneffectiveRestarts 1⟩]).Agrees UnicodeData.ascii := by
  intro h
  have hcount := h .webBackgroundIneffectiveRestarts
  revert hcount
  decide +kernel

end StatusDocument
end OpenStudioOperator
