import OpenStudioOperator.Foundation.ConcurrentWriters
import OpenStudioOperator.StatusPatches

/-!
# Concurrent mutations

The store's mutations as concurrent writers of one resource.  Mutations of
distinct map entries commute: the status they end in does not depend on how
their reads and patches interleave.
-/

namespace OpenStudioOperator
namespace StatusDocument

open Foundation

/-!
## The resource
-/

/-- The stored resource, as far as a patch of the status meets it. -/
structure Resource where
  status : Json
  version : Nat
deriving DecidableEq

/-- The body that a mutation sends. -/
def patchBody (patch : Json) : Json :=
  .obj [("status", patch)]

/-- The body names a version of the resource that is not the stored one. -/
def Resource.Stale (r : Resource) (body : Json) : Prop :=
  exists version, ((body.member? "metadata").bind fun m => m.member? "resourceVersion") =
    some version ∧ version ≠ .str (toString r.version)

/-- The resource after a body was accepted. -/
def Resource.receive (body : Json) (r : Resource) : Resource :=
  ⟨r.status.mergePatch ((body.member? "status").getD (.obj [])), r.version + 1⟩

/-- A body carries no version, so it is never stale. -/
theorem not_stale_patchBody (r : Resource) (patch : Json) : ¬ r.Stale (patchBody patch) := by
  intro h
  rcases h with ⟨version, hversion, _⟩
  cases hversion

section Build

variable (unicode : UnicodeData) (protectedIds : StatusField -> List String)

/-- The status patch that a mutation computes from the resource it read. -/
def StoreMutation.patchFor (op : StoreMutation) (status : Json) : Except PyExc (Option Json) :=
  readStatus status >>= op.buildPatch unicode protectedIds

/-- The body that a mutation computes from the resource it read. -/
def StoreMutation.buildBody (op : StoreMutation) (r : Resource) :
    Except PyExc (Option Json) :=
  (op.patchFor unicode protectedIds r.status).map (Option.map patchBody)

end Build

/-!
## Entry writes
-/

/-- An entry of a map and what is written there; clearing writes a null. -/
structure EntryWrite where
  field : StatusField
  key : String
  encoded : Json

/-- The map-entry mutations. -/
def StoreMutation.entryWrite? : StoreMutation -> Option EntryWrite
  | .setSoftStop id record => some ⟨.softStops, id, record.toDict⟩
  | .clearSoftStop id => some ⟨.softStops, id, .null⟩
  | .setRequeue id record => some ⟨.requeues, id, record.toDict⟩
  | .setStartedSince id at' => some ⟨.startedSince, id, timestamp at'⟩
  | .clearStartedSince id => some ⟨.startedSince, id, .null⟩
  | .setArchivedAnalysis id record => some ⟨.archivedAnalyses, id, record.toDict⟩
  | .clearArchivedAnalysis id => some ⟨.archivedAnalyses, id, .null⟩
  | .setStopRecord id record => some ⟨.stoppedAnalyses, id, record.toDict⟩
  | .pruneStopRecord id => some ⟨.stoppedAnalyses, id, .null⟩
  | _ => none

/-- The entry of a map, if the map is there and has it. -/
def lookupEntry (status : Json) (field : StatusField) (key : String) : Option Json :=
  (getMember status.members field.key).members.lookup key

namespace EntryWrite

variable (w : EntryWrite)

def patch : Json :=
  .obj [(w.field.key, .obj [(w.key, w.encoded)])]

/-- The stored value already compares equal, so nothing is sent. -/
def Skips (status : Json) : Prop :=
  ((lookupEntry status w.field w.key).getD .null).pyEq w.encoded = true

instance decidableSkips (status : Json) : Decidable (w.Skips status) :=
  inferInstanceAs (Decidable (_ = true))

/-- What becomes of the entry. -/
def outcome (status : Json) : Option Json :=
  if w.Skips status then lookupEntry status w.field w.key
  else Json.mergedMember (lookupEntry status w.field w.key) w.encoded

/-- The status after the write alone, below the size cap. -/
def settle (status : Json) : Json :=
  if w.Skips status then status else status.mergePatch w.patch

/-- Both write the same entry. -/
def SamePlace (w' : EntryWrite) : Prop :=
  w.field = w'.field ∧ w.key = w'.key

end EntryWrite

theorem buildPatch_entryWrite {unicode : UnicodeData} {protectedIds : StatusField -> List String}
    {op : StoreMutation} {w : EntryWrite} (h : op.entryWrite? = some w)
    (ms : List (String × Json)) :
    op.buildPatch unicode protectedIds ms =
      .ok (entryPatch (protectedIds w.field) w.field w.key w.encoded ms) := by
  cases op <;> cases h <;> rfl

/-- Below the cap a mutation sends its own entry or nothing. -/
theorem patchFor_entryWrite {unicode : UnicodeData} {protectedIds : StatusField -> List String}
    {op : StoreMutation} {w : EntryWrite} (h : op.entryWrite? = some w) {status : Json}
    (hcap : (getMember status.members w.field.key).members.length < statusMapMaxEntries) :
    (exists e, op.patchFor unicode protectedIds status = .error e) ∨
      (w.Skips status ∧ op.patchFor unicode protectedIds status = .ok none) ∨
      (¬ w.Skips status ∧ op.patchFor unicode protectedIds status = .ok (some w.patch)) := by
  unfold StoreMutation.patchFor
  cases hread : readStatus status with
  | error e => exact Or.inl ⟨e, rfl⟩
  | ok ms =>
      right
      have hms := readStatus_members hread
      subst hms
      simp only [bind, Except.bind, buildPatch_entryWrite h]
      rcases entryPatch_cases (protectedIds w.field) w.field w.key w.encoded status.members with
        ⟨hsame, hskip⟩ | ⟨hdiff, _, hsent⟩ | ⟨_, _, hfull, _⟩
      · exact Or.inl ⟨hsame, congrArg Except.ok hskip⟩
      · refine Or.inr ⟨?_, congrArg Except.ok hsent⟩
        intro hskips
        unfold EntryWrite.Skips at hskips
        rw [show ((lookupEntry status w.field w.key).getD .null).pyEq w.encoded = false from hdiff]
          at hskips
        cases hskips
      · exact absurd hfull (Nat.not_le_of_lt hcap)

theorem buildBody_entryWrite {unicode : UnicodeData} {protectedIds : StatusField -> List String}
    {op : StoreMutation} {w : EntryWrite} (h : op.entryWrite? = some w) {r : Resource}
    (hcap : (getMember r.status.members w.field.key).members.length < statusMapMaxEntries) :
    (exists e, op.buildBody unicode protectedIds r = .error e) ∨
      (w.Skips r.status ∧ op.buildBody unicode protectedIds r = .ok none) ∨
      (¬ w.Skips r.status ∧ op.buildBody unicode protectedIds r = .ok (some (patchBody w.patch))) := by
  unfold StoreMutation.buildBody
  rcases @patchFor_entryWrite unicode protectedIds op w h r.status hcap with
    ⟨e, herror⟩ | ⟨hskip, hnone⟩ | ⟨hwrites, hsent⟩
  · exact Or.inl ⟨e, by rw [herror]; rfl⟩
  · exact Or.inr (Or.inl ⟨hskip, by rw [hnone]; rfl⟩)
  · exact Or.inr (Or.inr ⟨hwrites, by rw [hsent]; rfl⟩)

theorem StatusField.key_injective : Function.Injective StatusField.key := by
  intro f f' h
  cases f <;> cases f' <;> first | rfl | (revert h; decide)

section OnePatch

variable (w : EntryWrite) (status : Json)

theorem mergePatch_patch :
    status.mergePatch w.patch =
      .obj (Json.mergeMembers status.members [(w.field.key, .obj [(w.key, w.encoded)])]) := by
  rw [EntryWrite.patch, Json.mergePatch]

/-- The patch leaves the other members. -/
theorem lookup_patch_other {k : String} (hk : k ≠ w.field.key) :
    (status.mergePatch w.patch).members.lookup k = status.members.lookup k := by
  rw [mergePatch_patch, Json.members, Json.lookup_mergeMembers _ _ _ (List.pairwise_singleton _ _),
    List.lookup_cons, beq_eq_false_iff_ne.mpr hk]
  rfl

/-- The patch merges its entry into the map. -/
theorem lookup_patch_field :
    (status.mergePatch w.patch).members.lookup w.field.key =
      some (.obj (Json.mergeMembers (getMember status.members w.field.key).members
        [(w.key, w.encoded)])) := by
  rw [mergePatch_patch, Json.members, Json.lookup_mergeMembers _ _ _ (List.pairwise_singleton _ _),
    List.lookup_cons_self]
  rfl

theorem getMember_patch_other {field : StatusField} (hfield : field ≠ w.field) :
    getMember (status.mergePatch w.patch).members field.key =
      getMember status.members field.key := by
  unfold getMember
  rw [lookup_patch_other w status fun h => hfield (StatusField.key_injective h)]

theorem getMember_patch_field :
    getMember (status.mergePatch w.patch).members w.field.key =
      .obj (Json.mergeMembers (getMember status.members w.field.key).members
        [(w.key, w.encoded)]) := by
  rw [getMember, lookup_patch_field]
  rfl

theorem lookupEntry_patch_self :
    lookupEntry (status.mergePatch w.patch) w.field w.key =
      Json.mergedMember (lookupEntry status w.field w.key) w.encoded := by
  unfold lookupEntry
  rw [getMember_patch_field, Json.members,
    Json.lookup_mergeMembers _ _ _ (List.pairwise_singleton _ _), List.lookup_cons_self]

theorem lookupEntry_patch_other {field : StatusField} {key : String}
    (h : ¬ (w.field = field ∧ w.key = key)) :
    lookupEntry (status.mergePatch w.patch) field key = lookupEntry status field key := by
  unfold lookupEntry
  by_cases hfield : field = w.field
  · subst hfield
    have hkey : key ≠ w.key := fun heq => h ⟨rfl, heq.symm⟩
    rw [getMember_patch_field, Json.members,
      Json.lookup_mergeMembers _ _ _ (List.pairwise_singleton _ _), List.lookup_cons,
      beq_eq_false_iff_ne.mpr hkey]
    rfl
  · rw [getMember_patch_other w status hfield]

end OnePatch

/-- The status and each of its maps list their keys in order. -/
structure SortedMaps (status : Json) : Prop where
  members : Members.Sorted status.members
  entries : forall field : StatusField,
    Members.Sorted (getMember status.members field.key).members

theorem sortedMaps_of_canonical {status : Json} (h : status.Canonical) : SortedMaps status := by
  refine ⟨h.members.1, ?_⟩
  intro field
  unfold getMember
  cases hlookup : status.members.lookup field.key with
  | none => exact List.Pairwise.nil
  | some v => exact (h.members.2.lookup hlookup).members.1

theorem sortedMaps_patch {status : Json} (h : SortedMaps status) (w : EntryWrite) :
    SortedMaps (status.mergePatch w.patch) := by
  constructor
  · rw [mergePatch_patch]
    exact Json.sorted_mergeMembers _ h.members
  · intro field
    by_cases hfield : field = w.field
    · subst hfield
      rw [getMember_patch_field]
      exact Json.sorted_mergeMembers _ (h.entries w.field)
    · rw [getMember_patch_other w status hfield]
      exact h.entries field

/-!
## What a set of applied writes shows
-/

/-- The status is the initial one with the writes in `done` merged into it. -/
structure Shows {writer : Type} (initial : Json) (write : writer -> EntryWrite)
    (done : writer -> Prop) (status : Json) : Prop where
  untouched : (forall i, ¬ done i) -> status = initial
  object : forall i, done i -> exists ms, status = .obj ms
  other : forall k, (forall i, done i -> (write i).field.key ≠ k) ->
    status.members.lookup k = initial.members.lookup k
  field : forall i, done i ->
    exists entries, status.members.lookup (write i).field.key = some (.obj entries)
  written : forall i, done i ->
    lookupEntry status (write i).field (write i).key =
      Json.mergedMember (lookupEntry initial (write i).field (write i).key) (write i).encoded
  kept : forall field key, (forall i, done i -> ¬ ((write i).field = field ∧ (write i).key = key)) ->
    lookupEntry status field key = lookupEntry initial field key
  sorted : SortedMaps status

section Shows

variable {writer : Type} {initial status status' : Json} {write : writer -> EntryWrite}
  {done : writer -> Prop}

theorem shows_initial (h : SortedMaps initial) :
    Shows initial write (fun _ => False) initial where
  untouched := fun _ => rfl
  object := fun _ hi => hi.elim
  other := fun _ _ => rfl
  field := fun _ hi => hi.elim
  written := fun _ hi => hi.elim
  kept := fun _ _ _ => rfl
  sorted := h

/-- One more write. -/
theorem Shows.patch (h : Shows initial write done status)
    (hdistinct : forall i j, i ≠ j -> ¬ (write i).SamePlace (write j)) {i : writer}
    (hnew : ¬ done i) :
    Shows initial write (fun j => done j ∨ j = i) (status.mergePatch (write i).patch) := by
  constructor
  · intro hnone
    exact absurd (Or.inr rfl) (hnone i)
  · intro j _
    exact ⟨_, mergePatch_patch _ _⟩
  · intro k hk
    rw [lookup_patch_other _ _ fun heq => hk i (Or.inr rfl) heq.symm]
    exact h.other k fun j hj => hk j (Or.inl hj)
  · intro j hj
    by_cases hfield : (write j).field = (write i).field
    · rw [hfield]
      exact ⟨_, lookup_patch_field _ _⟩
    · rcases hj with hdone | heq
      · rw [lookup_patch_other _ _ fun heq => hfield (StatusField.key_injective heq)]
        exact h.field j hdone
      · exact absurd (congrArg (fun i => (write i).field) heq) hfield
  · intro j hj
    by_cases heq : j = i
    · subst heq
      rw [lookupEntry_patch_self]
      congr 1
      exact h.kept _ _ fun i' hi' => hdistinct i' j fun h' => hnew (h' ▸ hi')
    · rcases hj with hdone | hsame
      · rw [lookupEntry_patch_other _ _ (hdistinct i j (Ne.symm heq))]
        exact h.written j hdone
      · exact absurd hsame heq
  · intro field key hkey
    rw [lookupEntry_patch_other _ _ (hkey i (Or.inr rfl))]
    exact h.kept field key fun j hj => hkey j (Or.inl hj)
  · exact sortedMaps_patch h.sorted (write i)

/-- The applied writes determine the entries of a map. -/
theorem Shows.entry_unique (h : Shows initial write done status)
    (h' : Shows initial write done status') (field : StatusField) (key : String) :
    lookupEntry status field key = lookupEntry status' field key := by
  by_cases hkey : exists i, done i ∧ (write i).field = field ∧ (write i).key = key
  · rcases hkey with ⟨i, hi, hfield, hkey⟩
    rw [← hfield, ← hkey, h.written i hi, h'.written i hi]
  · have hnone : forall i, done i -> ¬ ((write i).field = field ∧ (write i).key = key) :=
      fun i hi hplace => hkey ⟨i, hi, hplace⟩
    rw [h.kept _ _ hnone, h'.kept _ _ hnone]

/-- The applied writes determine every member. -/
theorem Shows.member_unique (h : Shows initial write done status)
    (h' : Shows initial write done status') (k : String) :
    status.members.lookup k = status'.members.lookup k := by
  by_cases hk : exists i, done i ∧ (write i).field.key = k
  · rcases hk with ⟨i, hi, hkey⟩
    rcases h.field i hi with ⟨entries, hentries⟩
    rcases h'.field i hi with ⟨entries', hentries'⟩
    have hsorted := h.sorted.entries (write i).field
    have hsorted' := h'.sorted.entries (write i).field
    have hentry := h.entry_unique h' (write i).field
    unfold lookupEntry getMember at hentry
    unfold getMember at hsorted hsorted'
    rw [hentries] at hsorted hentry
    rw [hentries'] at hsorted' hentry
    have hsame : entries = entries' := Members.ext hsorted hsorted' hentry
    rw [← hkey, hentries, hentries', hsame]
  · have hnone : forall i, done i -> (write i).field.key ≠ k :=
      fun i hi hkey => hk ⟨i, hi, hkey⟩
    rw [h.other k hnone, h'.other k hnone]

/-- The applied writes determine the status. -/
theorem Shows.unique (h : Shows initial write done status) (h' : Shows initial write done status') :
    status = status' := by
  by_cases hsome : exists i, done i
  · rcases hsome with ⟨i, hi⟩
    have hlookup := h.member_unique h'
    have hsorted := h.sorted.members
    have hsorted' := h'.sorted.members
    rcases h.object i hi with ⟨ms, hms⟩
    rcases h'.object i hi with ⟨ms', hms'⟩
    subst hms hms'
    exact congrArg Json.obj (Members.ext hsorted hsorted' hlookup)
  · have hnone : forall i, ¬ done i := fun i hi => hsome ⟨i, hi⟩
    rw [h.untouched hnone, h'.untouched hnone]

end Shows

/-!
## Runs of disjoint writes
-/

/-- Every map is below the size cap. -/
def Resource.BelowCap (r : Resource) : Prop :=
  forall field : StatusField,
    (getMember r.status.members field.key).members.length < statusMapMaxEntries

section Runs

variable (unicode : UnicodeData) (protectedIds : StatusField -> List String)
variable {writer : Type} [DecidableEq writer]

/-- The runs of concurrent mutations in which the maps stay below the cap.  Any
patch may be answered by a conflict. -/
def RunBelowCap (ops : writer -> StoreMutation) (initial : Resource)
    (c : Writers writer Resource Json) : Prop :=
  Writers.RunIn (fun i => (ops i).buildBody unicode protectedIds) Resource.receive
    (fun _ _ => True) maxConflictRetries (fun c => c.state.BelowCap) initial c

/-- Where the mutations are: each returned one has been applied or had nothing
to write. -/
structure Progress (initial : Json) (write : writer -> EntryWrite) (done : writer -> Prop)
    (c : Writers writer Resource Json) : Prop where
  shown : Shows initial write done c.state.status
  done_returned : forall i, done i -> c.phase i = .returned
  done_writes : forall i, done i -> ¬ (write i).Skips initial
  patching : forall i attempt body, c.phase i = .patching attempt body ->
    body = patchBody (write i).patch ∧ ¬ (write i).Skips initial
  returned : forall i, c.phase i = .returned -> done i ∨ (write i).Skips initial

omit [DecidableEq writer] in
theorem progress_start {initial : Resource} {write : writer -> EntryWrite}
    (h : SortedMaps initial.status) :
    Progress initial.status write (fun _ => False)
      (Writers.start initial : Writers writer Resource Json) where
  shown := shows_initial h
  done_returned := fun _ hi => hi.elim
  done_writes := fun _ hi => hi.elim
  patching := fun _ _ _ hphase => by cases hphase
  returned := fun _ hphase => by cases hphase

section Step

variable {unicode protectedIds} {initial : Json} {write : writer -> EntryWrite}
  {done : writer -> Prop} {c : Writers writer Resource Json} {ops : writer -> StoreMutation}

omit [DecidableEq writer] in
/-- A writer that has not finished reads its own entry as it was. -/
theorem Progress.skips_iff (h : Progress initial write done c)
    (hdistinct : forall i j, i ≠ j -> ¬ (write i).SamePlace (write j)) {i : writer}
    (hnew : ¬ done i) : (write i).Skips c.state.status <-> (write i).Skips initial := by
  unfold EntryWrite.Skips
  rw [h.shown.kept _ _ fun j hj => hdistinct j i fun heq => hnew (heq ▸ hj)]

/-- A step that leaves the status and moves one writer that has not been applied. -/
theorem Progress.move (h : Progress initial write done c) {i : writer} (hnew : ¬ done i)
    {phase : WriterPhase Json}
    (hpatching : forall attempt body, phase = .patching attempt body ->
      body = patchBody (write i).patch ∧ ¬ (write i).Skips initial)
    (hreturned : phase = .returned -> (write i).Skips initial) :
    Progress initial write done ⟨c.state, Function.update c.phase i phase⟩ := by
  constructor
  · exact h.shown
  · intro j hj
    have hne : j ≠ i := fun heq => hnew (heq ▸ hj)
    simp only [Function.update_of_ne hne]
    exact h.done_returned j hj
  · exact h.done_writes
  · intro j attempt body hphase
    by_cases heq : j = i
    · subst heq
      simp only [Function.update_self] at hphase
      exact hpatching attempt body hphase
    · simp only [Function.update_of_ne heq] at hphase
      exact h.patching j attempt body hphase
  · intro j hphase
    by_cases heq : j = i
    · subst heq
      simp only [Function.update_self] at hphase
      exact Or.inr (hreturned hphase)
    · simp only [Function.update_of_ne heq] at hphase
      exact h.returned j hphase

/-- A patch that is accepted. -/
theorem Progress.apply (h : Progress initial write done c)
    (hdistinct : forall i j, i ≠ j -> ¬ (write i).SamePlace (write j)) {i : writer}
    (hnew : ¬ done i) (hwrites : ¬ (write i).Skips initial) :
    Progress initial write (fun j => done j ∨ j = i)
      ⟨Resource.receive (patchBody (write i).patch) c.state,
        Function.update c.phase i .returned⟩ := by
  constructor
  · exact h.shown.patch hdistinct hnew
  · intro j hj
    by_cases heq : j = i
    · subst heq
      simp only [Function.update_self]
    · simp only [Function.update_of_ne heq]
      exact h.done_returned j (hj.resolve_right heq)
  · intro j hj
    rcases hj with hdone | heq
    · exact h.done_writes j hdone
    · rw [heq]
      exact hwrites
  · intro j attempt body hphase
    by_cases heq : j = i
    · subst heq
      simp only [Function.update_self] at hphase
      cases hphase
    · simp only [Function.update_of_ne heq] at hphase
      exact h.patching j attempt body hphase
  · intro j hphase
    by_cases heq : j = i
    · exact Or.inl (Or.inr heq)
    · simp only [Function.update_of_ne heq] at hphase
      rcases h.returned j hphase with hdone | hskips
      · exact Or.inl (Or.inl hdone)
      · exact Or.inr hskips

/-- One step of one writer. -/
theorem Progress.step {c' : Writers writer Resource Json}
    (hops : forall i, (ops i).entryWrite? = some (write i))
    (hdistinct : forall i j, i ≠ j -> ¬ (write i).SamePlace (write j))
    (h : exists done, Progress initial write done c) (hcap : c.state.BelowCap)
    (hstep : Writers.Step (fun i => (ops i).buildBody unicode protectedIds) Resource.receive
      (fun _ _ => True) maxConflictRetries c c') :
    exists done, Progress initial write done c' := by
  rcases h with ⟨done, h⟩
  have hunfinished : forall i, c.phase i ≠ .returned -> ¬ done i :=
    fun i hphase hdone => hphase (h.done_returned i hdone)
  cases hstep with
  | @read i attempt hphase =>
      have hnew := hunfinished i (by rw [hphase]; intro heq; cases heq)
      have hskips := h.skips_iff hdistinct hnew
      refine ⟨done, h.move hnew ?_ ?_⟩
      · intro attempt' body hsent
        rcases buildBody_entryWrite (hops i) (hcap (write i).field) with
          ⟨e, herror⟩ | ⟨_, hnone⟩ | ⟨hwrites, hbody⟩
        · rw [herror] at hsent
          cases hsent
        · rw [hnone] at hsent
          cases hsent
        · rw [hbody] at hsent
          cases hsent
          exact ⟨rfl, fun hinitial => hwrites (hskips.mpr hinitial)⟩
      · intro hdone
        rcases buildBody_entryWrite (hops i) (hcap (write i).field) with
          ⟨e, herror⟩ | ⟨hskip, _⟩ | ⟨_, hbody⟩
        · rw [herror] at hdone
          cases hdone
        · exact hskips.mp hskip
        · rw [hbody] at hdone
          cases hdone
  | @patch i attempt body hphase =>
      have hnew := hunfinished i (by rw [hphase]; intro heq; cases heq)
      rcases h.patching i attempt body hphase with ⟨hbody, hwrites⟩
      subst hbody
      exact ⟨_, h.apply hdistinct hnew hwrites⟩
  | @conflict i attempt body hphase _ =>
      have hnew := hunfinished i (by rw [hphase]; intro heq; cases heq)
      refine ⟨done, h.move hnew ?_ ?_⟩
      · intro attempt' body' heq
        unfold Writers.afterConflict at heq
        split at heq <;> cases heq
      · intro heq
        unfold Writers.afterConflict at heq
        split at heq <;> cases heq

end Step

/-- The writes of a list, one after the other. -/
theorem shows_settled {initial : Json} {write : writer -> EntryWrite}
    (hdistinct : forall i j, i ≠ j -> ¬ (write i).SamePlace (write j)) :
    forall (is : List writer) (done : writer -> Prop) (status : Json), is.Nodup ->
      (forall i, i ∈ is -> ¬ done i) -> Shows initial write done status ->
      Shows initial write (fun j => done j ∨ (j ∈ is ∧ ¬ (write j).Skips initial))
        (is.foldl (fun s i => (write i).settle s) status)
  | [], done, status, _, _, h => by
      have hsame : (fun j => done j ∨ (j ∈ [] ∧ ¬ (write j).Skips initial)) = done := by
        funext j
        simp
      rw [hsame]
      exact h
  | i :: rest, done, status, hnodup, hnew, h => by
      rcases List.nodup_cons.mp hnodup with ⟨hi, hrest⟩
      have hskips : (write i).Skips status <-> (write i).Skips initial := by
        unfold EntryWrite.Skips
        rw [h.kept _ _ fun j hj => hdistinct j i fun heq =>
          hnew i List.mem_cons_self (heq ▸ hj)]
      rw [List.foldl_cons, EntryWrite.settle]
      by_cases hskip : (write i).Skips initial
      · rw [if_pos (hskips.mpr hskip)]
        have hlater := shows_settled hdistinct rest done status hrest
          (fun j hj => hnew j (List.mem_cons_of_mem i hj)) h
        have hsame : (fun j => done j ∨ (j ∈ i :: rest ∧ ¬ (write j).Skips initial)) =
            fun j => done j ∨ (j ∈ rest ∧ ¬ (write j).Skips initial) := by
          funext j
          by_cases hj : j = i
          · subst hj
            simp [hskip]
          · simp [hj]
        rw [hsame]
        exact hlater
      · rw [if_neg fun hs => hskip (hskips.mp hs)]
        have hlater := shows_settled hdistinct rest (fun j => done j ∨ j = i) _ hrest
          (fun j hj hdone => by
            rcases hdone with hdone | heq
            · exact hnew j (List.mem_cons_of_mem i hj) hdone
            · exact hi (heq ▸ hj))
          (h.patch hdistinct (hnew i List.mem_cons_self))
        have hsame : (fun j => done j ∨ (j ∈ i :: rest ∧ ¬ (write j).Skips initial)) =
            fun j => (done j ∨ j = i) ∨ (j ∈ rest ∧ ¬ (write j).Skips initial) := by
          funext j
          by_cases hj : j = i
          · subst hj
            simp [hskip]
          · simp [hj]
        rw [hsame]
        exact hlater

end Runs

/-- Mutations of distinct entries end in the same status in every interleaving:
each entry is merged once, or left where it already compared equal, and nothing
else changes. -/
theorem disjoint_writes_commute {unicode : UnicodeData}
    {protectedIds : StatusField -> List String} {n : Nat} {ops : Fin n -> StoreMutation}
    {write : Fin n -> EntryWrite} (hops : forall i, (ops i).entryWrite? = some (write i))
    (hdistinct : forall i j, i ≠ j -> ¬ (write i).SamePlace (write j)) {initial : Resource}
    (hcanonical : initial.status.Canonical) {c : Writers (Fin n) Resource Json}
    (hrun : RunBelowCap unicode protectedIds ops initial c)
    (hreturned : forall i, c.phase i = .returned) :
    c.state.status = (List.finRange n).foldl (fun s i => (write i).settle s) initial.status ∧
      (forall i, lookupEntry c.state.status (write i).field (write i).key =
        (write i).outcome initial.status) ∧
      (forall field key, (forall i, ¬ ((write i).field = field ∧ (write i).key = key)) ->
        lookupEntry c.state.status field key = lookupEntry initial.status field key) ∧
      forall k, (forall i, (write i).field.key ≠ k) ->
        c.state.status.members.lookup k = initial.status.members.lookup k := by
  have hsorted := sortedMaps_of_canonical hcanonical
  have hprogress : exists done, Progress initial.status write done c := by
    refine Writers.RunIn.induct
      (fun c => exists done, Progress initial.status write done c) ?_ ?_ hrun
    · exact ⟨_, progress_start hsorted⟩
    · intro c c' hcap hstep h
      exact Progress.step hops hdistinct h hcap hstep
  rcases hprogress with ⟨done, hprogress⟩
  -- Everybody returned, so exactly the writes that had something to do are applied.
  have hdone : done = fun j => False ∨ (j ∈ List.finRange n ∧ ¬ (write j).Skips initial.status) := by
    funext j
    simp only [false_or, List.mem_finRange, true_and, eq_iff_iff]
    constructor
    · exact hprogress.done_writes j
    · intro hwrites
      exact (hprogress.returned j (hreturned j)).resolve_right hwrites
  have hsettled := shows_settled hdistinct (List.finRange n) (fun _ => False) initial.status
    (List.nodup_finRange n) (fun _ _ h => h) (shows_initial hsorted)
  rw [← hdone] at hsettled
  have hshown := hprogress.shown
  refine ⟨hshown.unique hsettled, ?_, ?_, ?_⟩
  · intro i
    unfold EntryWrite.outcome
    by_cases hskip : (write i).Skips initial.status
    · rw [if_pos hskip]
      apply hshown.kept
      intro j hj hplace
      have hne : j ≠ i := fun heq => hprogress.done_writes j hj (heq ▸ hskip)
      exact hdistinct j i hne hplace
    · rw [if_neg hskip]
      exact hshown.written i ((hprogress.returned i (hreturned i)).resolve_right hskip)
  · intro field key hnone
    exact hshown.kept field key fun j _ => hnone j
  · intro k hnone
    exact hshown.other k fun j _ => hnone j

/-- One datapoint leaves while another one starts. -/
def clockOps (i : Fin 2) : StoreMutation :=
  if i = 0 then .setStartedSince "d1" (days 738000) else .clearStartedSince "d2"

def clockWrites (i : Fin 2) : EntryWrite :=
  if i = 0 then ⟨.startedSince, "d1", timestamp (days 738000)⟩ else ⟨.startedSince, "d2", .null⟩

def clockResource : Resource :=
  ⟨.obj [("startedSince", .obj [("d2", timestamp (days 737000))])], 1⟩

/-- Both read, then both patch. -/
theorem disjoint_writes_commute_clocks :
    exists c, RunBelowCap UnicodeData.ascii (fun _ => []) clockOps clockResource c ∧
      (forall i, c.phase i = .returned) ∧
      c.state.status = (List.finRange 2).foldl (fun s i => (clockWrites i).settle s)
        clockResource.status := by
  have hread0 : (clockOps 0).buildBody UnicodeData.ascii (fun _ => []) clockResource =
      .ok (some (patchBody (clockWrites 0).patch)) := by
    decide +kernel
  have hread1 : (clockOps 1).buildBody UnicodeData.ascii (fun _ => []) clockResource =
      .ok (some (patchBody (clockWrites 1).patch)) := by
    decide +kernel
  have hcap : clockResource.BelowCap := by
    intro field
    cases field <;> decide
  have hcap' : (clockResource.receive (patchBody (clockWrites 0).patch)).BelowCap := by
    intro field
    cases field <;> decide +kernel
  have hrun : RunBelowCap UnicodeData.ascii (fun _ => []) clockOps clockResource
      (Writers.start clockResource) := Relation.ReflTransGen.refl
  have hrun := hrun.tail ⟨hcap, Writers.Step.read (w := (0 : Fin 2)) rfl⟩
  simp only [Writers.start, hread0, Writers.afterRead] at hrun
  have hrun := hrun.tail ⟨hcap, Writers.Step.read (w := (1 : Fin 2)) rfl⟩
  simp only [hread1, Writers.afterRead] at hrun
  have hrun := hrun.tail ⟨hcap, Writers.Step.patch (w := (0 : Fin 2)) rfl⟩
  have hrun := hrun.tail ⟨hcap', Writers.Step.patch (w := (1 : Fin 2)) rfl⟩
  have hops : forall i, (clockOps i).entryWrite? = some (clockWrites i) :=
    Fin.forall_fin_two.mpr ⟨rfl, rfl⟩
  have hkeys : forall i j, (clockWrites i).key = (clockWrites j).key -> i = j := by
    decide
  have hdistinct : forall i j, i ≠ j -> ¬ (clockWrites i).SamePlace (clockWrites j) :=
    fun i j hne hplace => hne (hkeys i j hplace.2)
  have hcanonical : clockResource.status.Canonical := by
    simp [clockResource, timestamp, Json.Canonical, Json.CanonicalMembers, Json.CanonicalMember,
      Members.Sorted]
  refine ⟨_, hrun, ?_, ?_⟩
  · decide +kernel
  · exact (disjoint_writes_commute hops hdistinct hcanonical hrun (by decide +kernel)).1

/-- An archive whose absent bucket is stored as a null. -/
def nullBucketResource : Resource :=
  ⟨.obj [("archivedAnalyses", .obj [("a1", .obj [("backend", .str "s3"), ("bucket", .null)])])], 1⟩

def nullBucketRecord : ArchivedAnalysisRecord (Option String) where
  backend := "s3"
  bucket := none

/-- A record that compares equal is not merged: the stored null stays. -/
theorem disjoint_write_not_merged :
    exists c : Writers (Fin 1) Resource Json,
      RunBelowCap UnicodeData.ascii (fun _ => [])
        (fun _ => .setArchivedAnalysis "a1" nullBucketRecord) nullBucketResource c ∧
      (forall i, c.phase i = .returned) ∧
      lookupEntry c.state.status .archivedAnalyses "a1" ≠
        Json.mergedMember (lookupEntry nullBucketResource.status .archivedAnalyses "a1")
          nullBucketRecord.toDict := by
  have hread : (StoreMutation.setArchivedAnalysis "a1" nullBucketRecord).buildBody
      UnicodeData.ascii (fun _ => []) nullBucketResource = .ok none := by
    decide +kernel
  have hcap : nullBucketResource.BelowCap := by
    intro field
    cases field <;> decide
  have hrun : RunBelowCap UnicodeData.ascii (fun _ => [])
      (fun _ : Fin 1 => .setArchivedAnalysis "a1" nullBucketRecord) nullBucketResource
      (Writers.start nullBucketResource) := Relation.ReflTransGen.refl
  have hrun := hrun.tail ⟨hcap, Writers.Step.read (w := (0 : Fin 1)) rfl⟩
  simp only [Writers.start, hread, Writers.afterRead] at hrun
  refine ⟨_, hrun, ?_, ?_⟩
  · decide +kernel
  · decide +kernel

end StatusDocument
end OpenStudioOperator
