import OpenStudioOperator.Foundation.MergeRace
import OpenStudioOperator.StatusMembers
import OpenStudioOperator.StatusReadback

/-!
# Mutations entry by entry

Below the size cap a mutation of a map works entry by entry.  What two racing
mutations make of one entry is compared with what they make of it in turn.
-/

namespace OpenStudioOperator
namespace StatusDocument

open Foundation

/-!
## Encoded records
-/

/-- What is written as an entry of a map. -/
inductive Encodes : StatusField -> Json -> Prop where
  | softStop (r : SoftStopRecord) : Encodes .softStops r.toDict
  | requeue (r : RequeueRecord) : Encodes .requeues r.toDict
  | startedSince (t : Instant) : Encodes .startedSince (timestamp t)
  | archivedAnalysis (r : ArchivedAnalysisRecord (Option String)) :
      Encodes .archivedAnalyses r.toDict
  | stopRecord (r : StopRecord) : Encodes .stoppedAnalyses r.toDict

/-- Every member is a text. -/
def Texts (ms : List (String × Json)) : Prop :=
  Members.Sorted ms ∧ forall k v, ms.lookup k = some v -> exists s, v = .str s

theorem SoftStopRecord.texts_toDict (r : SoftStopRecord) : Texts r.toDict.members := by
  refine ⟨r.sorted_toDict, ?_⟩
  intro k v h
  have hmem := Members.mem_of_lookup h
  rcases r with ⟨_, _, _ | _, _ | _⟩ <;>
    simp [toDict, Json.members, optionalMember, timestamp] at hmem <;> grind

theorem StopRecord.texts_toDict (r : StopRecord) : Texts r.toDict.members := by
  refine ⟨r.sorted_toDict, ?_⟩
  intro k v h
  have hmem := Members.mem_of_lookup h
  rcases r with ⟨_, _, _ | _⟩ <;>
    simp [toDict, Json.members, optionalMember, timestamp] at hmem <;> grind

theorem ArchivedAnalysisRecord.text_toDict {r : ArchivedAnalysisRecord (Option String)}
    {k : String} {v : Json} (h : r.toDict.members.lookup k = some v) (hk : k ≠ "bucket") :
    exists s, v = .str s := by
  have hmem := Members.mem_of_lookup h
  rcases r with ⟨_, _, _ | _, _ | _, _ | _⟩ <;>
    simp [toDict, Json.members, optionalMember, timestamp] at hmem <;> grind

/-- Merging members that already compare equal changes nothing, if each of them
stays as it is. -/
theorem mergeMembers_of_pyEq {ms enc : List (String × Json)} (hms : Members.Sorted ms)
    (henc : Members.Sorted enc) (heq : Json.pyEqMembers ms enc = true)
    (hstays : forall k v v', enc.lookup k = some v' -> ms.lookup k = some v ->
      v.pyEq v' = true -> Json.mergedMember (some v) v' = some v) :
    Json.mergeMembers ms enc = ms := by
  refine Members.ext (Json.sorted_mergeMembers enc hms) hms ?_
  intro k
  rw [Json.lookup_mergeMembers _ _ _ henc]
  cases hv : enc.lookup k with
  | none => rfl
  | some v' =>
      rcases (Json.lookup_of_pyEqMembers k heq).2 v' hv with ⟨v, hlookup, hsame⟩
      rw [hlookup]
      exact hstays k v v' hv hlookup hsame

theorem mergedMember_text {v : Json} {s : String} (h : v.pyEq (.str s) = true) :
    Json.mergedMember (some v) (.str s) = some v := by
  rw [Json.eq_str_of_pyEq h]
  rfl

/-- A record of texts that compares equal is stored already. -/
theorem mergePatch_texts {old : Json} {enc : List (String × Json)}
    (hold : Members.Sorted old.members) (henc : Texts enc)
    (heq : old.pyEq (.obj enc) = true) : old.mergePatch (.obj enc) = old := by
  rcases Json.exists_obj_of_pyEq heq with ⟨ms, hobj, hmembers⟩
  subst hobj
  rw [Json.mergePatch, Json.members]
  refine congrArg Json.obj (mergeMembers_of_pyEq hold henc.1 hmembers ?_)
  intro k v v' hv' _ hsame
  rcases henc.2 k v' hv' with ⟨s, hs⟩
  subst hs
  exact mergedMember_text hsame

theorem mergePatch_requeue {old : Json} (hold : Members.Sorted old.members)
    (r r' : RequeueRecord) (heq : (old.mergePatch r.toDict).pyEq r'.toDict = true) :
    (old.mergePatch r.toDict).mergePatch r'.toDict = old.mergePatch r.toDict := by
  have hsorted := Json.sorted_mergeMembers r.toDict.members hold
  have hcount : (Json.mergeMembers old.members r.toDict.members).lookup "count" =
      some (.int r.count) := by
    rw [Json.lookup_mergeMembers _ _ _ r.sorted_toDict]
    rfl
  rcases Json.exists_obj_of_pyEq heq with ⟨ms, hobj, hmembers⟩
  have hms : ms = Json.mergeMembers old.members r.toDict.members := by
    rw [RequeueRecord.toDict, Json.mergePatch] at hobj
    exact (Json.obj.inj hobj).symm
  rw [hobj, RequeueRecord.toDict, Json.mergePatch, Json.members]
  subst hms
  refine congrArg Json.obj (mergeMembers_of_pyEq hsorted r'.sorted_toDict hmembers ?_)
  intro k v v' hv' hv hsame
  have hmem := Members.mem_of_lookup hv'
  simp only [List.mem_cons, Prod.mk.injEq, List.not_mem_nil, or_false] at hmem
  rcases hmem with ⟨hk, hcount'⟩ | ⟨_, htext⟩
  · subst hk hcount'
    rw [hcount] at hv
    cases hv
    simp only [Json.pyEq, Json.number?, beq_iff_eq, Option.some.injEq, Rat.intCast_inj] at hsame
    rw [hsame]
    rfl
  · subst htext
    exact mergedMember_text hsame

theorem mergePatch_archive {old : Json} (hold : Members.Sorted old.members)
    (r r' : ArchivedAnalysisRecord (Option String))
    (heq : (old.mergePatch r.toDict).pyEq r'.toDict = true) :
    (old.mergePatch r.toDict).mergePatch r'.toDict = old.mergePatch r.toDict := by
  have hsorted := Json.sorted_mergeMembers r.toDict.members hold
  have hbucket : forall v,
      (Json.mergeMembers old.members r.toDict.members).lookup "bucket" = some v ->
        exists s, v = .str s := by
    intro v hv
    rw [Json.lookup_mergeMembers _ _ _ r.sorted_toDict] at hv
    rcases r with ⟨_, _ | s, _, _, _⟩
    · cases hv
    · cases hv
      exact ⟨s, rfl⟩
  rcases Json.exists_obj_of_pyEq heq with ⟨ms, hobj, hmembers⟩
  have hms : ms = Json.mergeMembers old.members r.toDict.members := by
    rw [ArchivedAnalysisRecord.toDict, Json.mergePatch] at hobj
    exact (Json.obj.inj hobj).symm
  rw [hobj, ArchivedAnalysisRecord.toDict, Json.mergePatch, Json.members]
  subst hms
  refine congrArg Json.obj (mergeMembers_of_pyEq hsorted r'.sorted_toDict hmembers ?_)
  intro k v v' hv' hv hsame
  by_cases hk : k = "bucket"
  · subst hk
    rcases hbucket v hv with ⟨s, hs⟩
    have hsame' : v' = .str s := by
      rw [hs, Json.pyEq] at hsame
      exact of_decide_eq_true hsame
    subst hs hsame'
    rfl
  · rcases ArchivedAnalysisRecord.text_toDict hv' hk with ⟨s, hs⟩
    subst hs
    exact mergedMember_text hsame

/-- A record that compares equal after another one of its kind was merged is
stored already. -/
theorem mergePatch_encoded {field : StatusField} {old enc enc' : Json}
    (hold : Members.Sorted old.members) (h : Encodes field enc) (h' : Encodes field enc')
    (heq : (old.mergePatch enc).pyEq enc' = true) :
    (old.mergePatch enc).mergePatch enc' = old.mergePatch enc := by
  cases h with
  | softStop r =>
      cases h' with
      | softStop r' =>
          exact mergePatch_texts (Json.sorted_mergeMembers _ hold) r'.texts_toDict heq
  | requeue r =>
      cases h' with
      | requeue r' => exact mergePatch_requeue hold r r' heq
  | startedSince t =>
      cases h' with
      | startedSince t' => exact (Json.eq_str_of_pyEq heq).symm
  | archivedAnalysis r =>
      cases h' with
      | archivedAnalysis r' => exact mergePatch_archive hold r r' heq
  | stopRecord r =>
      cases h' with
      | stopRecord r' =>
          exact mergePatch_texts (Json.sorted_mergeMembers _ hold) r'.texts_toDict heq

theorem Encodes.not_null {field : StatusField} {enc : Json} (h : Encodes field enc) :
    enc.isNull = false := by
  cases h <;> rfl

/-!
## Entries
-/

/-- The marked soft stop, if there is one and the marks are new. -/
def newMarks (at' : Instant) (outcome : String) (entry : Json) : Option Json :=
  match entry with
  | .obj current =>
      if (Json.obj (marked at' outcome current)).pyEq (.obj current) then none
      else some (.obj (marked at' outcome current))
  | _ => none

namespace MemberOp

/-- The mutation writes entries of a map. -/
def OnMap : MemberOp -> Prop
  | entry _ _ _ => True
  | escalate _ _ _ => True
  | scope _ => True
  | _ => False

/-- The mutation finds its map full and sends all of it. -/
def Rewrites : MemberOp -> Json -> Prop
  | entry _ key encoded, raw =>
      encoded.isNull = false ∧ statusMapMaxEntries <= raw.members.length ∧
        (getMember raw.members key).pyEq encoded = false
  | _, _ => False

/-- What is sent for one entry of the map. -/
def entrySends : MemberOp -> String -> Option Json -> Option Json
  | entry _ key encoded, k, v =>
      if k = key ∧ (v.getD .null).pyEq encoded = false then some encoded else none
  | escalate id at' outcome, k, v =>
      if k = id then newMarks at' outcome (v.getD .null) else none
  | scope live, k, some _ => if k ∈ live then none else some .null
  | _, _, _ => none

end MemberOp

section Keyed

variable {raw : Json}

theorem keyed_entry {prot : List String} {key : String} {encoded : Json}
    (hroom : ¬ (MemberOp.entry prot key encoded).Rewrites raw) :
    Json.Keyed (MemberOp.entry prot key encoded).entrySends
      (MemberOp.entry prot key encoded).patch raw := by
  unfold Json.Keyed MemberOp.patch MemberOp.entrySends
  simp only
  rw [if_neg (by simpa [MemberOp.Rewrites] using hroom)]
  cases hsame : (getMember raw.members key).pyEq encoded with
  | true =>
      simp only [if_true]
      intro k
      by_cases hk : k = key
      · subst hk
        unfold getMember at hsame
        simp [hsame]
      · simp [hk]
  | false =>
      simp only [Bool.false_eq_true, if_false]
      refine ⟨_, rfl, List.pairwise_singleton _ _, ?_⟩
      intro k
      rw [List.lookup_cons]
      by_cases hk : k = key
      · subst hk
        unfold getMember at hsame
        simp [hsame]
      · simp [hk, beq_eq_false_iff_ne.mpr hk]

theorem escalate_patch (id : String) (at' : Instant) (outcome : String) (raw : Json) :
    (MemberOp.escalate id at' outcome).patch raw =
      (newMarks at' outcome (getMember raw.members id)).map fun v => .obj [(id, v)] := by
  unfold MemberOp.patch newMarks
  simp only
  cases getMember raw.members id with
  | obj current =>
      simp only
      split <;> rfl
  | _ => rfl

theorem keyed_escalate (id : String) (at' : Instant) (outcome : String) :
    Json.Keyed (MemberOp.escalate id at' outcome).entrySends
      (MemberOp.escalate id at' outcome).patch raw := by
  unfold Json.Keyed MemberOp.entrySends
  rw [escalate_patch]
  unfold getMember
  cases hmarks : newMarks at' outcome ((raw.members.lookup id).getD .null) with
  | none =>
      simp only [Option.map_none]
      intro k
      by_cases hk : k = id
      · subst hk
        rw [if_pos rfl, hmarks]
      · rw [if_neg hk]
  | some v =>
      simp only [Option.map_some]
      refine ⟨_, rfl, List.pairwise_singleton _ _, ?_⟩
      intro k
      rw [List.lookup_cons]
      by_cases hk : k = id
      · subst hk
        simp [hmarks]
      · simp [hk, beq_eq_false_iff_ne.mpr hk]

/-- The nulls of the dead entries. -/
theorem lookup_dead (live : List String) (k : String) :
    forall ms : List (String × Json), Members.Sorted ms ->
      ((ms.filter fun entry => entry.1 ∉ live).map fun entry => (entry.1, Json.null)).lookup k =
        (MemberOp.scope live).entrySends k (ms.lookup k)
  | [], _ => rfl
  | (k', v) :: rest, hsorted => by
      rcases List.pairwise_cons.mp hsorted with ⟨hhead, hrest⟩
      have ih := lookup_dead live k rest hrest
      rw [List.filter_cons, List.lookup_cons]
      by_cases hk : k = k'
      · subst hk
        rw [beq_self_eq_true]
        by_cases hlive : k ∈ live
        · rw [Members.lookup_eq_none_of_lt hhead] at ih
          simp only [hlive, not_true_eq_false, decide_false, Bool.false_eq_true, if_false]
          rw [ih]
          simp [MemberOp.entrySends, hlive]
        · simp [MemberOp.entrySends, hlive]
      · rw [beq_eq_false_iff_ne.mpr hk]
        by_cases hlive : k' ∈ live
        · simpa [hlive] using ih
        · simpa [hlive, List.lookup_cons, beq_eq_false_iff_ne.mpr hk] using ih

theorem keyed_scope (live : List String) (hsorted : Members.Sorted raw.members) :
    Json.Keyed (MemberOp.scope live).entrySends (MemberOp.scope live).patch raw := by
  have hdead := fun k => lookup_dead live k raw.members hsorted
  unfold Json.Keyed MemberOp.patch
  simp only
  by_cases hempty : (raw.members.filter fun entry => entry.1 ∉ live).isEmpty
  · rw [if_pos hempty]
    simp only
    intro k
    rw [← hdead, List.isEmpty_iff.mp hempty]
    rfl
  · rw [if_neg hempty]
    refine ⟨_, rfl, ?_, hdead⟩
    unfold Members.Sorted
    rw [List.pairwise_map]
    exact hsorted.sublist List.filter_sublist

/-- Below the cap a mutation of a map works entry by entry. -/
theorem keyed_entries {m : MemberOp} (hmap : m.OnMap) (hsorted : Members.Sorted raw.members)
    (hroom : ¬ m.Rewrites raw) : Json.Keyed m.entrySends m.patch raw := by
  cases m with
  | entry prot key encoded => exact keyed_entry hroom
  | escalate id at' outcome => exact keyed_escalate id at' outcome
  | scope live => exact keyed_scope live hsorted
  | _ => exact hmap.elim

end Keyed

/-!
## Two racing mutations of a map
-/

/-- What is sent for a member of the status. -/
def MemberOp.sends (m : MemberOp) (member : Option Json) : Option Json :=
  m.patch (member.getD .null)

/-- Two mutations of a map send from the same read, neither of them all of it. -/
structure MapRace (a b : MemberOp) (member : Option Json) (p p' : Json) : Prop where
  onMap : a.OnMap
  onMap' : b.OnMap
  canonical : (member.getD .null).Canonical
  room : ¬ a.Rewrites (member.getD .null)
  room' : ¬ b.Rewrites (member.getD .null)
  sent : a.sends member = some p
  sent' : b.sends member = some p'

section MapRace

variable {a b : MemberOp} {member : Option Json} {p p' : Json}

theorem MapRace.keyed (h : MapRace a b member p p') :
    Json.Keyed a.entrySends a.patch (member.getD .null) :=
  keyed_entries h.onMap h.canonical.members.1 h.room

theorem MapRace.symm (h : MapRace a b member p p') : MapRace b a member p' p :=
  ⟨h.onMap', h.onMap, h.canonical, h.room', h.room, h.sent', h.sent⟩

/-- The map after the first mutation. -/
theorem MapRace.first (h : MapRace a b member p p') :
    exists ms, (member.getD .null).mergePatch p = .obj ms ∧ Members.Sorted ms ∧
      forall k, ms.lookup k =
        Json.after (a.entrySends k) ((member.getD .null).members.lookup k) :=
  h.keyed.mergePatch h.sent _ h.canonical.members.1

/-- A patch of a map is an object, so it never removes the map. -/
theorem mergedMember_keyed {m : MemberOp} {raw patch : Json} (old : Option Json)
    (h : Json.Keyed m.entrySends m.patch raw) (hsent : m.patch raw = some patch) :
    Json.mergedMember old patch = some ((old.getD .null).mergePatch patch) := by
  rcases h.obj hsent with ⟨members, hobj, _, _⟩
  subst hobj
  rfl

theorem MapRace.after (h : MapRace a b member p p') :
    Json.after a.sends member = some ((member.getD .null).mergePatch p) := by
  rw [Json.after_of_some h.sent]
  exact mergedMember_keyed member h.keyed h.sent

theorem after_written {m : MemberOp} {raw : Json}
    (h : Json.Keyed m.entrySends m.patch raw) :
    Json.after m.sends (some raw) = some (Json.written m.patch raw) := by
  unfold Json.written
  cases hsent : m.patch raw with
  | none => exact Json.after_of_none hsent
  | some q =>
      have hsends : m.sends (some raw) = some q := hsent
      rw [Json.after_of_some hsends]
      exact mergedMember_keyed (some raw) h hsent

theorem MapRace.stale (h : MapRace a b member p p') :
    Json.patched (b.sends member) (Json.after a.sends member) =
      some (((member.getD .null).mergePatch p).mergePatch p') := by
  rw [h.sent', h.after, Json.patched]
  exact mergedMember_keyed _ h.symm.keyed h.sent'

/-- The map ends as after the first mutation and then the second. -/
theorem MapRace.forward (h : MapRace a b member p p')
    (hlater : ¬ b.Rewrites ((member.getD .null).mergePatch p))
    (hentries : forall k, Json.Forward (a.entrySends k) (b.entrySends k)
      ((member.getD .null).members.lookup k)) :
    Json.Forward a.sends b.sends member := by
  rcases h.first with ⟨ms, hms, hsorted, _⟩
  have hkeyed : Json.Keyed b.entrySends b.patch ((member.getD .null).mergePatch p) :=
    keyed_entries h.onMap' (by rw [hms]; exact hsorted) hlater
  rw [Json.Forward, h.stale, h.after, after_written hkeyed]
  exact congrArg some (Json.race_forward h.canonical.members.1 h.keyed h.symm.keyed h.sent
    h.sent' hkeyed hentries)

/-- The map ends as after the second mutation and then the first. -/
theorem MapRace.backward (h : MapRace a b member p p')
    (hlater : ¬ a.Rewrites ((member.getD .null).mergePatch p'))
    (hentries : forall k, Json.Backward (a.entrySends k) (b.entrySends k)
      ((member.getD .null).members.lookup k)) :
    Json.Backward a.sends b.sends member := by
  rcases h.symm.first with ⟨ms, hms, hsorted, _⟩
  have hkeyed : Json.Keyed a.entrySends a.patch ((member.getD .null).mergePatch p') :=
    keyed_entries h.onMap (by rw [hms]; exact hsorted) hlater
  rw [Json.Backward, h.stale, h.symm.after, after_written hkeyed]
  exact congrArg some (Json.race_backward h.canonical.members.1 h.keyed h.symm.keyed h.sent
    h.sent' hkeyed hentries)

end MapRace

/-!
## Racing entries

The first mutation is `first`, and the second one sends what it computed from
the entry that `first` found.
-/

section Entries

variable {first : Option Json -> Option Json} {v : Option Json} {k : String}

/-- A stale set or clear: it skips after `first` only what it would leave. -/
theorem forward_entry {prot : List String} {encoded : Json}
    (hsends : (v.getD .null).pyEq encoded = false)
    (hstays : ((Json.after first v).getD .null).pyEq encoded = true ->
      Json.mergedMember (Json.after first v) encoded = Json.after first v) :
    Json.Forward first ((MemberOp.entry prot k encoded).entrySends k) v := by
  have hsent : forall x : Option Json, (x.getD .null).pyEq encoded = false ->
      (MemberOp.entry prot k encoded).entrySends k x = some encoded :=
    fun x hx => if_pos ⟨rfl, hx⟩
  rw [Json.Forward, hsent v hsends, Json.patched]
  cases hsame : ((Json.after first v).getD .null).pyEq encoded with
  | true =>
      have hnone : (MemberOp.entry prot k encoded).entrySends k (Json.after first v) = none := by
        simp [MemberOp.entrySends, hsame]
      rw [Json.after_of_none hnone]
      exact hstays hsame
  | false => rw [Json.after_of_some (hsent _ hsame)]

/-- What a mutation left is no null, so clearing it again changes nothing. -/
theorem forward_clear {prot : List String} {patch : Json} (hfirst : first v = some patch)
    (hsends : (v.getD .null).pyEq .null = false) :
    Json.Forward first ((MemberOp.entry prot k .null).entrySends k) v := by
  apply forward_entry hsends
  intro hsame
  rw [Json.after_of_some hfirst] at hsame ⊢
  cases hmerged : Json.mergedMember v patch with
  | none => rfl
  | some y =>
      rw [hmerged, Option.getD_some] at hsame
      rw [Json.eq_null_of_pyEq hsame] at hmerged
      exact absurd hmerged (Json.mergedMember_ne_null v patch)

/-- A stale set after the removal of the entry. -/
theorem forward_set_removed {prot : List String} {encoded : Json}
    (hremoved : Json.after first v = none) (hsends : (v.getD .null).pyEq encoded = false)
    (hnull : encoded.isNull = false) :
    Json.Forward first ((MemberOp.entry prot k encoded).entrySends k) v := by
  apply forward_entry hsends
  intro hsame
  rw [hremoved, Option.getD_none, Json.pyEq, hnull] at hsame
  cases hsame

/-- A stale prune: it does not see an entry that `first` adds. -/
theorem forward_scope {live : List String}
    (hkeys : (Json.after first v).isSome -> v.isSome) :
    Json.Forward first ((MemberOp.scope live).entrySends k) v := by
  cases hafter : Json.after first v with
  | some y =>
      rcases Option.isSome_iff_exists.mp (hkeys (by rw [hafter]; rfl)) with ⟨w, hw⟩
      subst hw
      apply Json.forward_of_same
      rw [hafter]
      rfl
  | none =>
      rw [Json.Forward, hafter, Json.after_of_none rfl]
      cases v with
      | none => rfl
      | some w =>
          by_cases hlive : k ∈ live
          · rw [MemberOp.entrySends, if_pos hlive]
            rfl
          · rw [MemberOp.entrySends, if_neg hlive]
            rfl

end Entries

/-!
### Escalation marks
-/

/-- The members that the escalation of a soft stop writes. -/
def IsMark (k : String) : Prop :=
  k = "escalatedAt" ∨ k = "escalationOutcome"

instance decidableIsMark (k : String) : Decidable (IsMark k) :=
  inferInstanceAs (Decidable (_ ∨ _))

section Marks

variable {at' : Instant} {outcome : String} {current ms : List (String × Json)}

theorem sorted_marked (h : Members.Sorted current) :
    Members.Sorted (marked at' outcome current) :=
  Members.sorted_insert (Members.sorted_insert h)

theorem lookup_marked_other {k : String} (hk : ¬ IsMark k) :
    (marked at' outcome current).lookup k = current.lookup k := by
  unfold marked
  rw [Members.lookup_insert_of_ne _ fun h => hk (Or.inl h),
    Members.lookup_insert_of_ne _ fun h => hk (Or.inr h)]

/-- The marks are texts, the same ones for every soft stop. -/
theorem lookup_marked (at' : Instant) (outcome : String) {k : String} (hk : IsMark k) :
    exists s, forall current : List (String × Json),
      (marked at' outcome current).lookup k = some (.str s) := by
  rcases hk with hk | hk
  · subst hk
    exact ⟨isoformat at', fun _ => Members.lookup_insert_self _ _ _⟩
  · subst hk
    refine ⟨outcome, ?_⟩
    intro current
    unfold marked
    rw [Members.lookup_insert_of_ne _ (by decide), Members.lookup_insert_self]

theorem newMarks_some {entry marks : Json} (h : newMarks at' outcome entry = some marks) :
    exists current, entry = .obj current ∧ marks = .obj (marked at' outcome current) := by
  unfold newMarks at h
  cases entry with
  | obj current =>
      simp only at h
      split at h
      · cases h
      · exact ⟨current, rfl, (Option.some.inj h).symm⟩
  | _ => cases h

/-- A soft stop with new marks that compares equal has these marks already. -/
theorem stored_marks
    (h : (Json.obj (marked at' outcome current)).pyEq (.obj current) = true) {k s : String}
    (hk : (marked at' outcome current).lookup k = some (.str s)) :
    current.lookup k = some (.str s) := by
  rw [Json.pyEq] at h
  rcases Json.lookup_of_pyEqMembers k h with ⟨hnone, hsome⟩
  cases hlookup : current.lookup k with
  | none =>
      rw [hnone hlookup] at hk
      cases hk
  | some v =>
      rcases hsome v hlookup with ⟨v', hv', heq⟩
      rw [hk] at hv'
      cases hv'
      rw [Json.pyEq] at heq
      exact congrArg some (of_decide_eq_true heq)

theorem lookup_merge_marked {k : String} (hcurrent : Members.Sorted current) (hk : ¬ IsMark k) :
    (Json.mergeMembers ms (marked at' outcome current)).lookup k =
      Json.patched (current.lookup k) (ms.lookup k) := by
  rw [Json.lookup_mergeMembers _ _ _ (sorted_marked hcurrent), lookup_marked_other hk]
  cases current.lookup k <;> rfl

theorem lookup_merge_mark {k s : String} (hcurrent : Members.Sorted current)
    (hk : (marked at' outcome current).lookup k = some (.str s)) :
    (Json.mergeMembers ms (marked at' outcome current)).lookup k = some (.str s) := by
  rw [Json.lookup_mergeMembers _ _ _ (sorted_marked hcurrent), hk]
  rfl

/-- A stale mark after a mutation that left the soft stop there. -/
theorem forward_escalate {first : Option Json -> Option Json} {id : String}
    (hcurrent : Members.Sorted current) (hms : Members.Sorted ms)
    (hsends : (Json.obj (marked at' outcome current)).pyEq (.obj current) = false)
    (hafter : Json.after first (some (.obj current)) = some (.obj ms))
    (hmerge : forall k, ¬ IsMark k ->
      Json.patched (current.lookup k) (ms.lookup k) = Json.patched (ms.lookup k) (ms.lookup k))
    (hskip : (Json.obj (marked at' outcome ms)).pyEq (.obj ms) = true -> forall k, ¬ IsMark k ->
      Json.patched (current.lookup k) (ms.lookup k) = ms.lookup k) :
    Json.Forward first ((MemberOp.escalate id at' outcome).entrySends id)
      (some (.obj current)) := by
  have hstale : (MemberOp.escalate id at' outcome).entrySends id (some (.obj current)) =
      some (.obj (marked at' outcome current)) := by
    simp [MemberOp.entrySends, newMarks, hsends]
  rw [Json.Forward, hafter, hstale, Json.patched, Json.mergedMember_some rfl, Option.getD_some,
    Json.mergePatch, Json.members]
  have hsorted := Json.sorted_mergeMembers (marked at' outcome current) hms
  cases hsame : (Json.obj (marked at' outcome ms)).pyEq (.obj ms) with
  | true =>
      have hnone : (MemberOp.escalate id at' outcome).entrySends id (some (.obj ms)) = none := by
        simp [MemberOp.entrySends, newMarks, hsame]
      rw [Json.after_of_none hnone]
      refine congrArg (fun members => some (Json.obj members)) (Members.ext hsorted hms ?_)
      intro k
      by_cases hk : IsMark k
      · rcases lookup_marked at' outcome hk with ⟨s, hs⟩
        rw [lookup_merge_mark hcurrent (hs current), stored_marks hsame (hs ms)]
      · rw [lookup_merge_marked hcurrent hk]
        exact hskip hsame k hk
  | false =>
      have hsome : (MemberOp.escalate id at' outcome).entrySends id (some (.obj ms)) =
          some (.obj (marked at' outcome ms)) := by
        simp [MemberOp.entrySends, newMarks, hsame]
      rw [Json.after_of_some hsome, Json.mergedMember_some rfl, Option.getD_some,
        Json.mergePatch, Json.members]
      have hsorted' := Json.sorted_mergeMembers (marked at' outcome ms) hms
      refine congrArg (fun members => some (Json.obj members)) (Members.ext hsorted hsorted' ?_)
      intro k
      by_cases hk : IsMark k
      · rcases lookup_marked at' outcome hk with ⟨s, hs⟩
        rw [lookup_merge_mark hcurrent (hs current), lookup_merge_mark hms (hs ms)]
      · rw [lookup_merge_marked hcurrent hk, lookup_merge_marked hms hk]
        exact hmerge k hk

/-- A member that was merged into itself. -/
theorem patched_self {member : Option Json} (h : (member.getD .null).Canonical) :
    Json.patched member (Json.patched member member) = Json.patched member member ∧
      Json.patched (Json.patched member member) (Json.patched member member) =
        Json.patched member member := by
  cases member with
  | none => exact ⟨rfl, rfl⟩
  | some w =>
      simp only [Json.patched]
      cases hnull : w.isNull with
      | true =>
          rw [Json.mergedMember, hnull, Json.mergedMember, hnull]
          exact ⟨rfl, rfl⟩
      | false =>
          have hself : Json.mergedMember (some w) w = some (w.mergePatch w) :=
            Json.mergedMember_some hnull _
          rw [hself]
          simp only
          rw [Json.mergedMember_some hnull, Option.getD_some,
            Json.mergedMember_some ((Json.isNull_mergePatch w w).trans hnull), Option.getD_some,
            Json.mergePatch_idem w h w h, Json.mergePatch_self_self w h]
          exact ⟨rfl, rfl⟩

end Marks

end StatusDocument
end OpenStudioOperator
