import OpenStudioOperator.StatusEntries

/-!
# Two mutations at the same time

A patch carries no version, so a patch from a stale read is accepted.  Most
stale patches still end in one of the two serial outcomes.  The exceptions
carry over what they read: a list with one more event, a soft stop with its
marks, a whole map at the size cap, or the room below the cap.
-/

namespace OpenStudioOperator
namespace StatusDocument

open Foundation

/-!
## Where a stale patch loses a write
-/

/-- The mutation has nothing to write. -/
def MemberOp.Idle : MemberOp -> Json -> Prop
  | entry _ key encoded, raw => (getMember raw.members key).pyEq encoded = true
  | escalate id at' outcome, raw => newMarks at' outcome (getMember raw.members id) = none
  | scope live, raw => forall entry, entry ∈ raw.members -> entry.1 ∈ live
  | scalar encoded, raw => raw.pyEq encoded = true
  | append _ maxEntries, raw =>
      exists limit, maxEntries = some limit ∧ limit <= (eventsOf raw).length
  | clearEvents, raw => raw.truthy = false

/-- The patch that `stale` computed from `raw` undoes what `first` did with it. -/
def Overtakes (first stale : MemberOp) (raw : Json) : Prop :=
  match first, stale with
  | .append event maxEntries, .append event' maxEntries' =>
      -- In the last room the list is as after the other order, or as if both were one event.
      maxEntries ≠ some ((eventsOf raw).length + 1) ∧
        ¬ (maxEntries' = some ((eventsOf raw).length + 1) ∧ encodeEvent event = encodeEvent event')
  | .clearEvents, .append _ _ => eventsOf raw ≠ []
  | .entry _ key encoded, .escalate id _ _ =>
      key = id ∧ (encoded.isNull = true ∨ exists k v, (k = "issuedAt" ∨ k = "outcome") ∧
        (getMember raw.members id).members.lookup k = some v ∧
          encoded.members.lookup k ≠ some v)
  | .scope live, .escalate id _ _ => id ∉ live
  | .entry _ key encoded, .entry _ key' encoded' =>
      -- Both count the same room for a new entry.
      raw.members.length + 1 = statusMapMaxEntries ∧
        (encoded.isNull = false ∧ raw.members.lookup key = none) ∧
        (encoded'.isNull = false ∧ raw.members.lookup key' = none) ∧
        ¬ (key = key' ∧ (Json.null.mergePatch encoded).pyEq encoded' = true)
  | _, _ => False

/-- Two mutations of one member that may race. -/
def MemberOp.Compatible (a b : MemberOp) (raw : Json) : Prop :=
  a.Idle raw ∨ b.Idle raw ∨
    (¬ a.Rewrites raw ∧ ¬ b.Rewrites raw ∧ ¬ Overtakes a b raw ∧ ¬ Overtakes b a raw)

/-- An idle mutation sends nothing. -/
theorem patch_of_idle {m : MemberOp} {raw : Json} (h : m.Idle raw) : m.patch raw = none := by
  cases m with
  | entry prot key encoded =>
      unfold MemberOp.Idle at h
      simp [MemberOp.patch, h]
  | escalate id at' outcome =>
      rw [escalate_patch, h]
      rfl
  | scope live =>
      have hempty : (raw.members.filter fun entry => entry.1 ∉ live) = [] := by
        apply List.filter_eq_nil_iff.mpr
        intro entry hentry
        simpa using h entry hentry
      unfold MemberOp.patch
      simp only
      rw [hempty]
      rfl
  | scalar encoded =>
      unfold MemberOp.Idle at h
      simp [MemberOp.patch, h]
  | append event maxEntries =>
      rcases h with ⟨limit, hlimit, hfull⟩
      simp [MemberOp.patch, hlimit, hfull]
  | clearEvents =>
      unfold MemberOp.Idle at h
      simp [MemberOp.patch, h]

/-!
## Maps
-/

theorem entry_sent {prot : List String} {key : String} {encoded : Json} {member : Option Json}
    {p : Json} (h : (MemberOp.entry prot key encoded).sends member = some p) :
    (((member.getD .null).members.lookup key).getD .null).pyEq encoded = false := by
  cases hsame : (((member.getD .null).members.lookup key).getD .null).pyEq encoded with
  | false => rfl
  | true =>
      have hnone : (MemberOp.entry prot key encoded).sends member = none :=
        patch_of_idle (m := .entry prot key encoded) hsame
      rw [hnone] at h
      cases h

theorem escalate_sent {id : String} {at' : Instant} {outcome : String} {member : Option Json}
    {p : Json} (h : (MemberOp.escalate id at' outcome).sends member = some p) :
    exists current, (member.getD .null).members.lookup id = some (.obj current) ∧
      (Json.obj (marked at' outcome current)).pyEq (.obj current) = false := by
  unfold MemberOp.sends at h
  rw [escalate_patch] at h
  rcases Option.map_eq_some_iff.mp h with ⟨marks, hmarks, _⟩
  rcases newMarks_some hmarks with ⟨current, hcurrent, _⟩
  refine ⟨current, ?_, ?_⟩
  · unfold getMember at hcurrent
    cases hlookup : (member.getD .null).members.lookup id with
    | none =>
        rw [hlookup] at hcurrent
        cases hcurrent
    | some v =>
        rw [hlookup, Option.getD_some] at hcurrent
        rw [hcurrent]
  · rw [hcurrent] at hmarks
    unfold newMarks at hmarks
    simp only at hmarks
    split at hmarks
    · cases hmarks
    · rename_i hnew
      simpa using hnew

theorem entrySends_entry {prot : List String} {key : String} {encoded : Json} {v : Option Json}
    (h : (v.getD .null).pyEq encoded = false) :
    (MemberOp.entry prot key encoded).entrySends key v = some encoded :=
  if_pos ⟨rfl, h⟩

theorem entrySends_entry_other {prot : List String} {key k : String} {encoded : Json}
    (hk : k ≠ key) (v : Option Json) :
    (MemberOp.entry prot key encoded).entrySends k v = none := by
  simp [MemberOp.entrySends, hk]

theorem entrySends_escalate_other {id k : String} {at' : Instant} {outcome : String}
    (hk : k ≠ id) (v : Option Json) :
    (MemberOp.escalate id at' outcome).entrySends k v = none := by
  simp [MemberOp.entrySends, hk]

section Maps

variable {a b : MemberOp} {member : Option Json} {p p' : Json}

/-- A mutation that adds no entry leaves the room that the next one found. -/
theorem MapRace.room_later (h : MapRace a b member p p')
    (hkeys : forall k, (Json.after (a.entrySends k)
      ((member.getD .null).members.lookup k)).isSome ->
        ((member.getD .null).members.lookup k).isSome) :
    ¬ b.Rewrites ((member.getD .null).mergePatch p) := by
  intro hrewrites
  rcases h.first with ⟨ms, hms, hsorted, hlookup⟩
  cases b with
  | entry prot key encoded =>
      rw [hms] at hrewrites
      rcases hrewrites with ⟨hnull, hfull, _⟩
      have hlength : ms.length <= (member.getD .null).members.length := by
        apply Members.length_le_of_keys hsorted
        intro k hk
        rw [hlookup] at hk
        exact hkeys k hk
      exact h.room' ⟨hnull, Nat.le_trans hfull hlength, entry_sent h.sent'⟩
  | _ => exact hrewrites

/-- Writes of different entries are independent. -/
theorem independent_of_ne {send send' : String -> Option Json -> Option Json} {key key' : String}
    (hne : key ≠ key') (hother : forall k, k ≠ key -> forall v, send k v = none)
    (hother' : forall k, k ≠ key' -> forall v, send' k v = none) (k : String) (v : Option Json) :
    Json.Forward (send k) (send' k) v ∧ Json.Backward (send k) (send' k) v := by
  by_cases hk : k = key
  · have hnever := hother' k fun heq => hne (hk.symm.trans heq)
    exact ⟨Json.forward_of_last_never hnever, Json.backward_of_last_none (hnever v)⟩
  · have hnever := hother k hk
    exact ⟨Json.forward_of_first_none (hnever v), Json.backward_of_first_never hnever⟩

/-- A race for one entry is decided there. -/
theorem forward_of_entry {send send' : String -> Option Json -> Option Json} {key : String}
    (hother : (forall k, k ≠ key -> forall v, send k v = none) ∨
      forall k, k ≠ key -> forall v, send' k v = none)
    {entries : List (String × Json)}
    (hkey : Json.Forward (send key) (send' key) (entries.lookup key)) (k : String) :
    Json.Forward (send k) (send' k) (entries.lookup k) := by
  by_cases hk : k = key
  · subst hk
    exact hkey
  · rcases hother with hfirst | hlast
    · exact Json.forward_of_first_none (hfirst k hk _)
    · exact Json.forward_of_last_never (hlast k hk)

theorem backward_of_entry {send send' : String -> Option Json -> Option Json} {key : String}
    (hother : (forall k, k ≠ key -> forall v, send k v = none) ∨
      forall k, k ≠ key -> forall v, send' k v = none)
    {entries : List (String × Json)}
    (hkey : Json.Backward (send key) (send' key) (entries.lookup key)) (k : String) :
    Json.Backward (send k) (send' k) (entries.lookup k) := by
  by_cases hk : k = key
  · subst hk
    exact hkey
  · rcases hother with hfirst | hlast
    · exact Json.backward_of_first_never (hfirst k hk)
    · exact Json.backward_of_last_none (hlast k hk _)

theorem canonical_entry {raw : Json} (h : raw.Canonical) (k : String) :
    ((raw.members.lookup k).getD .null).Canonical := by
  cases hlookup : raw.members.lookup k with
  | none => exact trivial
  | some v => exact h.members.2.lookup hlookup

/-- A mutation that finds its entry there adds none. -/
theorem keys_of_present {send : String -> Option Json -> Option Json} {key : String}
    (hother : forall k, k ≠ key -> forall v, send k v = none) {entries : List (String × Json)}
    (hkey : (Json.after (send key) (entries.lookup key)).isSome -> (entries.lookup key).isSome)
    (k : String) (h : (Json.after (send k) (entries.lookup k)).isSome) :
    (entries.lookup k).isSome := by
  by_cases hk : k = key
  · subst hk
    exact hkey h
  · rw [Json.after_of_none (hother k hk _)] at h
    exact h

/-- A prune adds no entry. -/
theorem keys_scope (live : List String) (k : String) (v : Option Json)
    (h : (Json.after ((MemberOp.scope live).entrySends k) v).isSome) : v.isSome := by
  cases v with
  | none => exact h
  | some w => rfl

/-!
### Sets and clears
-/

theorem forward_entry_entry {field : StatusField} {prot prot' : List String} {key : String}
    {encoded encoded' : Json} {v : Option Json} (hcanonical : (v.getD .null).Canonical)
    (h : encoded = .null ∨ Encodes field encoded) (h' : encoded' = .null ∨ Encodes field encoded')
    (hsends : (v.getD .null).pyEq encoded = false)
    (hsends' : (v.getD .null).pyEq encoded' = false) :
    Json.Forward ((MemberOp.entry prot key encoded).entrySends key)
      ((MemberOp.entry prot' key encoded').entrySends key) v := by
  have hfirst : (MemberOp.entry prot key encoded).entrySends key v = some encoded :=
    entrySends_entry hsends
  rcases h' with hclear | hset'
  · subst hclear
    exact forward_clear hfirst hsends'
  · rcases h with hclear | hset
    · subst hclear
      exact forward_set_removed (Json.after_of_some hfirst) hsends' hset'.not_null
    · apply forward_entry hsends'
      rw [Json.after_of_some hfirst, Json.mergedMember_some hset.not_null, Option.getD_some,
        Json.mergedMember_some hset'.not_null, Option.getD_some]
      intro hsame
      rw [mergePatch_encoded hcanonical.members.1 hset hset' hsame]

/-- A set that fills the map up added a new entry in its last room. -/
theorem last_room {prot prot' : List String} {key key' : String} {encoded encoded' : Json}
    (hrace : MapRace (.entry prot key encoded) (.entry prot' key' encoded') member p p')
    (hfull : (MemberOp.entry prot' key' encoded').Rewrites ((member.getD .null).mergePatch p)) :
    (member.getD .null).members.length + 1 = statusMapMaxEntries ∧
      (encoded.isNull = false ∧ (member.getD .null).members.lookup key = none) ∧
      encoded'.isNull = false ∧
      ¬ (key = key' ∧ (Json.null.mergePatch encoded).pyEq encoded' = true) := by
  rcases hrace.first with ⟨ms, hms, hsorted, hlookup⟩
  have hsent : (MemberOp.entry prot key encoded).entrySends key
      ((member.getD .null).members.lookup key) = some encoded :=
    entrySends_entry (entry_sent hrace.sent)
  have hadds : encoded.isNull = false ∧ (member.getD .null).members.lookup key = none := by
    by_contra hnot
    refine hrace.room_later (keys_of_present (fun k hk => entrySends_entry_other hk) ?_) hfull
    intro hsome
    rw [Json.after_of_some hsent] at hsome
    cases hnull : encoded.isNull with
    | true =>
        rw [Json.mergedMember, hnull] at hsome
        cases hsome
    | false =>
        cases hnone : (member.getD .null).members.lookup key with
        | none => exact absurd ⟨hnull, hnone⟩ hnot
        | some v => rfl
  have hlength : ms.length <= (member.getD .null).members.length + 1 := by
    apply Nat.le_trans _ (Members.length_insert_le key Json.null (member.getD .null).members)
    apply Members.length_le_of_keys hsorted
    intro k hk
    by_cases heq : k = key
    · subst heq
      rw [Members.lookup_insert_self]
      rfl
    · rw [Members.lookup_insert_of_ne _ heq]
      rw [hlookup, Json.after_of_none (entrySends_entry_other heq _)] at hk
      exact hk
  rw [hms] at hfull
  rcases hfull with ⟨hnull', hcap, hdiffers⟩
  have hroom : (member.getD .null).members.length < statusMapMaxEntries := by
    apply Nat.lt_of_not_le
    intro hle
    exact hrace.room' ⟨hnull', hle, entry_sent hrace.sent'⟩
  refine ⟨Nat.le_antisymm hroom (Nat.le_trans hcap hlength), hadds, hnull', ?_⟩
  intro hsame
  rcases hsame with ⟨hkeys, heq⟩
  subst hkeys
  unfold getMember at hdiffers
  rw [Json.members, hlookup, Json.after_of_some hsent, hadds.2, Json.mergedMember_some hadds.1,
    Option.getD_some, Option.getD_none, heq] at hdiffers
  cases hdiffers

theorem race_entry_entry {field : StatusField} {prot prot' : List String} {key key' : String}
    {encoded encoded' : Json}
    (hrace : MapRace (.entry prot key encoded) (.entry prot' key' encoded') member p p')
    (h : encoded = .null ∨ Encodes field encoded) (h' : encoded' = .null ∨ Encodes field encoded')
    (hover : ¬ Overtakes (.entry prot key encoded) (.entry prot' key' encoded')
      (member.getD .null)) :
    Json.Forward (MemberOp.entry prot key encoded).sends
        (MemberOp.entry prot' key' encoded').sends member ∨
      Json.Backward (MemberOp.entry prot key encoded).sends
        (MemberOp.entry prot' key' encoded').sends member := by
  have hsends := entry_sent hrace.sent
  have hsends' := entry_sent hrace.sent'
  have hforward : forall k, Json.Forward ((MemberOp.entry prot key encoded).entrySends k)
      ((MemberOp.entry prot' key' encoded').entrySends k)
      ((member.getD .null).members.lookup k) := by
    intro k
    by_cases hkey : key = key'
    · subst hkey
      exact forward_of_entry (Or.inl fun k hk => entrySends_entry_other hk)
        (forward_entry_entry (canonical_entry hrace.canonical key) h h' hsends hsends') k
    · exact (independent_of_ne hkey (fun k hk => entrySends_entry_other hk)
        (fun k hk => entrySends_entry_other hk) k _).1
  by_cases hfull :
      (MemberOp.entry prot' key' encoded').Rewrites ((member.getD .null).mergePatch p)
  · -- The first write took the last room: the other order has not taken it yet.
    right
    rcases last_room hrace hfull with ⟨hlength, hadds, hnull', hdiffers⟩
    have hpresent : ((member.getD .null).members.lookup key').isSome := by
      cases hlookup : (member.getD .null).members.lookup key' with
      | none => exact absurd ⟨hlength, hadds, ⟨hnull', hlookup⟩, hdiffers⟩ hover
      | some v => rfl
    have hkey : key ≠ key' := by
      intro heq
      rw [← heq, hadds.2] at hpresent
      cases hpresent
    apply hrace.backward
    · exact hrace.symm.room_later
        (keys_of_present (fun k hk => entrySends_entry_other hk) fun _ => hpresent)
    · intro k
      exact (independent_of_ne hkey (fun k hk => entrySends_entry_other hk)
        (fun k hk => entrySends_entry_other hk) k _).2
  · exact Or.inl (hrace.forward hfull hforward)

/-!
### Escalations
-/

section Escalations

variable {id id' : String} {at' at'' : Instant} {outcome outcome' : String}

theorem newMarks_of_new {current : List (String × Json)}
    (hnew : (Json.obj (marked at' outcome current)).pyEq (.obj current) = false) :
    (MemberOp.escalate id at' outcome).entrySends id (some (.obj current)) =
      some (.obj (marked at' outcome current)) := by
  simp [MemberOp.entrySends, newMarks, hnew]

theorem after_escalate {current : List (String × Json)}
    (hnew : (Json.obj (marked at' outcome current)).pyEq (.obj current) = false) :
    Json.after ((MemberOp.escalate id at' outcome).entrySends id) (some (.obj current)) =
      some (.obj (Json.mergeMembers current (marked at' outcome current))) := by
  rw [Json.after_of_some (newMarks_of_new hnew), Json.mergedMember_some rfl, Option.getD_some,
    Json.mergePatch, Json.members]

/-- An escalation adds no entry. -/
theorem keys_escalate {current : List (String × Json)} {ms : List (String × Json)}
    (hcurrent : ms.lookup id = some (.obj current)) (k : String)
    (h : (Json.after ((MemberOp.escalate id at' outcome).entrySends k) (ms.lookup k)).isSome) :
    (ms.lookup k).isSome := by
  refine keys_of_present (fun k hk => entrySends_escalate_other hk) ?_ k h
  rw [hcurrent]
  exact fun _ => rfl

theorem forward_escalate_escalate {current : List (String × Json)}
    (hcanonical : (Json.obj current).Canonical)
    (hnew : (Json.obj (marked at' outcome current)).pyEq (.obj current) = false)
    (hnew' : (Json.obj (marked at'' outcome' current)).pyEq (.obj current) = false) :
    Json.Forward ((MemberOp.escalate id at' outcome).entrySends id)
      ((MemberOp.escalate id at'' outcome').entrySends id) (some (.obj current)) := by
  have hsorted : Members.Sorted current := hcanonical.members.1
  have hself := fun k => @patched_self (current.lookup k) (canonical_entry hcanonical k)
  refine forward_escalate hsorted (Json.sorted_mergeMembers (marked at' outcome current) hsorted)
    hnew' (after_escalate hnew) ?_ ?_
  · intro k hk
    rw [lookup_merge_marked hsorted hk]
    exact (hself k).1.trans (hself k).2.symm
  · intro _ k hk
    rw [lookup_merge_marked hsorted hk]
    exact (hself k).1

theorem race_escalate_escalate
    (hrace : MapRace (.escalate id at' outcome) (.escalate id' at'' outcome') member p p') :
    Json.Forward (MemberOp.escalate id at' outcome).sends
      (MemberOp.escalate id' at'' outcome').sends member := by
  rcases escalate_sent hrace.sent with ⟨current, hcurrent, hnew⟩
  rcases escalate_sent hrace.sent' with ⟨current', hcurrent', hnew'⟩
  apply hrace.forward (hrace.room_later (keys_escalate hcurrent))
  by_cases hid : id = id'
  · subst hid
    rw [hcurrent] at hcurrent'
    cases hcurrent'
    have hcanonical := canonical_entry hrace.canonical id
    rw [hcurrent, Option.getD_some] at hcanonical
    apply forward_of_entry (Or.inl fun k hk => entrySends_escalate_other hk)
    rw [hcurrent]
    exact forward_escalate_escalate hcanonical hnew hnew'
  · intro k
    exact (independent_of_ne hid (fun k hk => entrySends_escalate_other hk)
      (fun k hk => entrySends_escalate_other hk) k _).1

/-- A record written over the marks stays as it is when it compares equal. -/
theorem race_escalate_entry {field : StatusField} {prot : List String} {key : String}
    {encoded : Json} (hfield : field = .softStops)
    (hrace : MapRace (.escalate id at' outcome) (.entry prot key encoded) member p p')
    (h : encoded = .null ∨ Encodes field encoded) :
    Json.Forward (MemberOp.escalate id at' outcome).sends
      (MemberOp.entry prot key encoded).sends member := by
  rcases escalate_sent hrace.sent with ⟨current, hcurrent, hnew⟩
  have hsends := entry_sent hrace.sent'
  apply hrace.forward (hrace.room_later (keys_escalate hcurrent))
  by_cases hid : id = key
  · subst hid
    apply forward_of_entry (Or.inl fun k hk => entrySends_escalate_other hk)
    have hcanonical := canonical_entry hrace.canonical id
    rw [hcurrent] at hsends hcanonical ⊢
    rcases h with hclear | hset
    · subst hclear
      exact forward_clear (newMarks_of_new hnew) hsends
    · subst hfield
      cases hset with
      | softStop r =>
          apply forward_entry hsends
          rw [after_escalate hnew, Option.getD_some]
          intro hsame
          exact congrArg some (mergePatch_texts (Json.sorted_mergeMembers
            (marked at' outcome current) hcanonical.members.1) r.texts_toDict hsame)
  · intro k
    exact (independent_of_ne hid (fun k hk => entrySends_escalate_other hk)
      (fun k hk => entrySends_entry_other hk) k _).1

/-- A record that carries the marks and agrees with the soft stop that was
marked: the marks may as well have come first. -/
theorem backward_entry_escalate {prot : List String} {current : List (String × Json)}
    {r : SoftStopRecord} (hsorted : Members.Sorted current)
    (hsends : (Json.obj current).pyEq r.toDict = false)
    (hnew : (Json.obj (marked at' outcome current)).pyEq (.obj current) = false)
    (hmarks : (Json.obj (marked at' outcome (Json.mergeMembers current r.toDict.members))).pyEq
      (.obj (Json.mergeMembers current r.toDict.members)) = true)
    (hagrees : forall k, ¬ IsMark k -> forall v, r.toDict.members.lookup k = some v ->
      current.lookup k = none ∨ current.lookup k = some v) :
    Json.Backward ((MemberOp.entry prot id r.toDict).entrySends id)
      ((MemberOp.escalate id at' outcome).entrySends id) (some (.obj current)) := by
  have hsent : (MemberOp.entry prot id r.toDict).entrySends id (some (.obj current)) =
      some r.toDict :=
    entrySends_entry hsends
  have hset := Json.sorted_mergeMembers r.toDict.members hsorted
  have hmarked := Json.sorted_mergeMembers (marked at' outcome current) hsorted
  -- Whether the record is skipped or merged after the marks, it is there then.
  have hserial : Json.after ((MemberOp.entry prot id r.toDict).entrySends id)
      (some (.obj (Json.mergeMembers current (marked at' outcome current)))) =
      some (.obj (Json.mergeMembers (Json.mergeMembers current (marked at' outcome current))
        r.toDict.members)) := by
    cases hsame : (Json.obj (Json.mergeMembers current (marked at' outcome current))).pyEq
        r.toDict with
    | true =>
        rw [Json.after_of_none (by simp [MemberOp.entrySends, hsame])]
        have hstays : (Json.obj (Json.mergeMembers current (marked at' outcome current))).mergePatch
            r.toDict = .obj (Json.mergeMembers current (marked at' outcome current)) :=
          mergePatch_texts hmarked r.texts_toDict hsame
        exact congrArg some hstays.symm
    | false =>
        have hwrites : (MemberOp.entry prot id r.toDict).entrySends id
            (some (.obj (Json.mergeMembers current (marked at' outcome current)))) =
              some r.toDict :=
          entrySends_entry hsame
        rw [Json.after_of_some hwrites]
        rfl
  have hfirst : Json.after ((MemberOp.entry prot id r.toDict).entrySends id)
      (some (.obj current)) = some (.obj (Json.mergeMembers current r.toDict.members)) := by
    rw [Json.after_of_some hsent]
    rfl
  rw [Json.Backward, after_escalate hnew, hserial, hfirst, newMarks_of_new hnew, Json.patched,
    Json.mergedMember_some rfl, Option.getD_some, Json.mergePatch, Json.members]
  refine congrArg (fun members => some (Json.obj members)) (Members.ext
    (Json.sorted_mergeMembers _ hset) (Json.sorted_mergeMembers _ hmarked) ?_)
  intro k
  rw [Json.lookup_mergeMembers _ _ _ r.sorted_toDict]
  by_cases hk : IsMark k
  · rcases lookup_marked at' outcome hk with ⟨s, hs⟩
    have hstored := stored_marks hmarks (hs _)
    rw [Json.lookup_mergeMembers _ _ _ r.sorted_toDict] at hstored
    rw [lookup_merge_mark hsorted (hs current), lookup_merge_mark hsorted (hs current)]
    cases hv : r.toDict.members.lookup k with
    | none => rfl
    | some v =>
        rw [hv] at hstored
        rcases r.texts_toDict.2 k v hv with ⟨s', hs'⟩
        subst hs'
        exact hstored.symm
  · rw [lookup_merge_marked hsorted hk, lookup_merge_marked hsorted hk,
      Json.lookup_mergeMembers _ _ _ r.sorted_toDict]
    cases hv : r.toDict.members.lookup k with
    | none => rfl
    | some v =>
        rcases r.texts_toDict.2 k v hv with ⟨s, hs⟩
        subst hs
        rcases hagrees k hk _ hv with hnone | hsame
        · rw [hnone]
          rfl
        · rw [hsame]
          rfl

theorem forward_entry_escalate {prot : List String} {current : List (String × Json)}
    {r : SoftStopRecord} (hsorted : Members.Sorted current)
    (hsends : (Json.obj current).pyEq r.toDict = false)
    (hnew : (Json.obj (marked at' outcome current)).pyEq (.obj current) = false)
    (hmarks : (Json.obj (marked at' outcome (Json.mergeMembers current r.toDict.members))).pyEq
      (.obj (Json.mergeMembers current r.toDict.members)) = false)
    (hagrees : forall k, ¬ IsMark k -> forall v, r.toDict.members.lookup k = some v ->
      current.lookup k = none ∨ current.lookup k = some v) :
    Json.Forward ((MemberOp.entry prot id r.toDict).entrySends id)
      ((MemberOp.escalate id at' outcome).entrySends id) (some (.obj current)) := by
  have hsent : (MemberOp.entry prot id r.toDict).entrySends id (some (.obj current)) =
      some r.toDict :=
    entrySends_entry hsends
  refine forward_escalate hsorted (Json.sorted_mergeMembers r.toDict.members hsorted) hnew
    (by rw [Json.after_of_some hsent]; rfl) ?_ ?_
  · intro k hk
    rw [Json.lookup_mergeMembers _ _ _ r.sorted_toDict]
    cases hv : r.toDict.members.lookup k with
    | none => rfl
    | some v =>
        rcases r.texts_toDict.2 k v hv with ⟨s, hs⟩
        subst hs
        rcases hagrees k hk _ hv with hnone | hsame
        · rw [hnone]
          rfl
        · rw [hsame]
          rfl
  · intro hskips
    rw [hmarks] at hskips
    cases hskips

/-- Any two members that both have are the same. -/
theorem agrees_of_not_overtakes {prot : List String} {key : String} {r : SoftStopRecord}
    {raw : Json} {current : List (String × Json)}
    (hcurrent : raw.members.lookup key = some (.obj current))
    (hover : ¬ Overtakes (.entry prot key r.toDict) (.escalate key at' outcome) raw) {k : String}
    (hk : ¬ IsMark k) {v : Json} (hv : r.toDict.members.lookup k = some v) :
    current.lookup k = none ∨ current.lookup k = some v := by
  have hrequired : k = "issuedAt" ∨ k = "outcome" := by
    have hmem := List.mem_map_of_mem (f := Prod.fst) (Members.mem_of_lookup hv)
    unfold IsMark at hk
    rcases r with ⟨_, _, _ | _, _ | _⟩ <;>
      simp [SoftStopRecord.toDict, Json.members, optionalMember] at hmem <;> tauto
  cases hlookup : current.lookup k with
  | none => exact Or.inl rfl
  | some w =>
      right
      by_contra hne
      apply hover
      refine ⟨rfl, Or.inr ⟨k, w, hrequired, ?_, ?_⟩⟩
      · rw [getMember, hcurrent]
        exact hlookup
      · rw [hv]
        exact fun heq => hne heq.symm

theorem race_entry_escalate {field : StatusField} {prot : List String} {key : String}
    {encoded : Json} (hfield : field = .softStops)
    (hrace : MapRace (.entry prot key encoded) (.escalate id at' outcome) member p p')
    (h : encoded = .null ∨ Encodes field encoded)
    (hover : ¬ Overtakes (.entry prot key encoded) (.escalate id at' outcome)
      (member.getD .null)) :
    Json.Forward (MemberOp.entry prot key encoded).sends
        (MemberOp.escalate id at' outcome).sends member ∨
      Json.Backward (MemberOp.entry prot key encoded).sends
        (MemberOp.escalate id at' outcome).sends member := by
  rcases escalate_sent hrace.sent' with ⟨current, hcurrent, hnew⟩
  have hsends := entry_sent hrace.sent
  have hroom : ¬ (MemberOp.escalate id at' outcome).Rewrites ((member.getD .null).mergePatch p) :=
    fun h => h
  by_cases hid : key = id
  · subst hid
    rcases h with hclear | hset
    · subst hclear
      exact absurd ⟨rfl, Or.inl rfl⟩ hover
    · subst hfield
      cases hset with
      | softStop r =>
          have hsorted := (canonical_entry hrace.canonical key).members.1
          rw [hcurrent] at hsends hsorted
          have hagrees := fun k hk v hv => @agrees_of_not_overtakes at' outcome prot key r
            (member.getD .null) current hcurrent hover k hk v hv
          cases hmarks : (Json.obj (marked at' outcome
              (Json.mergeMembers current r.toDict.members))).pyEq
              (.obj (Json.mergeMembers current r.toDict.members)) with
          | true =>
              right
              apply hrace.backward (hrace.symm.room_later (keys_escalate hcurrent))
              apply backward_of_entry (Or.inl fun k hk => entrySends_entry_other hk)
              rw [hcurrent]
              exact backward_entry_escalate hsorted hsends hnew hmarks hagrees
          | false =>
              left
              apply hrace.forward hroom
              apply forward_of_entry (Or.inl fun k hk => entrySends_entry_other hk)
              rw [hcurrent]
              exact forward_entry_escalate hsorted hsends hnew hmarks hagrees
  · left
    apply hrace.forward hroom
    intro k
    exact (independent_of_ne hid (fun k hk => entrySends_entry_other hk)
      (fun k hk => entrySends_escalate_other hk) k _).1

end Escalations

/-!
### Prunes
-/

section Scopes

variable {live live' : List String}

theorem entrySends_scope_live {k : String} (hlive : k ∈ live) (v : Option Json) :
    (MemberOp.scope live).entrySends k v = none := by
  cases v with
  | none => rfl
  | some w => simp [MemberOp.entrySends, hlive]

/-- A prune removes a dead entry. -/
theorem after_scope_dead {k : String} (hlive : k ∉ live) (v : Option Json) :
    Json.after (MemberOp.scope live |>.entrySends k) v = none := by
  cases v with
  | none => rfl
  | some w =>
      have hsent : (MemberOp.scope live).entrySends k (some w) = some .null := by
        simp [MemberOp.entrySends, hlive]
      rw [Json.after_of_some hsent]
      rfl

theorem race_scope_scope (hrace : MapRace (.scope live) (.scope live') member p p') :
    Json.Forward (MemberOp.scope live).sends (MemberOp.scope live').sends member :=
  hrace.forward (fun h => h) fun k => forward_scope (keys_scope live k _)

theorem race_escalate_scope {id outcome : String} {at' : Instant}
    (hrace : MapRace (.escalate id at' outcome) (.scope live) member p p') :
    Json.Forward (MemberOp.escalate id at' outcome).sends (MemberOp.scope live).sends member := by
  rcases escalate_sent hrace.sent with ⟨current, hcurrent, _⟩
  exact hrace.forward (fun h => h) fun k => forward_scope (keys_escalate hcurrent k)

theorem race_scope_escalate {id outcome : String} {at' : Instant}
    (hrace : MapRace (.scope live) (.escalate id at' outcome) member p p')
    (hover : ¬ Overtakes (.scope live) (.escalate id at' outcome) (member.getD .null)) :
    Json.Forward (MemberOp.scope live).sends (MemberOp.escalate id at' outcome).sends member := by
  have hlive : id ∈ live := by
    by_contra hdead
    exact hover hdead
  apply hrace.forward fun h => h
  apply forward_of_entry (Or.inr fun k hk => entrySends_escalate_other hk)
  exact Json.forward_of_first_none (entrySends_scope_live hlive _)

theorem race_scope_entry {field : StatusField} {prot : List String} {key : String}
    {encoded : Json} (hrace : MapRace (.scope live) (.entry prot key encoded) member p p')
    (h : encoded = .null ∨ Encodes field encoded) :
    Json.Forward (MemberOp.scope live).sends (MemberOp.entry prot key encoded).sends member := by
  apply hrace.forward (hrace.room_later fun k => keys_scope live k _)
  apply forward_of_entry (Or.inr fun k hk => entrySends_entry_other hk)
  by_cases hlive : key ∈ live
  · exact Json.forward_of_first_none (entrySends_scope_live hlive _)
  · have hremoved := after_scope_dead hlive ((member.getD .null).members.lookup key)
    have hsends := entry_sent hrace.sent'
    rcases h with hclear | hset
    · subst hclear
      apply forward_entry hsends
      intro _
      rw [hremoved]
      rfl
    · exact forward_set_removed hremoved hsends hset.not_null

theorem race_entry_scope {prot : List String} {key : String} {encoded : Json}
    (hrace : MapRace (.entry prot key encoded) (.scope live) member p p') :
    Json.Forward (MemberOp.entry prot key encoded).sends (MemberOp.scope live).sends member ∨
      Json.Backward (MemberOp.entry prot key encoded).sends (MemberOp.scope live).sends
        member := by
  cases hlookup : (member.getD .null).members.lookup key with
  | some w =>
      left
      apply hrace.forward fun h => h
      apply forward_of_entry (Or.inl fun k hk => entrySends_entry_other hk)
      apply forward_scope
      rw [hlookup]
      exact fun _ => rfl
  | none =>
      right
      apply hrace.backward (hrace.symm.room_later fun k => keys_scope live k _)
      apply backward_of_entry (Or.inl fun k hk => entrySends_entry_other hk)
      rw [hlookup]
      exact Json.backward_of_last_none rfl

end Scopes

end Maps

/-!
## Members of the status
-/

/-- What a scalar member is set to. -/
def PlainScalar (encoded : Json) : Prop :=
  encoded = .null ∨ (exists s, encoded = .str s) ∨ exists n, encoded = .int n

/-- The member that a mutation writes, and what it may write there. -/
def MemberOp.At (k : String) : MemberOp -> Prop
  | entry _ _ encoded => exists field : StatusField,
      k = field.key ∧ (encoded = .null ∨ Encodes field encoded)
  | escalate _ _ _ => k = StatusField.softStops.key
  | scope _ => exists field : StatusField, k = field.key
  | scalar encoded =>
      (forall field : StatusField, k ≠ field.key) ∧ k ≠ deferredEventsKey ∧ PlainScalar encoded
  | append _ _ => k = deferredEventsKey
  | clearEvents => k = deferredEventsKey

section Mutations

variable {protectedIds : StatusField -> List String}

theorem plainScalar_timestamp (at' : Option Instant) :
    PlainScalar ((at'.map timestamp).getD .null) := by
  cases at' with
  | none => exact Or.inl rfl
  | some t => exact Or.inr (Or.inl ⟨_, rfl⟩)

/-- The members of a prune are scopes. -/
theorem lookup_memberOps_prune {liveAnalysisIds liveDatapointIds : Option (List String)}
    {k : String} {m : MemberOp}
    (h : ((StoreMutation.prune liveAnalysisIds liveDatapointIds).memberOps protectedIds).lookup k =
      some m) : (exists live, m = .scope live) ∧ exists field : StatusField, k = field.key := by
  rcases List.mem_filterMap.mp (Members.mem_of_lookup h) with ⟨s, _, hs⟩
  rcases Option.map_eq_some_iff.mp hs with ⟨live, _, heq⟩
  cases heq
  exact ⟨⟨live, rfl⟩, s.1, rfl⟩

/-- Any other mutation writes one member. -/
theorem memberOps_cases (op : StoreMutation) :
    (exists liveAnalysisIds liveDatapointIds, op = .prune liveAnalysisIds liveDatapointIds) ∨
      exists k m, op.memberOps protectedIds = [(k, m)] ∧ m.At k := by
  have hscalar : forall key encoded, (forall field : StatusField, key ≠ field.key) ->
      key ≠ deferredEventsKey -> PlainScalar encoded -> (MemberOp.scalar encoded).At key :=
    fun _ _ hmap hevents hplain => ⟨hmap, hevents, hplain⟩
  cases op with
  | prune liveAnalysisIds liveDatapointIds => exact Or.inl ⟨_, _, rfl⟩
  | setSoftStop id r => exact Or.inr ⟨_, _, rfl, _, rfl, Or.inr (.softStop r)⟩
  | setRequeue id r => exact Or.inr ⟨_, _, rfl, _, rfl, Or.inr (.requeue r)⟩
  | setStartedSince id t => exact Or.inr ⟨_, _, rfl, _, rfl, Or.inr (.startedSince t)⟩
  | setArchivedAnalysis id r => exact Or.inr ⟨_, _, rfl, _, rfl, Or.inr (.archivedAnalysis r)⟩
  | setStopRecord id r => exact Or.inr ⟨_, _, rfl, _, rfl, Or.inr (.stopRecord r)⟩
  | setLastRecycleAt t =>
      exact Or.inr ⟨_, _, rfl, hscalar _ _ (by intro field; cases field <;> decide) (by decide)
        (plainScalar_timestamp t)⟩
  | setLastWebBackgroundRestartAt t =>
      exact Or.inr ⟨_, _, rfl, hscalar _ _ (by intro field; cases field <;> decide) (by decide)
        (plainScalar_timestamp t)⟩
  | setStallWindowStartedAt t =>
      exact Or.inr ⟨_, _, rfl, hscalar _ _ (by intro field; cases field <;> decide) (by decide)
        (plainScalar_timestamp t)⟩
  | setWebBackgroundIneffectiveRestarts n =>
      exact Or.inr ⟨_, _, rfl, hscalar _ _ (by intro field; cases field <;> decide) (by decide)
        (Or.inr (Or.inr ⟨n, rfl⟩))⟩
  | markSoftStopEscalated id at' outcome => exact Or.inr ⟨_, _, rfl, rfl⟩
  | appendDeferredEvent event maxEntries => exact Or.inr ⟨_, _, rfl, rfl⟩
  | clearDeferredEvents => exact Or.inr ⟨_, _, rfl, rfl⟩
  | _ => exact Or.inr ⟨_, _, rfl, _, rfl, Or.inl rfl⟩

/-- What a mutation does to a member belongs there. -/
theorem at_of_lookup {op : StoreMutation} {k : String} {m : MemberOp}
    (h : (op.memberOps protectedIds).lookup k = some m) : m.At k := by
  rcases @memberOps_cases protectedIds op with ⟨_, _, heq⟩ | ⟨k', m', heq, hat⟩
  · subst heq
    rcases lookup_memberOps_prune h with ⟨⟨live, hscope⟩, hfield⟩
    subst hscope
    exact hfield
  · rw [heq] at h
    cases List.mem_singleton.mp (Members.mem_of_lookup h)
    exact hat

end Mutations

section Members

variable {a b : MemberOp} {member : Option Json} {p p' : Json} {k : String}

/-- Two mutations of a map end as one after the other. -/
theorem MapRace.serial (hrace : MapRace a b member p p') (ha : a.At k) (hb : b.At k)
    (hover : ¬ Overtakes a b (member.getD .null)) :
    Json.Forward a.sends b.sends member ∨ Json.Backward a.sends b.sends member := by
  cases a with
  | entry prot key encoded =>
      rcases ha with ⟨field, hfield, h⟩
      subst hfield
      cases b with
      | entry prot' key' encoded' =>
          rcases hb with ⟨field', hfield', h'⟩
          cases StatusField.key_injective hfield'
          exact race_entry_entry hrace h h' hover
      | escalate id at' outcome =>
          exact race_entry_escalate (StatusField.key_injective hb) hrace h hover
      | scope live => exact race_entry_scope hrace
      | _ => exact hrace.onMap'.elim
  | escalate id at' outcome =>
      cases b with
      | entry prot' key' encoded' =>
          rcases hb with ⟨field', hfield', h'⟩
          have hsoft : field' = .softStops :=
            StatusField.key_injective (hfield'.symm.trans ha)
          exact Or.inl (race_escalate_entry hsoft hrace h')
      | escalate id' at'' outcome' => exact Or.inl (race_escalate_escalate hrace)
      | scope live => exact Or.inl (race_escalate_scope hrace)
      | _ => exact hrace.onMap'.elim
  | scope live =>
      cases b with
      | entry prot' key' encoded' =>
          rcases hb with ⟨field', _, h'⟩
          exact Or.inl (race_scope_entry hrace h')
      | escalate id at' outcome => exact Or.inl (race_scope_escalate hrace hover)
      | scope live' => exact Or.inl (race_scope_scope hrace)
      | _ => exact hrace.onMap'.elim
  | _ => exact hrace.onMap.elim

/-- A scalar that compares equal to what is set is the same scalar. -/
theorem PlainScalar.eq_of_pyEq {encoded encoded' : Json} (h : PlainScalar encoded)
    (h' : PlainScalar encoded') (heq : encoded.pyEq encoded' = true) : encoded = encoded' := by
  rcases h' with hnull | ⟨s, hs⟩ | ⟨n, hn⟩
  · rw [hnull] at heq ⊢
    exact Json.eq_null_of_pyEq heq
  · rw [hs] at heq ⊢
    exact Json.eq_str_of_pyEq heq
  · subst hn
    rcases h with hnull | ⟨s, hs⟩ | ⟨n', hn'⟩
    · subst hnull
      simp [Json.pyEq, Json.isNull] at heq
    · subst hs
      simp [Json.pyEq] at heq
    · subst hn'
      simp only [Json.pyEq, Json.number?, beq_iff_eq, Option.some.injEq, Rat.intCast_inj] at heq
      rw [heq]

theorem PlainScalar.mergedMember {encoded : Json} (h : PlainScalar encoded)
    (old : Option Json) :
    Json.mergedMember old encoded = if encoded.isNull then none else some encoded := by
  rcases h with hnull | ⟨s, hs⟩ | ⟨n, hn⟩
  · rw [hnull]
    rfl
  · rw [hs]
    rfl
  · rw [hn]
    rfl

theorem race_scalar_scalar {encoded encoded' : Json} (h : PlainScalar encoded)
    (h' : PlainScalar encoded') (hsent : (MemberOp.scalar encoded).sends member = some p)
    (hsent' : (MemberOp.scalar encoded').sends member = some p') :
    Json.Forward (MemberOp.scalar encoded).sends (MemberOp.scalar encoded').sends member := by
  have hwrites : forall {e : Json} {x : Option Json} {q : Json},
      (MemberOp.scalar e).sends x = some q -> q = e := by
    intro e x q hq
    unfold MemberOp.sends MemberOp.patch at hq
    simp only at hq
    split at hq
    · cases hq
    · exact (Option.some.inj hq).symm
  have hp := hwrites hsent
  have hp' := hwrites hsent'
  subst hp hp'
  rw [Json.Forward, Json.after_of_some hsent, hsent', Json.patched]
  cases hlater : (MemberOp.scalar p').sends (Json.mergedMember member p) with
  | some q =>
      have hq := hwrites hlater
      subst hq
      exact (Json.after_of_some hlater).symm
  | none =>
      -- The second value is skipped only where the first one is the same.
      rw [Json.after_of_none hlater]
      have hsame : ((Json.mergedMember member p).getD .null).pyEq p' = true := by
        unfold MemberOp.sends MemberOp.patch at hlater
        simp only at hlater
        split at hlater
        · assumption
        · cases hlater
      have hvalue : (Json.mergedMember member p).getD .null = p := by
        rw [h.mergedMember]
        rcases h with hnull | ⟨s, hs⟩ | ⟨n, hn⟩
        · rw [hnull]
          rfl
        · rw [hs]
          rfl
        · rw [hn]
          rfl
      rw [hvalue] at hsame
      have heq := h.eq_of_pyEq h' hsame
      subst heq
      rw [h.mergedMember, h.mergedMember]

/-!
### Deferred events
-/

section Events

variable {event event' : List (String × String)} {maxEntries maxEntries' : Option Nat}

theorem append_idle_or_sends (event : List (String × String)) (maxEntries : Option Nat)
    (member : Option Json) :
    ((exists limit, maxEntries = some limit ∧
        limit <= (eventsOf (member.getD .null)).length) ∧
      (MemberOp.append event maxEntries).sends member = none) ∨
    ((forall limit, maxEntries = some limit ->
        (eventsOf (member.getD .null)).length < limit) ∧
      (MemberOp.append event maxEntries).sends member =
        some (.arr (eventsOf (member.getD .null) ++ [encodeEvent event]))) := by
  unfold MemberOp.sends MemberOp.patch
  cases maxEntries with
  | none => simp
  | some limit =>
      by_cases hfull : limit <= (eventsOf (member.getD .null)).length
      · simp [hfull]
      · simp [hfull, Nat.lt_of_not_le hfull]

theorem append_sent (h : (MemberOp.append event maxEntries).sends member = some p) :
    (forall limit, maxEntries = some limit ->
        (eventsOf (member.getD .null)).length < limit) ∧
      p = .arr (eventsOf (member.getD .null) ++ [encodeEvent event]) := by
  rcases append_idle_or_sends event maxEntries member with ⟨_, hnone⟩ | ⟨hroom, hsome⟩
  · rw [hnone] at h
    cases h
  · rw [hsome] at h
    exact ⟨hroom, (Option.some.inj h).symm⟩

/-- A list of one more event, with no room for another. -/
theorem after_append_full (items : List Json)
    (hfull : maxEntries = some (items.length + 1)) (last : Json) :
    Json.after (MemberOp.append event maxEntries).sends (some (.arr (items ++ [last]))) =
      some (.arr (items ++ [last])) := by
  apply Json.after_of_none
  apply patch_of_idle (m := .append event maxEntries)
  exact ⟨_, hfull, by simp [eventsOf]⟩

theorem race_append_append
    (hsent : (MemberOp.append event maxEntries).sends member = some p)
    (hsent' : (MemberOp.append event' maxEntries').sends member = some p')
    (hover : ¬ Overtakes (.append event maxEntries) (.append event' maxEntries')
      (member.getD .null)) :
    Json.Forward (MemberOp.append event maxEntries).sends
        (MemberOp.append event' maxEntries').sends member ∨
      Json.Backward (MemberOp.append event maxEntries).sends
        (MemberOp.append event' maxEntries').sends member := by
  have hafter := Json.after_of_some hsent
  have hafter' := Json.after_of_some hsent'
  rcases append_sent hsent with ⟨_, hp⟩
  rcases append_sent hsent' with ⟨_, hp'⟩
  subst hp hp'
  rw [Json.mergedMember_some rfl, Json.mergePatch] at hafter hafter'
  unfold Json.Forward Json.Backward
  rw [hsent', hafter, hafter', Json.patched, Json.mergedMember_some rfl, Json.mergePatch]
  by_cases hlast : maxEntries = some ((eventsOf (member.getD .null)).length + 1)
  · exact Or.inr (after_append_full _ hlast _).symm
  · left
    by_cases hsame : maxEntries' = some ((eventsOf (member.getD .null)).length + 1) ∧
        encodeEvent event = encodeEvent event'
    · rw [hsame.2]
      exact (after_append_full _ hsame.1 _).symm
    · exact absurd ⟨hlast, hsame⟩ hover

theorem clear_sent (h : MemberOp.clearEvents.sends member = some p) : p = .null := by
  have heq : MemberOp.clearEvents.sends member =
      if (member.getD .null).truthy then some .null else none := rfl
  rw [heq] at h
  split at h
  · exact (Option.some.inj h).symm
  · cases h

theorem race_clear_append (hsent : MemberOp.clearEvents.sends member = some p)
    (hsent' : (MemberOp.append event maxEntries).sends member = some p')
    (hover : ¬ Overtakes .clearEvents (.append event maxEntries) (member.getD .null)) :
    Json.Forward MemberOp.clearEvents.sends (MemberOp.append event maxEntries).sends member := by
  have hempty : eventsOf (member.getD .null) = [] := by
    by_contra hne
    exact hover hne
  have hafter : Json.after MemberOp.clearEvents.sends member = none := by
    rw [Json.after_of_some hsent, clear_sent hsent]
    rfl
  apply Json.forward_of_same
  rw [hafter, hsent']
  rcases append_sent hsent' with ⟨hroom, hp⟩
  rcases append_idle_or_sends event maxEntries none with ⟨⟨limit, hlimit, hfull⟩, _⟩ | ⟨_, hsome⟩
  · have hlt := hroom limit hlimit
    rw [hempty] at hlt
    exact absurd hfull (Nat.not_le_of_lt hlt)
  · rw [hsome, hp, hempty]
    rfl

theorem race_append_clear (hsent : (MemberOp.append event maxEntries).sends member = some p)
    (hsent' : MemberOp.clearEvents.sends member = some p') :
    Json.Forward (MemberOp.append event maxEntries).sends MemberOp.clearEvents.sends member := by
  rcases append_sent hsent with ⟨_, hp⟩
  subst hp
  apply Json.forward_of_same
  rw [hsent', clear_sent hsent', Json.after_of_some hsent, Json.mergedMember_some rfl,
    Json.mergePatch]
  simp [MemberOp.sends, MemberOp.patch, Json.truthy]

theorem race_clear_clear (hsent : MemberOp.clearEvents.sends member = some p)
    (hsent' : MemberOp.clearEvents.sends member = some p') :
    Json.Forward MemberOp.clearEvents.sends MemberOp.clearEvents.sends member := by
  rw [Json.Forward, Json.after_of_some hsent, clear_sent hsent, hsent', clear_sent hsent']
  rfl

end Events

theorem mapKey_ne_events (field : StatusField) : field.key ≠ deferredEventsKey := by
  cases field <;> decide

theorem at_events_of_append {m : MemberOp} (hat : m.At deferredEventsKey) :
    (exists event maxEntries, m = .append event maxEntries) ∨ m = .clearEvents := by
  cases m with
  | append event maxEntries => exact Or.inl ⟨_, _, rfl⟩
  | clearEvents => exact Or.inr rfl
  | entry prot key encoded =>
      rcases hat with ⟨field, hfield, _⟩
      exact absurd hfield.symm (mapKey_ne_events field)
  | escalate id at' outcome => exact absurd hat.symm (mapKey_ne_events .softStops)
  | scope live =>
      rcases hat with ⟨field, hfield⟩
      exact absurd hfield.symm (mapKey_ne_events field)
  | scalar encoded => exact absurd rfl hat.2.1

theorem onMap_of_at {m : MemberOp} {field : StatusField} (hat : m.At field.key) : m.OnMap := by
  cases m with
  | append event maxEntries => exact absurd hat (mapKey_ne_events field)
  | clearEvents => exact absurd hat (mapKey_ne_events field)
  | scalar encoded => exact absurd rfl (hat.1 field)
  | _ => trivial

/-- Two mutations that may race on a member end as one after the other. -/
theorem member_serial (ha : a.At k) (hb : b.At k) (hcanonical : (member.getD .null).Canonical)
    (hcompatible : a.Compatible b (member.getD .null)) :
    Json.Forward a.sends b.sends member ∨ Json.Backward a.sends b.sends member := by
  rcases hcompatible with hidle | hidle | ⟨hroom, hroom', hover, _⟩
  · exact Or.inl (Json.forward_of_first_none (patch_of_idle hidle))
  · exact Or.inr (Json.backward_of_last_none (patch_of_idle hidle))
  · cases hsent : a.sends member with
    | none => exact Or.inl (Json.forward_of_first_none hsent)
    | some p =>
        cases hsent' : b.sends member with
        | none => exact Or.inr (Json.backward_of_last_none hsent')
        | some p' =>
            by_cases hmap : exists field : StatusField, k = field.key
            · rcases hmap with ⟨field, hfield⟩
              subst hfield
              have hrace : MapRace a b member p p' :=
                ⟨onMap_of_at ha, onMap_of_at hb, hcanonical, hroom, hroom', hsent, hsent'⟩
              exact hrace.serial ha hb hover
            · by_cases hevents : k = deferredEventsKey
              · subst hevents
                rcases at_events_of_append ha with ⟨event, maxEntries, heq⟩ | heq <;> subst heq
                · rcases at_events_of_append hb with ⟨event', maxEntries', heq⟩ | heq <;>
                    subst heq
                  · exact race_append_append hsent hsent' hover
                  · exact Or.inl (race_append_clear hsent hsent')
                · rcases at_events_of_append hb with ⟨event', maxEntries', heq⟩ | heq <;>
                    subst heq
                  · exact Or.inl (race_clear_append hsent hsent' hover)
                  · exact Or.inl (race_clear_clear hsent hsent')
              · have hscalar : forall {m : MemberOp}, m.At k ->
                    exists encoded, m = .scalar encoded ∧ PlainScalar encoded := by
                  intro m hat
                  cases m with
                  | scalar encoded => exact ⟨encoded, rfl, hat.2.2⟩
                  | entry prot key encoded => exact absurd ⟨hat.choose, hat.choose_spec.1⟩ hmap
                  | escalate id at' outcome => exact absurd ⟨_, hat⟩ hmap
                  | scope live => exact absurd hat hmap
                  | append event maxEntries => exact absurd hat hevents
                  | clearEvents => exact absurd hat hevents
                rcases hscalar ha with ⟨encoded, heq, hplain⟩
                rcases hscalar hb with ⟨encoded', heq', hplain'⟩
                subst heq heq'
                exact Or.inl (race_scalar_scalar hplain hplain' hsent hsent')

/-- Two prunes of a map always end as the first followed by the second. -/
theorem scopes_forward (live live' : List String) (hcanonical : (member.getD .null).Canonical) :
    Json.Forward (MemberOp.scope live).sends (MemberOp.scope live').sends member := by
  cases hsent : (MemberOp.scope live).sends member with
  | none => exact Json.forward_of_first_none hsent
  | some p =>
      cases hsent' : (MemberOp.scope live').sends member with
      | some p' =>
          exact race_scope_scope
            ⟨trivial, trivial, hcanonical, fun h => h, fun h => h, hsent, hsent'⟩
      | none =>
          -- The second prune finds nothing dead, before or after the first one.
          apply Json.forward_of_same
          rw [hsent']
          have hkeyed := keyed_scope live hcanonical.members.1
          have hafter : Json.after (MemberOp.scope live).sends member =
              some ((member.getD .null).mergePatch p) := by
            rw [Json.after_of_some hsent]
            exact mergedMember_keyed member hkeyed hsent
          rcases hkeyed.mergePatch hsent _ hcanonical.members.1 with ⟨ms, hms, hsorted, hlookup⟩
          rw [hafter, hms]
          apply patch_of_idle (m := .scope live')
          intro entry hentry
          have hstored : ((member.getD .null).members.lookup entry.1).isSome := by
            apply keys_scope live entry.1
            have hmem := Members.lookup_of_mem hsorted hentry
            rw [hlookup] at hmem
            rw [Json.after, hmem]
            rfl
          rcases Option.isSome_iff_exists.mp hstored with ⟨v, hv⟩
          by_contra hdead
          unfold MemberOp.sends MemberOp.patch at hsent'
          simp only at hsent'
          split at hsent'
          · rename_i hempty
            have hkept := List.filter_eq_nil_iff.mp (List.isEmpty_iff.mp hempty) _
              (Members.mem_of_lookup hv)
            simp [hdead] at hkept
          · cases hsent'

end Members

/-!
## The status
-/

section Status

variable (unicode : UnicodeData) (protectedIds : StatusField -> List String)

/-- What a mutation sends for a member of the status. -/
def StoreMutation.sends (op : StoreMutation) (k : String) (member : Option Json) :
    Option Json :=
  ((op.memberOps protectedIds).lookup k).bind fun m => m.sends member

/-- The patch of the status, if the mutation gets to one. -/
def StoreMutation.built (op : StoreMutation) (status : Json) : Option Json :=
  match op.patchFor unicode protectedIds status with
  | .ok patch => patch
  | .error _ => none

/-- Two mutations that may race: on every member that both write. -/
def Compatible (op op' : StoreMutation) (status : Json) : Prop :=
  forall k m m', (op.memberOps protectedIds).lookup k = some m ->
    (op'.memberOps protectedIds).lookup k = some m' ->
      m.Compatible m' (getMember status.members k)

variable {unicode protectedIds}

theorem applyTo_eq_written (op : StoreMutation) (status : Json) :
    op.applyTo unicode protectedIds status =
      Json.written (op.built unicode protectedIds) status := by
  unfold StoreMutation.applyTo Json.written StoreMutation.built StoreMutation.patchFor
  cases readStatus status >>= op.buildPatch unicode protectedIds with
  | error e => rfl
  | ok patch => cases patch <;> rfl

/-- Every mutation works member by member. -/
theorem keyed_built (op : StoreMutation) {status : Json}
    (hread : readStatus status = .ok status.members) :
    Json.Keyed (op.sends protectedIds) (op.built unicode protectedIds) status := by
  have hsplits := @splits unicode protectedIds op status.members
  have hbuilt : op.built unicode protectedIds status =
      match op.buildPatch unicode protectedIds status.members with
      | .ok patch => patch
      | .error _ => none := by
    unfold StoreMutation.built StoreMutation.patchFor
    rw [hread]
    rfl
  unfold StoreMutation.Splits at hsplits
  unfold Json.Keyed
  rw [hbuilt]
  cases hpatch : op.buildPatch unicode protectedIds status.members with
  | error e =>
      rw [hpatch] at hsplits
      exact hsplits
  | ok patch =>
      rw [hpatch] at hsplits
      cases patch with
      | none => exact hsplits
      | some patch => exact hsplits

theorem sends_never {op : StoreMutation} {k : String}
    (h : (op.memberOps protectedIds).lookup k = none) (x : Option Json) :
    op.sends protectedIds k x = none := by
  rw [StoreMutation.sends, h]
  rfl

theorem sends_of_lookup {op : StoreMutation} {k : String} {m : MemberOp}
    (h : (op.memberOps protectedIds).lookup k = some m) :
    op.sends protectedIds k = m.sends := by
  funext x
  rw [StoreMutation.sends, h]
  rfl

theorem compatible_member {op op' : StoreMutation} {status : Json} (hcanonical : status.Canonical)
    (hcompatible : Compatible protectedIds op op' status) (k : String) :
    Json.Forward (op.sends protectedIds k) (op'.sends protectedIds k)
        (status.members.lookup k) ∨
      Json.Backward (op.sends protectedIds k) (op'.sends protectedIds k)
        (status.members.lookup k) := by
  cases hlookup : (op.memberOps protectedIds).lookup k with
  | none => exact Or.inl (Json.forward_of_first_none (sends_never hlookup _))
  | some m =>
      cases hlookup' : (op'.memberOps protectedIds).lookup k with
      | none => exact Or.inr (Json.backward_of_last_none (sends_never hlookup' _))
      | some m' =>
          rw [sends_of_lookup hlookup, sends_of_lookup hlookup']
          exact member_serial (at_of_lookup hlookup) (at_of_lookup hlookup')
            (canonical_entry hcanonical k) (hcompatible k m m' hlookup hlookup')

/-- Members that only one mutation writes do not tell the orders apart. -/
theorem serial_of_single {send send' : String -> Option Json -> Option Json} {key : String}
    {ms : List (String × Json)}
    (hother : (forall k, k ≠ key -> forall v, send k v = none) ∨
      forall k, k ≠ key -> forall v, send' k v = none)
    (hkey : Json.Forward (send key) (send' key) (ms.lookup key) ∨
      Json.Backward (send key) (send' key) (ms.lookup key)) :
    (forall k, Json.Forward (send k) (send' k) (ms.lookup k)) ∨
      forall k, Json.Backward (send k) (send' k) (ms.lookup k) := by
  rcases hkey with hforward | hbackward
  · exact Or.inl (forward_of_entry hother hforward)
  · exact Or.inr (backward_of_entry hother hbackward)

theorem single_never {op : StoreMutation} {key : String} {m : MemberOp}
    (hops : op.memberOps protectedIds = [(key, m)]) (k : String) (hk : k ≠ key)
    (v : Option Json) : op.sends protectedIds k v = none := by
  apply sends_never
  rw [hops, List.lookup_cons, beq_eq_false_iff_ne.mpr hk]
  rfl

/-- One order fits every member. -/
theorem serial_order {op op' : StoreMutation} {status : Json} (hcanonical : status.Canonical)
    (hcompatible : Compatible protectedIds op op' status) :
    (forall k, Json.Forward (op.sends protectedIds k) (op'.sends protectedIds k)
        (status.members.lookup k)) ∨
      forall k, Json.Backward (op.sends protectedIds k) (op'.sends protectedIds k)
        (status.members.lookup k) := by
  rcases @memberOps_cases protectedIds op with ⟨ids, dps, hprune⟩ | ⟨key, m, hops, _⟩
  · rcases @memberOps_cases protectedIds op' with ⟨ids', dps', hprune'⟩ | ⟨key, m, hops, _⟩
    · left
      intro k
      subst hprune hprune'
      cases hlookup : ((StoreMutation.prune ids dps).memberOps protectedIds).lookup k with
      | none => exact Json.forward_of_first_none (sends_never hlookup _)
      | some m =>
          cases hlookup' : ((StoreMutation.prune ids' dps').memberOps protectedIds).lookup k with
          | none => exact Json.forward_of_last_never (sends_never hlookup')
          | some m' =>
              rcases lookup_memberOps_prune hlookup with ⟨⟨live, hscope⟩, _⟩
              rcases lookup_memberOps_prune hlookup' with ⟨⟨live', hscope'⟩, _⟩
              subst hscope hscope'
              rw [sends_of_lookup hlookup, sends_of_lookup hlookup']
              exact scopes_forward live live' (canonical_entry hcanonical k)
    · exact serial_of_single (Or.inr (single_never hops))
        (compatible_member hcanonical hcompatible key)
  · exact serial_of_single (Or.inl (single_never hops))
      (compatible_member hcanonical hcompatible key)

/-- Both computed their patch from the same status. -/
theorem race_serial {op op' : StoreMutation} {status patch patch' : Json}
    (hcanonical : status.Canonical) (hcompatible : Compatible protectedIds op op' status)
    (hpatch : op.patchFor unicode protectedIds status = .ok (some patch))
    (hpatch' : op'.patchFor unicode protectedIds status = .ok (some patch')) :
    (status.mergePatch patch).mergePatch patch' =
        op'.applyTo unicode protectedIds (op.applyTo unicode protectedIds status) ∨
      (status.mergePatch patch).mergePatch patch' =
        op.applyTo unicode protectedIds (op'.applyTo unicode protectedIds status) := by
  have hread : readStatus status = .ok status.members := by
    unfold StoreMutation.patchFor at hpatch
    cases hstatus : readStatus status with
    | error e =>
        rw [hstatus] at hpatch
        cases hpatch
    | ok ms => rw [readStatus_members hstatus]
  have hbuilt : op.built unicode protectedIds status = some patch := by
    rw [StoreMutation.built, hpatch]
  have hbuilt' : op'.built unicode protectedIds status = some patch' := by
    rw [StoreMutation.built, hpatch']
  have hkeyed := @keyed_built unicode protectedIds op status hread
  have hkeyed' := @keyed_built unicode protectedIds op' status hread
  have hwritten : Json.written (op.built unicode protectedIds) status =
      status.mergePatch patch := by
    rw [Json.written, hbuilt]
  have hwritten' : Json.written (op'.built unicode protectedIds) status =
      status.mergePatch patch' := by
    rw [Json.written, hbuilt']
  simp only [applyTo_eq_written]
  rw [hwritten, hwritten']
  rcases serial_order hcanonical hcompatible with hforward | hbackward
  · left
    rcases hkeyed.mergePatch hbuilt status hcanonical.members.1 with ⟨ms, hms, _, _⟩
    refine Json.race_forward hcanonical.members.1 hkeyed hkeyed' hbuilt hbuilt' ?_ hforward
    apply keyed_built
    rw [hms]
    exact readStatus_obj ms
  · right
    rcases hkeyed'.mergePatch hbuilt' status hcanonical.members.1 with ⟨ms, hms, _, _⟩
    refine Json.race_backward hcanonical.members.1 hkeyed hkeyed' hbuilt hbuilt' ?_ hbackward
    apply keyed_built
    rw [hms]
    exact readStatus_obj ms

end Status

/-!
## Runs of two mutations
-/

section Runs

variable (unicode : UnicodeData) (protectedIds : StatusField -> List String)

/-- The runs of two concurrent mutations.  A patch conflicts when its body names
a stale version. -/
def RunOfTwo (ops : Bool -> StoreMutation) (initial : Resource)
    (c : Writers Bool Resource Json) : Prop :=
  Writers.RunIn (fun w => (ops w).buildBody unicode protectedIds) Resource.receive
    Resource.Stale maxConflictRetries (fun _ => True) initial c

variable {unicode protectedIds}

theorem buildBody_some {op : StoreMutation} {r : Resource} {body : Json}
    (h : op.buildBody unicode protectedIds r = .ok (some body)) :
    exists patch, op.patchFor unicode protectedIds r.status = .ok (some patch) ∧
      body = patchBody patch := by
  unfold StoreMutation.buildBody at h
  cases hpatch : op.patchFor unicode protectedIds r.status with
  | error e =>
      rw [hpatch] at h
      cases h
  | ok patch =>
      rw [hpatch] at h
      cases patch with
      | none => cases h
      | some patch =>
          cases h
          exact ⟨patch, rfl, rfl⟩

theorem solo_status {ops : Bool -> StoreMutation} {w : Bool} {r r' : Resource}
    (h : Writers.solo (fun w => (ops w).buildBody unicode protectedIds) Resource.receive w r =
      .ok r') : r'.status = (ops w).applyTo unicode protectedIds r.status := by
  rw [applyTo_eq_written]
  unfold Writers.solo StoreMutation.buildBody at h
  unfold Json.written StoreMutation.built
  cases hpatch : (ops w).patchFor unicode protectedIds r.status with
  | error e =>
      simp only [hpatch] at h
      cases h
  | ok patch =>
      simp only [hpatch] at h
      cases patch with
      | none =>
          cases h
          rfl
      | some patch =>
          cases h
          rfl

theorem Compatible.symm {op op' : StoreMutation} {status : Json}
    (h : Compatible protectedIds op op' status) : Compatible protectedIds op' op status := by
  intro k m m' hm hm'
  rcases h k m' m hm' hm with hidle | hidle | ⟨hroom, hroom', hover, hover'⟩
  · exact Or.inr (Or.inl hidle)
  · exact Or.inl hidle
  · exact Or.inr (Or.inr ⟨hroom', hroom, hover', hover⟩)

/-- Two compatible mutations that both return leave the status as one after the
other does, whatever their steps and retries were. -/
theorem no_update_lost {ops : Bool -> StoreMutation} {initial : Resource}
    (hcanonical : initial.status.Canonical)
    (hcompatible : Compatible protectedIds (ops true) (ops false) initial.status)
    {c : Writers Bool Resource Json} (hrun : RunOfTwo unicode protectedIds ops initial c)
    (hreturned : forall w, c.phase w = .returned) :
    exists w, c.state.status = (ops (!w)).applyTo unicode protectedIds
      ((ops w).applyTo unicode protectedIds initial.status) := by
  have hfree : forall w r body (r' : Resource),
      (ops w).buildBody unicode protectedIds r = .ok (some body) -> ¬ r'.Stale body := by
    intro w r body r' hbody
    rcases buildBody_some hbody with ⟨patch, _, heq⟩
    rw [heq]
    exact not_stale_patchBody r' patch
  rcases Writers.two_writers hfree hrun hreturned with
    ⟨w, r, hsolo, hsolo'⟩ | ⟨w, body, body', hbody, hbody', hstate⟩
  · refine ⟨w, ?_⟩
    rw [solo_status hsolo', solo_status hsolo]
  · rcases buildBody_some hbody with ⟨patch, hpatch, heq⟩
    rcases buildBody_some hbody' with ⟨patch', hpatch', heq'⟩
    subst heq heq'
    have hpair : Compatible protectedIds (ops w) (ops (!w)) initial.status := by
      cases w with
      | true => exact hcompatible
      | false => exact hcompatible.symm
    have hstatus : c.state.status = (initial.status.mergePatch patch).mergePatch patch' := by
      rw [hstate]
      rfl
    rcases race_serial hcanonical hpair hpatch hpatch' with hserial | hserial
    · exact ⟨w, hstatus.trans hserial⟩
    · refine ⟨!w, ?_⟩
      rw [Bool.not_not]
      exact hstatus.trans hserial

end Runs

/-- One datapoint leaves while another one starts. -/
def clockPair (w : Bool) : StoreMutation :=
  if w then .setStartedSince "d1" (days 738000) else .clearStartedSince "d2"

theorem no_update_lost_clocks :
    exists c, RunOfTwo UnicodeData.ascii (fun _ => []) clockPair clockResource c ∧
      (forall w, c.phase w = .returned) ∧
      exists w, c.state.status = (clockPair (!w)).applyTo UnicodeData.ascii (fun _ => [])
        ((clockPair w).applyTo UnicodeData.ascii (fun _ => []) clockResource.status) := by
  have hread : forall w, exists body,
      (clockPair w).buildBody UnicodeData.ascii (fun _ => []) clockResource = .ok (some body) := by
    intro w
    cases w with
    | true => exact ⟨patchBody (clockWrites 0).patch, by decide +kernel⟩
    | false => exact ⟨patchBody (clockWrites 1).patch, by decide +kernel⟩
  rcases hread true with ⟨body, hbody⟩
  rcases hread false with ⟨body', hbody'⟩
  have hrun : RunOfTwo UnicodeData.ascii (fun _ => []) clockPair clockResource
      (Writers.start clockResource) := Relation.ReflTransGen.refl
  have hrun := hrun.tail ⟨trivial, Writers.Step.read (w := true) rfl⟩
  simp only [Writers.start, hbody, Writers.afterRead] at hrun
  have hrun := hrun.tail ⟨trivial, Writers.Step.read (w := false) rfl⟩
  simp only [hbody', Writers.afterRead] at hrun
  have hrun := hrun.tail ⟨trivial, Writers.Step.patch (w := true) rfl⟩
  have hrun := hrun.tail ⟨trivial, Writers.Step.patch (w := false) rfl⟩
  have hcanonical : clockResource.status.Canonical := by
    simp [clockResource, timestamp, Json.Canonical, Json.CanonicalMembers, Json.CanonicalMember,
      Members.Sorted]
  have hcompatible : Compatible (fun _ => []) (clockPair true) (clockPair false)
      clockResource.status := by
    intro k m m' hm hm'
    cases List.mem_singleton.mp (Members.mem_of_lookup hm)
    cases List.mem_singleton.mp (Members.mem_of_lookup hm')
    refine Or.inr (Or.inr ⟨?_, ?_, ?_, ?_⟩)
    · intro h
      exact absurd h.2.1 (by decide)
    · intro h
      exact absurd h.1 (by decide)
    · intro h
      exact absurd h.1 (by decide)
    · intro h
      exact absurd h.1 (by decide)
  refine ⟨_, hrun, ?_, no_update_lost hcanonical hcompatible hrun ?_⟩
  · intro w
    cases w <;> rfl
  · intro w
    cases w <;> rfl

/-- Two Events deferred at the same time. -/
def eventPair (w : Bool) : StoreMutation :=
  .appendDeferredEvent [("message", if w then "first" else "second")] none

def emptyResource : Resource := ⟨.obj [], 1⟩

/-- The list of the second append overwrites the event of the first. -/
theorem update_lost :
    exists c : Writers Bool Resource Json,
      RunOfTwo UnicodeData.ascii (fun _ => []) eventPair emptyResource c ∧
      (forall w, c.phase w = .returned) ∧
      forall w, c.state.status ≠ (eventPair (!w)).applyTo UnicodeData.ascii (fun _ => [])
        ((eventPair w).applyTo UnicodeData.ascii (fun _ => []) emptyResource.status) := by
  have hread : forall w, (eventPair w).buildBody UnicodeData.ascii (fun _ => []) emptyResource =
      .ok (some (patchBody (.obj [("deferredEvents",
        .arr [.obj [("message", .str (if w then "first" else "second"))]])]))) := by
    decide +kernel
  have hrun : RunOfTwo UnicodeData.ascii (fun _ => []) eventPair emptyResource
      (Writers.start emptyResource) := Relation.ReflTransGen.refl
  have hrun := hrun.tail ⟨trivial, Writers.Step.read (w := true) rfl⟩
  simp only [Writers.start, hread, Writers.afterRead] at hrun
  have hrun := hrun.tail ⟨trivial, Writers.Step.read (w := false) rfl⟩
  simp only [hread, Writers.afterRead] at hrun
  have hrun := hrun.tail ⟨trivial, Writers.Step.patch (w := true) rfl⟩
  have hrun := hrun.tail ⟨trivial, Writers.Step.patch (w := false) rfl⟩
  refine ⟨_, hrun, ?_, ?_⟩
  · decide +kernel
  · decide +kernel

end StatusDocument
end OpenStudioOperator
