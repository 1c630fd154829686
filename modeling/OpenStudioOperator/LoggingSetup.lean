import OpenStudioOperator.Foundation.IsoFormat
import OpenStudioOperator.Foundation.JsonText
import OpenStudioOperator.Foundation.Raising

/-!
# Log lines

The formatter of `logging_setup.py`.  A record becomes one JSON object on one line: the
canonical fields, the namespace and the name of the resource that the record is about, what
else the call attached, and a traceback.  A line reads back to exactly that object, and
what a call attaches cannot displace a field that the formatter fills itself.
-/

namespace OpenStudioOperator
namespace LoggingSetup

open Foundation

/-!
## Records
-/

/-- A value that a call attaches to a record, as `json.dumps` takes it: a document, an
object without one (with its `repr`), or an object that fails otherwise.  The texts are those
that an object holds as a dictionary, by key. -/
inductive LogValue where
  | document (j : Json)
  | foreign (repr : String) (texts : List (String × String))
  | refused (error : String) (texts : List (String × String))

/-- The text that the value holds under a key, if it is a dictionary. -/
def LogValue.text? (value : LogValue) (key : String) : Option String :=
  match value with
  | .document j =>
      match j.member? key with
      | some (.str s) => some s
      | _ => none
  | .foreign _ texts => texts.lookup key
  | .refused _ texts => texts.lookup key

/-- A `logging.LogRecord`.  Its message fails where its arguments do not fit; the traceback is
formatted; the attributes are `record.__dict__`. -/
structure LogRecord where
  created : Nat
  levelname : String
  name : String
  message : Except String String
  module : String
  funcName : Option String
  lineno : Int
  exc_info : Option String
  attributes : Dict String LogValue

def reservedLogrecordAttrs : List String :=
  ["args", "asctime", "created", "exc_info", "exc_text", "filename", "funcName", "levelname",
    "levelno", "lineno", "message", "module", "msecs", "msg", "name", "pathname", "process",
    "processName", "relativeCreated", "stack_info", "thread", "threadName", "taskName"]

/-!
## The formatter
-/

/-- The fields that stand on every line. -/
def canonicalFields (record : LogRecord) (message : String) : Dict String Json where
  entries := [("timestamp", .str (IsoFormat.format record.created)),
    ("level", .str record.levelname), ("logger", .str record.name), ("message", .str message),
    ("module", .str record.module),
    ("funcName", match record.funcName with | some f => .str f | none => .null),
    ("lineno", .int record.lineno)]
  nodupKeys := by
    show ["timestamp", "level", "logger", "message", "module", "funcName", "lineno"].Nodup
    decide

/-- The resource's text under a key, unless it is empty. -/
def refText (record : LogRecord) (key : String) : Option String :=
  ((record.attributes.get? "k8s_ref").bind fun ref => ref.text? key).filter fun s => !s.isEmpty

def addRefField (record : LogRecord) (key : String) (payload : Dict String Json) :
    Dict String Json :=
  match refText record key with
  | some s => payload.set key (.str s)
  | none => payload

/-- Keys that are never taken from the attributes. -/
def hiddenKey (key : String) : Bool :=
  reservedLogrecordAttrs.contains key || key.toList.head? == some '_' || key == "k8s_ref"

def addAttribute (payload : Dict String Json) (attr : String × LogValue) :
    Except String (Dict String Json) :=
  if reservedLogrecordAttrs.contains attr.1 then .ok payload
  else if payload.contains attr.1 then .ok payload
  else if attr.1.toList.head? == some '_' then .ok payload
  else if attr.1 == "k8s_ref" then .ok payload
  else
    match attr.2 with
    | .document j => .ok (payload.set attr.1 j)
    | .foreign repr _ => .ok (payload.set attr.1 (.str repr))
    | .refused error _ => .error error

/-- The canonical fields and those of the resource. -/
def ownFields (record : LogRecord) (message : String) : Dict String Json :=
  addRefField record "name" (addRefField record "namespace" (canonicalFields record message))

def payloadOf (record : LogRecord) : Except String (Dict String Json) := do
  let message <- record.message
  let payload <- record.attributes.entries.foldlM addAttribute (ownFields record message)
  match record.exc_info with
  | some traceback => pure (payload.set "exc_info" (.str traceback))
  | none => pure payload

/-- `JsonLogFormatter.format`. -/
def format (record : LogRecord) : Except String String := do
  let payload <- payloadOf record
  pure (String.ofList (JsonText.dumps (.obj payload.entries)))

/-!
## Fields of a line
-/

/-- What a value is on the line. -/
def LogValue.logged : LogValue -> Option Json
  | .document j => some j
  | .foreign repr _ => some (.str repr)
  | .refused _ _ => none

/-- What a line says under a key: the formatter's own fields first, and an attribute
only where none of them stands. -/
def fieldOf (record : LogRecord) (message : String) (key : String) : Option Json :=
  if key = "exc_info" then record.exc_info.map .str
  else
    match (canonicalFields record message).get? key with
    | some j => some j
    | none =>
        match (if key = "namespace" ∨ key = "name" then refText record key else none) with
        | some s => some (.str s)
        | none =>
            if hiddenKey key then none
            else (record.attributes.get? key).bind LogValue.logged

/-- An attribute that the line needs: none of the formatter's own fields has its key. -/
def Emitted (record : LogRecord) (message : String) (key : String) : Prop :=
  hiddenKey key = false ∧ (ownFields record message).get? key = none

theorem get?_addRefField (record : LogRecord) (key key' : String) (payload : Dict String Json) :
    (addRefField record key payload).get? key' =
      match (if key' = key then refText record key' else none) with
      | some s => some (.str s)
      | none => payload.get? key' := by
  unfold addRefField
  by_cases hkey : key' = key
  · subst hkey
    rw [if_pos rfl]
    cases refText record key' with
    | none => rfl
    | some s => exact Dict.get?_set_self _ _ _
  · rw [if_neg hkey]
    cases refText record key with
    | none => rfl
    | some s => exact Dict.get?_set_of_ne _ _ hkey

theorem hiddenKey_eq_false {key : String} : hiddenKey key = false <->
    reservedLogrecordAttrs.contains key = false ∧ (key.toList.head? == some '_') = false ∧
      (key == "k8s_ref") = false := by
  unfold hiddenKey
  rw [Bool.or_eq_false_iff, Bool.or_eq_false_iff, and_assoc]

theorem contains_eq_false {payload : Dict String Json} {key : String} :
    payload.contains key = false <-> payload.get? key = none := by
  unfold Dict.contains
  rw [Option.isSome_eq_false_iff, Option.isNone_iff_eq_none]

/-- An attribute fills its own key, where that is neither hidden nor taken. -/
theorem addAttribute_of_new {payload : Dict String Json} {key : String} (value : LogValue)
    (hhidden : hiddenKey key = false) (hnone : payload.get? key = none) :
    addAttribute payload (key, value) =
      match value with
      | .document j => .ok (payload.set key j)
      | .foreign repr _ => .ok (payload.set key (.str repr))
      | .refused error _ => .error error := by
  rcases hiddenKey_eq_false.mp hhidden with ⟨hreserved, hprivate, href⟩
  unfold addAttribute
  simp only
  rw [if_neg (Bool.eq_false_iff.mp hreserved),
    if_neg (Bool.eq_false_iff.mp (contains_eq_false.mpr hnone)),
    if_neg (Bool.eq_false_iff.mp hprivate), if_neg (Bool.eq_false_iff.mp href)]

theorem addAttribute_of_not_new {payload : Dict String Json} {key : String} (value : LogValue)
    (h : ¬ (hiddenKey key = false ∧ payload.get? key = none)) :
    addAttribute payload (key, value) = .ok payload := by
  rw [hiddenKey_eq_false, ← contains_eq_false] at h
  unfold addAttribute
  simp only
  by_cases hreserved : reservedLogrecordAttrs.contains key = true
  · rw [if_pos hreserved]
  by_cases htaken : payload.contains key = true
  · rw [if_neg hreserved, if_pos htaken]
  by_cases hprivate : (key.toList.head? == some '_') = true
  · rw [if_neg hreserved, if_neg htaken, if_pos hprivate]
  by_cases href : (key == "k8s_ref") = true
  · rw [if_neg hreserved, if_neg htaken, if_neg hprivate, if_pos href]
  · exfalso
    apply h
    exact ⟨⟨Bool.eq_false_iff.mpr hreserved, Bool.eq_false_iff.mpr hprivate,
      Bool.eq_false_iff.mpr href⟩, Bool.eq_false_iff.mpr htaken⟩

/-- What the attributes leave in a payload: a key keeps what it has, and else takes the
attribute of that name. -/
theorem get?_foldlM_addAttribute {attributes : List (String × LogValue)} :
    forall {payload payload' : Dict String Json},
      attributes.foldlM addAttribute payload = .ok payload' ->
      forall key, payload'.get? key =
        match payload.get? key with
        | some j => some j
        | none => if hiddenKey key then none else (attributes.lookup key).bind LogValue.logged := by
  induction attributes with
  | nil =>
      intro payload payload' h key
      cases h
      cases payload.get? key with
      | none => cases hiddenKey key <;> rfl
      | some j => rfl
  | cons attr rest ih =>
      rcases attr with ⟨key', value⟩
      intro payload payload' h key
      rw [List.foldlM_cons] at h
      rcases bind_ok_iff.mp h with ⟨middle, hmiddle, hrest⟩
      rw [ih hrest key]
      by_cases hnew : hiddenKey key' = false ∧ payload.get? key' = none
      · rw [addAttribute_of_new value hnew.1 hnew.2] at hmiddle
        have hset : exists j, value.logged = some j ∧ middle = payload.set key' j := by
          cases value with
          | document j =>
              cases hmiddle
              exact ⟨j, rfl, rfl⟩
          | foreign repr texts =>
              cases hmiddle
              exact ⟨_, rfl, rfl⟩
          | refused error texts => cases hmiddle
        rcases hset with ⟨j, hlogged, hset⟩
        rw [hset]
        by_cases hkey : key = key'
        · rw [hkey, Dict.get?_set_self, hnew.2, List.lookup_cons_self, hnew.1]
          exact hlogged.symm
        · rw [Dict.get?_set_of_ne _ _ hkey, List.lookup_cons, beq_eq_false_iff_ne.mpr hkey]
      · rw [addAttribute_of_not_new value hnew] at hmiddle
        cases hmiddle
        by_cases hkey : key = key'
        · rw [hkey]
          cases htaken : payload.get? key' with
          | some j => rfl
          | none =>
              have hhidden : hiddenKey key' = true := by
                cases hh : hiddenKey key' with
                | true => rfl
                | false => exact absurd ⟨hh, htaken⟩ hnew
              rw [hhidden]
              rfl
        · rw [List.lookup_cons, beq_eq_false_iff_ne.mpr hkey]

/-- The attributes are taken in unless one that the payload needs is refused. -/
theorem foldlM_addAttribute_ok_iff {attributes : List (String × LogValue)} :
    forall {payload : Dict String Json},
      (exists payload', attributes.foldlM addAttribute payload = .ok payload') <->
        forall key value, attributes.lookup key = some value -> hiddenKey key = false ->
          payload.get? key = none -> value.logged ≠ none := by
  induction attributes with
  | nil =>
      intro payload
      exact ⟨fun _ _ _ h => (nomatch h), fun _ => ⟨payload, rfl⟩⟩
  | cons attr rest ih =>
      rcases attr with ⟨key', value'⟩
      intro payload
      by_cases hnew : hiddenKey key' = false ∧ payload.get? key' = none
      · have hstep := addAttribute_of_new value' hnew.1 hnew.2
        cases hlogged : value'.logged with
        | none =>
            cases value' with
            | document j => cases hlogged
            | foreign repr texts => cases hlogged
            | refused error texts =>
                constructor
                · rintro ⟨payload', h⟩
                  rw [List.foldlM_cons, hstep] at h
                  cases h
                · intro h
                  exact absurd hlogged
                    (h key' _ List.lookup_cons_self hnew.1 hnew.2)
        | some j =>
            have hset : addAttribute payload (key', value') = .ok (payload.set key' j) := by
              rw [hstep]
              cases value' with
              | document j' =>
                  cases hlogged
                  rfl
              | foreign repr texts =>
                  cases hlogged
                  rfl
              | refused error texts => cases hlogged
            rw [List.foldlM_cons, hset]
            refine ih.trans ?_
            constructor
            · intro h key value hlookup hhidden hnone
              by_cases hkey : key = key'
              · rw [hkey, List.lookup_cons_self] at hlookup
                rw [← Option.some.inj hlookup, hlogged]
                exact Option.some_ne_none j
              · rw [List.lookup_cons, beq_eq_false_iff_ne.mpr hkey] at hlookup
                exact h key value hlookup hhidden (by rw [Dict.get?_set_of_ne _ _ hkey, hnone])
            · intro h key value hlookup hhidden hnone
              by_cases hkey : key = key'
              · rw [hkey, Dict.get?_set_self] at hnone
                cases hnone
              · rw [Dict.get?_set_of_ne _ _ hkey] at hnone
                apply h key value ?_ hhidden hnone
                rw [List.lookup_cons, beq_eq_false_iff_ne.mpr hkey]
                exact hlookup
      · rw [List.foldlM_cons, addAttribute_of_not_new value' hnew]
        refine ih.trans ?_
        constructor
        · intro h key value hlookup hhidden hnone
          by_cases hkey : key = key'
          · rw [hkey] at hhidden hnone
            exact absurd ⟨hhidden, hnone⟩ hnew
          · rw [List.lookup_cons, beq_eq_false_iff_ne.mpr hkey] at hlookup
            exact h key value hlookup hhidden hnone
        · intro h key value hlookup hhidden hnone
          by_cases hkey : key = key'
          · rw [hkey] at hhidden hnone
            exact absurd ⟨hhidden, hnone⟩ hnew
          · apply h key value ?_ hhidden hnone
            rw [List.lookup_cons, beq_eq_false_iff_ne.mpr hkey]
            exact hlookup

theorem get?_ownFields (record : LogRecord) (message key : String) :
    (ownFields record message).get? key =
      match (canonicalFields record message).get? key with
      | some j => some j
      | none =>
          match (if key = "namespace" ∨ key = "name" then refText record key else none) with
          | some s => some (.str s)
          | none => none := by
  have hnames : (canonicalFields record message).get? "namespace" = none ∧
      (canonicalFields record message).get? "name" = none := ⟨rfl, rfl⟩
  unfold ownFields
  rw [get?_addRefField, get?_addRefField]
  by_cases hnamespace : key = "namespace"
  · rw [if_neg (by rw [hnamespace]; decide), if_pos hnamespace, if_pos (Or.inl hnamespace),
      hnamespace, hnames.1]
  by_cases hname : key = "name"
  · rw [if_pos hname, if_neg hnamespace, if_pos (Or.inr hname), hname, hnames.2]
  · rw [if_neg hname, if_neg hnamespace, if_neg (by rintro (h | h) <;> contradiction)]
    cases (canonicalFields record message).get? key <;> rfl

/-- A payload says under each key what the line is to say. -/
theorem get?_payloadOf {record : LogRecord} {payload : Dict String Json}
    (h : payloadOf record = .ok payload) :
    exists message, record.message = .ok message ∧
      forall key, payload.get? key = fieldOf record message key := by
  rcases bind_ok_iff.mp h with ⟨message, hmessage, hrest⟩
  rcases bind_ok_iff.mp hrest with ⟨middle, hmiddle, hlast⟩
  refine ⟨message, hmessage, ?_⟩
  intro key
  have hfields := get?_foldlM_addAttribute hmiddle key
  rw [get?_ownFields] at hfields
  unfold fieldOf
  by_cases hexc : key = "exc_info"
  · rw [if_pos hexc]
    cases hinfo : record.exc_info with
    | some traceback =>
        rw [hinfo] at hlast
        cases hlast
        rw [hexc, Dict.get?_set_self]
        rfl
    | none =>
        rw [hinfo] at hlast
        cases hlast
        rw [hfields, hexc]
        rfl
  · have hsame : payload.get? key = middle.get? key := by
      cases hinfo : record.exc_info with
      | some traceback =>
          rw [hinfo] at hlast
          cases hlast
          exact Dict.get?_set_of_ne _ _ hexc
      | none =>
          rw [hinfo] at hlast
          cases hlast
          rfl
    rw [if_neg hexc, hsame, hfields]
    cases (canonicalFields record message).get? key with
    | some j => rfl
    | none =>
        simp only
        cases (if key = "namespace" ∨ key = "name" then refText record key else none) <;> rfl

/-!
## Lines read back
-/

/-- The documents that a call attaches can be written and read. -/
def LogRecord.Readable (floatOf : List Char -> FloatNumber) (record : LogRecord) : Prop :=
  forall key j, record.attributes.get? key = some (.document j) -> JsonText.Readable floatOf j

theorem readable_fieldOf {floatOf : List Char -> FloatNumber} {record : LogRecord}
    (hrecord : record.Readable floatOf) {message key : String} {j : Json}
    (h : fieldOf record message key = some j) : JsonText.Readable floatOf j := by
  unfold fieldOf at h
  split at h
  · cases hinfo : record.exc_info with
    | none =>
        rw [hinfo] at h
        cases h
    | some traceback =>
        rw [hinfo] at h
        cases h
        trivial
  split at h
  · rename_i k hcanonical
    cases h
    have hmem := Members.mem_of_lookup hcanonical
    simp only [canonicalFields, List.mem_cons, Prod.mk.injEq, List.not_mem_nil, or_false] at hmem
    rcases hmem with ⟨_, hj⟩ | ⟨_, hj⟩ | ⟨_, hj⟩ | ⟨_, hj⟩ | ⟨_, hj⟩ | ⟨_, hj⟩ | ⟨_, hj⟩
    all_goals rw [hj]
    any_goals trivial
    cases record.funcName <;> trivial
  split at h
  · cases h
    trivial
  split at h
  · cases h
  · rcases Option.bind_eq_some_iff.mp h with ⟨value, hvalue, hlogged⟩
    cases value with
    | document k =>
        cases hlogged
        exact hrecord key j hvalue
    | foreign repr texts =>
        cases hlogged
        trivial
    | refused error texts => cases hlogged

theorem readable_payload {floatOf : List Char -> FloatNumber} {record : LogRecord}
    (hrecord : record.Readable floatOf) {payload : Dict String Json}
    (h : payloadOf record = .ok payload) :
    JsonText.Readable floatOf (.obj payload.entries) := by
  rcases get?_payloadOf h with ⟨message, _, hfields⟩
  refine ⟨payload.nodupKeys, JsonText.membersReadable_of_forall ?_⟩
  intro m hm
  have hget := (payload.mem_entries_iff_get? m.1 m.2).mp hm
  exact readable_fieldOf hrecord ((hfields m.1).symm.trans hget)

/-- A record is written unless its message fails or an attribute that the line needs does. -/
theorem format_ok_iff (record : LogRecord) :
    (exists line, format record = .ok line) <->
      exists message, record.message = .ok message ∧
        forall key value, record.attributes.get? key = some value ->
          Emitted record message key -> value.logged ≠ none := by
  have hpayload : (exists line, format record = .ok line) <->
      exists payload, payloadOf record = .ok payload := by
    constructor
    · rintro ⟨line, h⟩
      rcases bind_ok_iff.mp h with ⟨payload, hpayload, _⟩
      exact ⟨payload, hpayload⟩
    · rintro ⟨payload, h⟩
      exact ⟨_, bind_ok_iff.mpr ⟨payload, h, rfl⟩⟩
  rw [hpayload]
  constructor
  · rintro ⟨payload, h⟩
    rcases bind_ok_iff.mp h with ⟨message, hmessage, hrest⟩
    rcases bind_ok_iff.mp hrest with ⟨middle, hmiddle, _⟩
    refine ⟨message, hmessage, ?_⟩
    intro key value hvalue hemitted
    exact foldlM_addAttribute_ok_iff.mp ⟨middle, hmiddle⟩ key value hvalue hemitted.1 hemitted.2
  · rintro ⟨message, hmessage, hall⟩
    rcases foldlM_addAttribute_ok_iff.mpr fun key value hvalue hhidden hnone =>
      hall key value hvalue ⟨hhidden, hnone⟩ with ⟨middle, hmiddle⟩
    unfold payloadOf
    rw [hmessage]
    cases hinfo : record.exc_info with
    | none => exact ⟨middle, bind_ok_iff.mpr ⟨_, rfl, bind_ok_iff.mpr ⟨_, hmiddle, rfl⟩⟩⟩
    | some traceback =>
        exact ⟨_, bind_ok_iff.mpr ⟨_, rfl, bind_ok_iff.mpr ⟨_, hmiddle, rfl⟩⟩⟩

/-- A line has no line break within, and reads back to one object that says under each key
what the record's own fields say, and an attribute only where they say nothing. -/
theorem log_line_reads_back (floatOf : List Char -> FloatNumber) (record : LogRecord)
    (hrecord : record.Readable floatOf) :
    (forall line, format record = .ok line ->
      (forall c, c ∈ line.toList -> 32 <= c.toNat) ∧
        exists message members, record.message = .ok message ∧
          JsonText.loads floatOf line.toList = some (.obj members) ∧
          (members.map Prod.fst).Nodup ∧
          forall key, members.lookup key = fieldOf record message key) ∧
      ((exists line, format record = .ok line) <->
        exists message, record.message = .ok message ∧
          forall key value, record.attributes.get? key = some value ->
            Emitted record message key -> value.logged ≠ none) := by
  refine ⟨?_, format_ok_iff record⟩
  intro line h
  rcases bind_ok_iff.mp h with ⟨payload, hpayload, hline⟩
  have hreadable := readable_payload hrecord hpayload
  rcases get?_payloadOf hpayload with ⟨message, hmessage, hfields⟩
  cases hline
  rw [String.toList_ofList]
  refine ⟨JsonText.not_control_dumps _ hreadable, message, payload.entries, hmessage,
    JsonText.loads_dumps hreadable, payload.nodupKeys, hfields⟩

/-- A record about a resource, whose call also attaches a level and half a second. -/
def sampleRecord : LogRecord where
  created := 1500000
  levelname := "INFO"
  name := "kopf.objects"
  message := .ok "a \"tick\"\nof 0.5 s"
  module := "handlers"
  funcName := none
  lineno := 42
  exc_info := none
  attributes := ⟨[("k8s_ref", .document (.obj [("namespace", .str "osc"), ("name", .str "")])),
    ("level", .foreign "<Level>" []), ("namespace", .document (.str "other")),
    ("seconds", .document (.float (.finite (1 / 2) "0.5"))), ("_private", .refused "cycle" [])],
    by decide⟩

theorem sampleRecord_readable :
    sampleRecord.Readable fun text => .finite (1 / 2) (String.ofList text) := by
  intro key j h
  have hmem := Members.mem_of_lookup h
  simp only [sampleRecord, List.mem_cons, Prod.mk.injEq, LogValue.document.injEq, reduceCtorEq,
    and_false, false_or, List.not_mem_nil, or_false] at hmem
  rcases hmem with ⟨_, hj⟩ | ⟨_, hj⟩ | ⟨_, hj⟩
  all_goals rw [hj]
  · exact ⟨by decide, trivial, trivial, trivial⟩
  · trivial
  · show _ = _
    decide +kernel

theorem log_line_reads_back_sampleRecord :
    exists line members, format sampleRecord = .ok line ∧
      JsonText.loads (fun text => .finite (1 / 2) (String.ofList text)) line.toList =
        some (.obj members) ∧
      members.lookup "level" = some (.str "INFO") ∧
      members.lookup "namespace" = some (.str "osc") ∧ members.lookup "name" = none := by
  have hall := log_line_reads_back _ sampleRecord sampleRecord_readable
  have hline : exists line, format sampleRecord = .ok line := by
    apply hall.2.mpr
    refine ⟨_, rfl, ?_⟩
    intro key value h hemitted
    have hmem := Members.mem_of_lookup h
    simp only [sampleRecord, List.mem_cons, Prod.mk.injEq, List.not_mem_nil, or_false] at hmem
    rcases hmem with ⟨_, hv⟩ | ⟨_, hv⟩ | ⟨_, hv⟩ | ⟨_, hv⟩ | ⟨hk, hv⟩
    · rw [hv]
      exact Option.some_ne_none _
    · rw [hv]
      exact Option.some_ne_none _
    · rw [hv]
      exact Option.some_ne_none _
    · rw [hv]
      exact Option.some_ne_none _
    · rw [hk] at hemitted
      cases hemitted.1
  rcases hline with ⟨line, hline⟩
  rcases (hall.1 line hline).2 with ⟨message, members, hmessage, hloads, _, hfields⟩
  refine ⟨line, members, hline, hloads, ?_, ?_, ?_⟩
  · rw [hfields]
    rfl
  · rw [hfields]
    rfl
  · rw [hfields]
    rfl

end LoggingSetup
end OpenStudioOperator
