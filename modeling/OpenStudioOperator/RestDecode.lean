import OpenStudioOperator.Foundation.Raising
import OpenStudioOperator.OpenStudioClient
import OpenStudioOperator.StatusDocument

/-!
# Bodies of responses

The client reads the body of a response as JSON and replaces the timestamps in it
by instants.  What goes wrong on the way is to reach the caller as an error of the
client.
-/

namespace OpenStudioOperator
namespace OpenStudioClient

open Foundation

/-- A value of the client: JSON with instants. -/
inductive Value where
  | null
  | bool (b : Bool)
  | int (n : Int)
  | float (x : FloatNumber)
  | str (s : String)
  | instant (t : Instant)
  | arr (items : List Value)
  | obj (members : List (String × Value))

/-- An exception on the way from the body to the value: the `JSONDecodeError` of the
library, another `ValueError`, or an exception of another class. -/
inductive BodyExc where
  | jsonDecodeError (text : String)
  | valueError (text : String)
  | other (exc : TransportException)
deriving DecidableEq, Repr

/-- The exception of a call that the stack has no room for. -/
def recursionError : BodyExc :=
  .other { className := "RecursionError", text := "maximum recursion depth exceeded" }

/-- `key.endswith(("_at", "_time"))`. -/
def isTimestampKey (key : String) : Bool :=
  "_at".toList.isSuffixOf key.toList || "_time".toList.isSuffixOf key.toList

/-- The text of a member that is a timestamp. -/
def timestampText (key : String) : Json -> Option String
  | .str text => if isTimestampKey key then some text else none
  | _ => none

/-- A value that is no container, as it is. -/
def plain : Json -> Value
  | .null => .null
  | .bool b => .bool b
  | .int n => .int n
  | .float x => .float x
  | .str s => .str s
  | .arr _ => .arr []
  | .obj _ => .obj []

section Decode

variable (unicode : UnicodeData)

/-- `parse_iso_utc` of a text. -/
def parseText (text : String) : Except BodyExc Instant :=
  match StatusDocument.parseIsoUtc unicode (.str text) with
  | .ok t => .ok t
  | .error (.valueError message) => .error (.valueError message)
  | .error (.typeError message) => .error (.other { className := "TypeError", text := message })
  | .error (.overflowError message) =>
      .error (.other { className := "OverflowError", text := message })
  | .error (.attributeError message) =>
      .error (.other { className := "AttributeError", text := message })
  | .error (.statusStoreError message) =>
      .error (.other { className := "StatusStoreError", text := message })

/-- The room that a call leaves on the stack. -/
def enter : Nat -> Except BodyExc Nat
  | 0 => .error recursionError
  | room + 1 => .ok room

mutual

/-- `_normalize_timestamps`, with room for so many calls inside each other. -/
def normalizeTimestamps (room : Nat) : Json -> Except BodyExc Value
  | .obj members => do
      let room ← enter room
      let members ← normalizeMembers room members
      return .obj members
  | .arr items => do
      let room ← enter room
      let items ← normalizeItems room items
      return .arr items
  | j => do
      let _ ← enter room
      return plain j

def normalizeItems (room : Nat) : List Json -> Except BodyExc (List Value)
  | [] => .ok []
  | j :: rest => do
      let v ← normalizeTimestamps room j
      let vs ← normalizeItems room rest
      return v :: vs

def normalizeMembers (room : Nat) : List (String × Json) -> Except BodyExc (List (String × Value))
  | [] => .ok []
  | m :: rest => do
      let v ← normalizeMember room m
      let vs ← normalizeMembers room rest
      return v :: vs

def normalizeMember (room : Nat) : String × Json -> Except BodyExc (String × Value)
  | (key, j) =>
      match timestampText key j with
      | some text => do
          let _ ← enter room
          let t ← parseText unicode text
          return (key, .instant t)
      | none => do
          let v ← normalizeTimestamps room j
          return (key, v)

end

/-- The `try` block of `_request_json`, on the outcome of `response.json()`. -/
def decodeBody (room : Nat) (request : Request) (body : Except BodyExc Json) :
    Except RequestError Value :=
  match body.bind (normalizeTimestamps unicode room) with
  | .ok value => .ok value
  | .error (.jsonDecodeError text) =>
      .error (.openStudioApiError
        (request.method ++ " " ++ request.path ++ ": invalid JSON in response")
        (some { className := "JSONDecodeError", text := text }))
  | .error (.valueError text) =>
      .error (.openStudioApiError (request.method ++ " " ++ request.path ++ ": " ++ text)
        (some { className := "ValueError", text := text }))
  | .error (.other exc) => .error (.raised exc)

/-- `_request_json`; `json` is the library's reading of a response. -/
def Client.requestJson (client : Client) (json : Response -> Except BodyExc Json) (room : Nat)
    (request : Request) (transport : Nat -> TransportOutcome) :
    Except RequestError Value × List ClientStep :=
  match client.call request transport with
  | (.ok response, log) => (decodeBody unicode room request (json response), log)
  | (.error err, log) => (.error err, log)

/-!
## Places in a document
-/

/-- What stands at a place, with the key if it is a member of an object.  A place is
given by the positions on the way to it. -/
def jsonAt (key : Option String) : Json -> List Nat -> Option (Option String × Json)
  | j, [] => some (key, j)
  | .obj members, n :: path =>
      match members[n]? with
      | some (k, j) => jsonAt (some k) j path
      | none => none
  | .arr items, n :: path =>
      match items[n]? with
      | some j => jsonAt none j path
      | none => none
  | _, _ :: _ => none

def valueAt (key : Option String) : Value -> List Nat -> Option (Option String × Value)
  | v, [] => some (key, v)
  | .obj members, n :: path =>
      match members[n]? with
      | some (k, v) => valueAt (some k) v path
      | none => none
  | .arr items, n :: path =>
      match items[n]? with
      | some v => valueAt none v path
      | none => none
  | _, _ :: _ => none

/-- What the value has where the document has `j`: the instant at a timestamp, a
container of the same size or keys, and else `j`. -/
def Kept (key : Option String) (j : Json) (v : Value) : Prop :=
  match key.bind fun k => timestampText k j with
  | some text => exists t, parseText unicode text = .ok t ∧ v = .instant t
  | none =>
      match j with
      | .obj members => exists vs, v = .obj vs ∧ vs.map Prod.fst = members.map Prod.fst
      | .arr items => exists vs, v = .arr vs ∧ vs.length = items.length
      | _ => v = plain j

/-- The value has the places of the document, and keeps what stands there but for the
timestamps. -/
def Replaced (j : Json) (v : Value) : Prop :=
  forall path, Option.Rel (fun a b => b.1 = a.1 ∧ Kept unicode a.1 a.2 b.2)
    (jsonAt none j path) (valueAt none v path)

/-- The text is a timestamp at some place of the document. -/
def Stamped (j : Json) (text : String) : Prop :=
  exists path key j', jsonAt none j path = some (some key, j') ∧
    timestampText key j' = some text

/-- A value has its timestamps replaced; otherwise the error is one of the client, and
the body is not JSON or a timestamp in it is no instant. -/
structure DecodeDiscipline (body : Except BodyExc Json) (result : Except RequestError Value) :
    Prop where
  returned : forall v, result = .ok v -> exists j, body = .ok j ∧ Replaced unicode j v
  raised : forall err, result = .error err ->
    (exists message cause, err = .openStudioApiError message cause) ∧
      ((exists exc, body = .error exc) ∨
        exists j text, body = .ok j ∧ Stamped j text ∧
          forall t, parseText unicode text ≠ .ok t)

/-!
## Faults
-/

/-- What goes wrong at a call that the stack may have no room for. -/
def roomFault (room : Nat) : List BodyExc :=
  match room with
  | 0 => [recursionError]
  | _ + 1 => []

/-- What goes wrong at a timestamp. -/
def stampFault (room : Nat) (text : String) : List BodyExc :=
  match room with
  | 0 => [recursionError]
  | _ + 1 =>
      match parseText unicode text with
      | .ok _ => []
      | .error exc => [exc]

mutual

/-- What goes wrong in a document, in its order; below a call without room nothing is
read. -/
def faults (room : Nat) : Json -> List BodyExc
  | .obj members =>
      match room with
      | 0 => [recursionError]
      | room + 1 => memberFaults room members
  | .arr items =>
      match room with
      | 0 => [recursionError]
      | room + 1 => itemFaults room items
  | _ => roomFault room

def itemFaults (room : Nat) : List Json -> List BodyExc
  | [] => []
  | j :: rest => faults room j ++ itemFaults room rest

def memberFaults (room : Nat) : List (String × Json) -> List BodyExc
  | [] => []
  | m :: rest => memberFault room m ++ memberFaults room rest

def memberFault (room : Nat) : String × Json -> List BodyExc
  | (key, j) =>
      match timestampText key j with
      | some text => stampFault unicode room text
      | none => faults room j

end

/-- An exception that is no `ValueError`. -/
def BodyExc.Escapes (exc : BodyExc) : Prop :=
  exists raised, exc = .other raised

/-- The body is read without an exception that escapes, and if something is wrong in
the document, the first thing is no such exception. -/
def Orderly (room : Nat) (body : Except BodyExc Json) : Prop :=
  match body with
  | .error exc => ¬ exc.Escapes
  | .ok j => forall exc, (faults unicode room j).head? = some exc -> ¬ exc.Escapes

end Decode

/-!
## The first fault is raised
-/

/-- The result is the first fault, or there is none and a value. -/
def Raises {alpha : Type} (fs : List BodyExc) (result : Except BodyExc alpha) : Prop :=
  match fs with
  | [] => exists v, result = .ok v
  | exc :: _ => result = .error exc

section Raising

variable {unicode : UnicodeData} {alpha beta : Type}

theorem Raises.map {fs : List BodyExc} {x : Except BodyExc alpha} (f : alpha -> beta)
    (h : Raises fs x) : Raises fs (x.bind fun a => .ok (f a)) := by
  cases fs with
  | nil =>
      rcases h with ⟨v, hv⟩
      rw [hv]
      exact ⟨f v, rfl⟩
  | cons exc rest =>
      rw [show x = .error exc from h]
      rfl

/-- Two parts of a document, one after the other. -/
theorem Raises.append {gamma : Type} {fs gs : List BodyExc} {x : Except BodyExc alpha}
    {y : Except BodyExc beta} (f : alpha -> beta -> gamma) (hx : Raises fs x)
    (hy : Raises gs y) :
    Raises (fs ++ gs) (x.bind fun a => y.bind fun b => .ok (f a b)) := by
  cases fs with
  | nil =>
      rcases hx with ⟨a, ha⟩
      rw [ha]
      exact hy.map (f a)
  | cons exc rest =>
      rw [show x = .error exc from hx]
      rfl

theorem raises_stamp (room : Nat) (key text : String) :
    Raises (stampFault unicode room text)
      ((enter room).bind fun _ => (parseText unicode text).bind fun t =>
        .ok (key, Value.instant t)) := by
  cases room with
  | zero => rfl
  | succ room =>
      unfold stampFault
      cases hparse : parseText unicode text with
      | ok t => exact ⟨(key, .instant t), by simp only [enter, Except.bind]⟩
      | error exc => rfl

mutual

theorem raises_normalizeTimestamps : forall (room : Nat) (j : Json),
    Raises (faults unicode room j) (normalizeTimestamps unicode room j)
  | 0, .obj _ => rfl
  | room + 1, .obj members => (raises_normalizeMembers room members).map Value.obj
  | 0, .arr _ => rfl
  | room + 1, .arr items => (raises_normalizeItems items room).map Value.arr
  | 0, .null => rfl
  | _ + 1, .null => ⟨_, rfl⟩
  | 0, .bool _ => rfl
  | _ + 1, .bool _ => ⟨_, rfl⟩
  | 0, .int _ => rfl
  | _ + 1, .int _ => ⟨_, rfl⟩
  | 0, .float _ => rfl
  | _ + 1, .float _ => ⟨_, rfl⟩
  | 0, .str _ => rfl
  | _ + 1, .str _ => ⟨_, rfl⟩

theorem raises_normalizeItems : forall (items : List Json) (room : Nat),
    Raises (itemFaults unicode room items) (normalizeItems unicode room items)
  | [], _ => ⟨[], rfl⟩
  | j :: rest, room =>
      (raises_normalizeTimestamps room j).append List.cons (raises_normalizeItems rest room)

theorem raises_normalizeMembers : forall (room : Nat) (members : List (String × Json)),
    Raises (memberFaults unicode room members) (normalizeMembers unicode room members)
  | _, [] => ⟨[], rfl⟩
  | room, m :: rest =>
      (raises_normalizeMember room m).append List.cons (raises_normalizeMembers room rest)

theorem raises_normalizeMember : forall (room : Nat) (m : String × Json),
    Raises (memberFault unicode room m) (normalizeMember unicode room m)
  | room, (key, j) => by
      simp only [memberFault, normalizeMember]
      cases timestampText key j with
      | some text => exact raises_stamp room key text
      | none => exact (raises_normalizeTimestamps room j).map (Prod.mk key)

end

end Raising

/-!
## Places
-/

section Places

variable {unicode : UnicodeData}

theorem mem_itemFaults {room : Nat} {items : List Json} {exc : BodyExc}
    (h : exc ∈ itemFaults unicode room items) :
    exists (n : Nat) (j : Json), items[n]? = some j ∧ exc ∈ faults unicode room j := by
  induction items with
  | nil => cases h
  | cons j rest ih =>
      rcases List.mem_append.mp h with hhead | htail
      · exact ⟨0, j, rfl, hhead⟩
      · rcases ih htail with ⟨n, j', hget, hmem⟩
        exact ⟨n + 1, j', hget, hmem⟩

theorem mem_memberFaults {room : Nat} {members : List (String × Json)} {exc : BodyExc}
    (h : exc ∈ memberFaults unicode room members) :
    exists (n : Nat) (m : String × Json), members[n]? = some m ∧
      exc ∈ memberFault unicode room m := by
  induction members with
  | nil => cases h
  | cons m rest ih =>
      rcases List.mem_append.mp h with hhead | htail
      · exact ⟨0, m, rfl, hhead⟩
      · rcases ih htail with ⟨n, m', hget, hmem⟩
        exact ⟨n + 1, m', hget, hmem⟩

theorem recursionError_escapes : recursionError.Escapes := ⟨_, rfl⟩

theorem stampFault_eq {room : Nat} {text : String} {exc : BodyExc}
    (h : exc ∈ stampFault unicode room text) (hcaught : ¬ exc.Escapes) :
    parseText unicode text = .error exc := by
  unfold stampFault at h
  cases room with
  | zero =>
      rw [List.mem_singleton.mp h] at hcaught
      exact absurd recursionError_escapes hcaught
  | succ room =>
      cases hparse : parseText unicode text with
      | ok t =>
          rw [hparse] at h
          cases h
      | error exc' =>
          rw [hparse] at h
          rw [List.mem_singleton.mp h]

/-- A fault that does not escape is a timestamp that is no instant. -/
theorem stamped_of_fault {exc : BodyExc} (hcaught : ¬ exc.Escapes) (room : Nat) :
    forall (key : Option String) (j : Json), exc ∈ faults unicode room j ->
      exists path k j' text, jsonAt key j path = some (some k, j') ∧
        timestampText k j' = some text ∧ parseText unicode text = .error exc := by
  induction room with
  | zero =>
      intro key j hmem
      have heq : exc = recursionError := by
        cases j <;> exact List.mem_singleton.mp hmem
      rw [heq] at hcaught
      exact absurd recursionError_escapes hcaught
  | succ room ih =>
      intro key j hmem
      cases j with
      | obj members =>
          rcases mem_memberFaults hmem with ⟨n, ⟨k, j'⟩, hget, hfault⟩
          simp only [memberFault] at hfault
          cases htext : timestampText k j' with
          | some text =>
              rw [htext] at hfault
              refine ⟨[n], k, j', text, ?_, htext, stampFault_eq hfault hcaught⟩
              simp only [jsonAt, hget]
          | none =>
              rw [htext] at hfault
              rcases ih (some k) j' hfault with ⟨path, k', j'', text, hat, hrest⟩
              refine ⟨n :: path, k', j'', text, ?_, hrest⟩
              simp only [jsonAt, hget]
              exact hat
      | arr items =>
          rcases mem_itemFaults hmem with ⟨n, j', hget, hfault⟩
          rcases ih none j' hfault with ⟨path, k', j'', text, hat, hrest⟩
          refine ⟨n :: path, k', j'', text, ?_, hrest⟩
          simp only [jsonAt, hget]
          exact hat
      | null => cases hmem
      | bool b => cases hmem
      | int n => cases hmem
      | float x => cases hmem
      | str text => cases hmem

theorem normalizeItems_ok {room : Nat} {items : List Json} {vs : List Value}
    (h : normalizeItems unicode room items = .ok vs) :
    List.Forall₂ (fun j v => normalizeTimestamps unicode room j = .ok v) items vs := by
  induction items generalizing vs with
  | nil =>
      cases h
      exact .nil
  | cons j rest ih =>
      rcases bind_ok_iff.mp h with ⟨v, hv, htail⟩
      rcases bind_ok_iff.mp htail with ⟨vs', hvs, hcons⟩
      cases hcons
      exact .cons hv (ih hvs)

theorem normalizeMembers_ok {room : Nat} {members : List (String × Json)}
    {vs : List (String × Value)} (h : normalizeMembers unicode room members = .ok vs) :
    List.Forall₂ (fun m w => normalizeMember unicode room m = .ok w) members vs := by
  induction members generalizing vs with
  | nil =>
      cases h
      exact .nil
  | cons m rest ih =>
      rcases bind_ok_iff.mp h with ⟨w, hw, htail⟩
      rcases bind_ok_iff.mp htail with ⟨ws, hws, hcons⟩
      cases hcons
      exact .cons hw (ih hws)

theorem forall₂_getElem? {alpha beta : Type} {r : alpha -> beta -> Prop} {xs : List alpha}
    {ys : List beta} (h : List.Forall₂ r xs ys) (n : Nat) :
    (xs[n]? = none ∧ ys[n]? = none) ∨
      exists a b, xs[n]? = some a ∧ ys[n]? = some b ∧ r a b := by
  induction h generalizing n with
  | nil => exact Or.inl ⟨rfl, rfl⟩
  | @cons a b _ _ hhead _ ih =>
      cases n with
      | zero => exact Or.inr ⟨a, b, rfl, rfl, hhead⟩
      | succ n => exact ih n

/-- The value of a member is the instant of a timestamp, or normalised. -/
theorem normalizeMember_ok {room : Nat} {key : String} {j : Json} {w : String × Value}
    (h : normalizeMember unicode room (key, j) = .ok w) :
    w.1 = key ∧ ((exists text t, timestampText key j = some text ∧
        parseText unicode text = .ok t ∧ w.2 = .instant t) ∨
      (timestampText key j = none ∧ normalizeTimestamps unicode room j = .ok w.2)) := by
  simp only [normalizeMember] at h
  cases htext : timestampText key j with
  | some text =>
      rw [htext] at h
      rcases bind_ok_iff.mp h with ⟨_, _, htail⟩
      rcases bind_ok_iff.mp htail with ⟨t, ht, hcons⟩
      cases hcons
      exact ⟨rfl, Or.inl ⟨text, t, rfl, ht, rfl⟩⟩
  | none =>
      rw [htext] at h
      rcases bind_ok_iff.mp h with ⟨v, hv, hcons⟩
      cases hcons
      exact ⟨rfl, Or.inr ⟨rfl, hv⟩⟩

/-- The value at a place whose document is `j`, under `key`. -/
def Normalizes (unicode : UnicodeData) (room : Nat) (key : Option String) (j : Json)
    (v : Value) : Prop :=
  match key.bind fun k => timestampText k j with
  | some text => exists t, parseText unicode text = .ok t ∧ v = .instant t
  | none => normalizeTimestamps unicode room j = .ok v

theorem normalizeTimestamps_obj {room : Nat} {members : List (String × Json)} {v : Value}
    (h : normalizeTimestamps unicode room (.obj members) = .ok v) :
    exists room' vs, v = .obj vs ∧
      List.Forall₂ (fun m w => normalizeMember unicode room' m = .ok w) members vs := by
  rcases bind_ok_iff.mp h with ⟨room', _, htail⟩
  rcases bind_ok_iff.mp htail with ⟨vs, hvs, hobj⟩
  cases hobj
  exact ⟨room', vs, rfl, normalizeMembers_ok hvs⟩

theorem normalizeTimestamps_arr {room : Nat} {items : List Json} {v : Value}
    (h : normalizeTimestamps unicode room (.arr items) = .ok v) :
    exists room' vs, v = .arr vs ∧
      List.Forall₂ (fun j v => normalizeTimestamps unicode room' j = .ok v) items vs := by
  rcases bind_ok_iff.mp h with ⟨room', _, htail⟩
  rcases bind_ok_iff.mp htail with ⟨vs, hvs, harr⟩
  cases harr
  exact ⟨room', vs, rfl, normalizeItems_ok hvs⟩

theorem keys_eq {room : Nat} {members : List (String × Json)} {vs : List (String × Value)}
    (h : List.Forall₂ (fun m w => normalizeMember unicode room m = .ok w) members vs) :
    vs.map Prod.fst = members.map Prod.fst := by
  induction h with
  | nil => rfl
  | @cons m w ms ws hhead _ ih =>
      rw [List.map_cons, List.map_cons, ih, (normalizeMember_ok hhead).1]

theorem Normalizes.kept {room : Nat} {key : Option String} {j : Json} {v : Value}
    (h : Normalizes unicode room key j v) : Kept unicode key j v := by
  unfold Normalizes at h
  unfold Kept
  cases htext : key.bind fun k => timestampText k j with
  | some text =>
      rw [htext] at h
      exact h
  | none =>
      rw [htext] at h
      cases j with
      | obj members =>
          rcases normalizeTimestamps_obj h with ⟨_, vs, hv, hvs⟩
          exact ⟨vs, hv, keys_eq hvs⟩
      | arr items =>
          rcases normalizeTimestamps_arr h with ⟨_, vs, hv, hvs⟩
          exact ⟨vs, hv, hvs.length_eq.symm⟩
      | _ =>
          rcases bind_ok_iff.mp h with ⟨_, _, hplain⟩
          cases hplain
          rfl

/-- A scalar has no places below it. -/
theorem Normalizes.scalar {room : Nat} {key : Option String} {j : Json} {v : Value}
    (h : Normalizes unicode room key j v) (hobj : forall ms, j ≠ .obj ms)
    (harr : forall items, j ≠ .arr items) (n : Nat) (path : List Nat) :
    jsonAt key j (n :: path) = none ∧ valueAt key v (n :: path) = none := by
  have hkept := h.kept
  unfold Kept at hkept
  cases j with
  | obj ms => exact absurd rfl (hobj ms)
  | arr items => exact absurd rfl (harr items)
  | _ =>
      refine ⟨rfl, ?_⟩
      split at hkept
      · rcases hkept with ⟨t, _, hv⟩
        rw [hv]
        rfl
      · rw [hkept]
        rfl

theorem timestampText_obj (key : Option String) (members : List (String × Json)) :
    (key.bind fun k => timestampText k (.obj members)) = none := by
  cases key <;> rfl

theorem timestampText_arr (key : Option String) (items : List Json) :
    (key.bind fun k => timestampText k (.arr items)) = none := by
  cases key <;> rfl

theorem Normalizes.rel (path : List Nat) :
    forall (room : Nat) (key : Option String) (j : Json) (v : Value),
      Normalizes unicode room key j v ->
      Option.Rel (fun a b => b.1 = a.1 ∧ Kept unicode a.1 a.2 b.2)
        (jsonAt key j path) (valueAt key v path) := by
  induction path with
  | nil =>
      intro room key j v h
      simp only [jsonAt, valueAt]
      exact .some ⟨rfl, h.kept⟩
  | cons n path ih =>
      intro room key j v h
      cases j with
      | obj members =>
          unfold Normalizes at h
          rw [timestampText_obj] at h
          rcases normalizeTimestamps_obj h with ⟨room', vs, hv, hvs⟩
          rw [hv]
          rcases forall₂_getElem? hvs n with ⟨hm, hw⟩ | ⟨⟨k, j'⟩, ⟨k', v'⟩, hm, hw, hmember⟩
          · simp only [jsonAt, valueAt, hm, hw]
            exact .none
          · simp only [jsonAt, valueAt, hm, hw]
            rcases normalizeMember_ok hmember with ⟨hkey, hvalue⟩
            dsimp only at hkey hvalue
            rw [hkey]
            refine ih room' (some k) j' v' ?_
            unfold Normalizes
            rw [Option.bind_some]
            rcases hvalue with ⟨text, t, htext, ht, hv'⟩ | ⟨htext, hv'⟩
            · rw [htext]
              exact ⟨t, ht, hv'⟩
            · rw [htext]
              exact hv'
      | arr items =>
          unfold Normalizes at h
          rw [timestampText_arr] at h
          rcases normalizeTimestamps_arr h with ⟨room', vs, hv, hvs⟩
          rw [hv]
          rcases forall₂_getElem? hvs n with ⟨hm, hw⟩ | ⟨j', v', hm, hw, hitem⟩
          · simp only [jsonAt, valueAt, hm, hw]
            exact .none
          · simp only [jsonAt, valueAt, hm, hw]
            exact ih room' none j' v' hitem
      | _ =>
          rcases h.scalar (fun _ heq => by cases heq) (fun _ heq => by cases heq) n path with
            ⟨hj, hv⟩
          rw [hj, hv]
          exact .none

theorem replaced_of_ok {room : Nat} {j : Json} {v : Value}
    (h : normalizeTimestamps unicode room j = .ok v) : Replaced unicode j v :=
  fun path => Normalizes.rel path room none j v h

end Places

/-!
## The discipline
-/

section Discipline

variable {unicode : UnicodeData} {room : Nat} {request : Request}

theorem decodeBody_escapes {body : Except BodyExc Json} {exc : BodyExc}
    (h : body.bind (normalizeTimestamps unicode room) = .error exc) (hescapes : exc.Escapes) :
    exists raised, decodeBody unicode room request body = .error (.raised raised) := by
  rcases hescapes with ⟨raised, rfl⟩
  exact ⟨raised, by simp only [decodeBody, h]⟩

theorem decodeBody_caught {body : Except BodyExc Json} {exc : BodyExc}
    (h : body.bind (normalizeTimestamps unicode room) = .error exc) (hcaught : ¬ exc.Escapes) :
    exists message cause, decodeBody unicode room request body =
      .error (.openStudioApiError message cause) := by
  unfold decodeBody
  rw [h]
  cases exc with
  | jsonDecodeError text => exact ⟨_, _, rfl⟩
  | valueError text => exact ⟨_, _, rfl⟩
  | other raised => exact absurd ⟨raised, rfl⟩ hcaught

/-- An error that is caught is an error of the client, for one of the two reasons. -/
theorem discipline_of_caught {body : Except BodyExc Json} {exc : BodyExc}
    (h : body.bind (normalizeTimestamps unicode room) = .error exc) (hcaught : ¬ exc.Escapes)
    (hreason : (exists exc, body = .error exc) ∨
      exists j text, body = .ok j ∧ Stamped j text ∧ forall t, parseText unicode text ≠ .ok t) :
    DecodeDiscipline unicode body (decodeBody unicode room request body) := by
  rcases @decodeBody_caught _ _ request _ _ h hcaught with ⟨message, cause, hresult⟩
  rw [hresult]
  constructor
  · intro v hv
    cases hv
  · intro err herr
    cases herr
    exact ⟨⟨message, cause, rfl⟩, hreason⟩

theorem not_discipline_of_escapes {body : Except BodyExc Json} {exc : BodyExc}
    (h : body.bind (normalizeTimestamps unicode room) = .error exc) (hescapes : exc.Escapes) :
    ¬ DecodeDiscipline unicode body (decodeBody unicode room request body) := by
  intro hlaw
  rcases @decodeBody_escapes _ _ request _ _ h hescapes with ⟨raised, hresult⟩
  rcases (hlaw.raised _ hresult).1 with ⟨message, cause, herr⟩
  cases herr

theorem discipline_of_ok {j : Json} {v : Value} (h : normalizeTimestamps unicode room j = .ok v) :
    DecodeDiscipline unicode (.ok j) (decodeBody unicode room request (.ok j)) := by
  have hresult : decodeBody unicode room request (.ok j) = .ok v := by
    simp only [decodeBody, Except.bind, h]
  rw [hresult]
  constructor
  · intro v' hv'
    cases hv'
    exact ⟨j, rfl, replaced_of_ok h⟩
  · intro err herr
    cases herr

theorem decodeBody_discipline_iff (body : Except BodyExc Json) :
    DecodeDiscipline unicode body (decodeBody unicode room request body) <->
      Orderly unicode room body := by
  cases body with
  | error exc =>
      by_cases hescapes : exc.Escapes
      · exact ⟨fun hlaw => absurd hlaw (not_discipline_of_escapes rfl hescapes),
          fun horderly => absurd hescapes horderly⟩
      · exact ⟨fun _ => hescapes,
          fun _ => discipline_of_caught rfl hescapes (Or.inl ⟨exc, rfl⟩)⟩
  | ok j =>
      have hraises := @raises_normalizeTimestamps unicode room j
      have horderly : Orderly unicode room (.ok j) <-> forall exc,
          (faults unicode room j).head? = some exc -> ¬ exc.Escapes := Iff.rfl
      rw [horderly]
      cases hfaults : faults unicode room j with
      | nil =>
          rw [hfaults] at hraises
          rcases hraises with ⟨v, hv⟩
          exact ⟨fun _ exc hexc => (by cases hexc), fun _ => discipline_of_ok hv⟩
      | cons exc rest =>
          rw [hfaults] at hraises
          have hbind : (Except.ok j : Except BodyExc Json).bind
              (normalizeTimestamps unicode room) = .error exc := hraises
          by_cases hescapes : exc.Escapes
          · exact ⟨fun hlaw => absurd hlaw (not_discipline_of_escapes hbind hescapes),
              fun horderly => absurd hescapes (horderly exc rfl)⟩
          · have hmem : exc ∈ faults unicode room j := by
              rw [hfaults]
              exact List.mem_cons_self
            rcases stamped_of_fault hescapes room none j hmem with
              ⟨path, k, j', text, hat, htext, hparse⟩
            refine ⟨fun _ exc' hexc' => ?_, fun _ => discipline_of_caught hbind hescapes ?_⟩
            · cases hexc'
              exact hescapes
            · refine Or.inr ⟨j, text, rfl, ⟨path, k, j', hat, htext⟩, fun t ht => ?_⟩
              rw [hparse] at ht
              cases ht

/-- A client whose server answers every request with one body. -/
def answering : Nat -> TransportOutcome := fun _ => .response { statusCode := 200, text := "" }

def analysesRequest : Request where
  method := "GET"
  path := "/analyses.json"

/-- A list of one analysis with the given start. -/
def analysisBody (createdAt : String) : Json :=
  .arr [.obj [("name", .str "retrofit"), ("run", .obj [("created_at", .str createdAt)])]]

end Discipline

end OpenStudioClient
end OpenStudioOperator
