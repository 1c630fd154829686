import OpenStudioOperator.StatusPatches

/-!
# Deferred Warning Events

The sink that queues Warnings outside of callbacks and mirrors them into
`status.deferredEvents`, so that a crash does not lose them.  Calls run one at a
time here; any store call and any emit may fail.
-/

namespace OpenStudioOperator
namespace EventsSinks

open Foundation StatusDocument

/-!
## The sink
-/

/-- The CR that an Event is about. -/
structure CrName where
  ns : String
  name : String
deriving DecidableEq, Repr

/-- A queued Warning, or an emitted one. -/
structure Deferral where
  ns : String
  name : String
  reason : String
  message : String
deriving DecidableEq, Repr

/-- A dictionary of texts, by key. -/
abbrev Entry := List (String × String)

def maxDeferredWarningEvents : Nat := 1000

namespace Deferral

def cr (d : Deferral) : CrName :=
  ⟨d.ns, d.name⟩

/-- What is written to `status.deferredEvents`. -/
def entry (d : Deferral) : Entry :=
  [("message", d.message), ("name", d.name), ("namespace", d.ns), ("reason", d.reason)]

/-- `str(entry.get(key) or "")`. -/
def entryText (entry : Entry) (key : String) : String :=
  (entry.lookup key).getD ""

/-- The Warning that a persisted entry of a CR stands for. -/
def ofEntry (cr : CrName) (entry : Entry) : Deferral where
  ns := cr.ns
  name := cr.name
  reason := entryText entry "reason"
  message := entryText entry "message"

theorem ofEntry_entry (d : Deferral) : ofEntry d.cr d.entry = d :=
  rfl

end Deferral

/-- The queue of the process, the persisted list of every CR, and the Events
emitted so far. -/
structure Sink where
  queue : List Deferral
  persisted : CrName -> List Entry
  emitted : List Deferral

namespace Sink

variable (s : Sink)

def enqueue (d : Deferral) : Sink :=
  { s with queue := s.queue ++ [d] }

/-- `append_deferred_event`: a full list is left alone. -/
def appendPersisted (d : Deferral) : Sink :=
  if maxDeferredWarningEvents <= (s.persisted d.cr).length then s
  else { s with persisted :=
    Function.update s.persisted d.cr (s.persisted d.cr ++ [d.entry]) }

/-- `clear_deferred_events`. -/
def clearPersisted (cr : CrName) : Sink :=
  { s with persisted := Function.update s.persisted cr [] }

def emit (d : Deferral) : Sink :=
  { s with emitted := s.emitted ++ [d] }

/-- The queued Warnings of a CR. -/
def pending (cr : CrName) : List Deferral :=
  s.queue.filter fun d => d.cr = cr

/-- The queue without the Warnings of a CR. -/
def dequeue (cr : CrName) : Sink :=
  { s with queue := s.queue.filter fun d => d.cr ≠ cr }

/-- A crash empties the queue. -/
def crash : Sink :=
  { s with queue := [] }

end Sink

/-- How a write to the status ends. -/
inductive WriteOutcome where
  | returned
  | raised
  | raisedAfterWrite
deriving DecidableEq, Repr

/-- A write whose exception is swallowed. -/
def attempt (outcome : WriteOutcome) (write : Sink -> Sink) (s : Sink) : Sink :=
  match outcome with
  | .returned => write s
  | .raised => s
  | .raisedAfterWrite => write s

/-- What goes wrong in `defer_to_next_tick`. -/
structure DeferFaults where
  storeRaises : Bool := false
  append : WriteOutcome := .returned

/-- What goes wrong in `flush_for`. -/
structure FlushFaults where
  storeRaises : Bool := false
  readRaises : Bool := false
  emitRaises : Nat -> Bool := fun _ => false
  clear : WriteOutcome := .returned

section Calls

variable (hasFactory : Bool)

/-- `_persist`. -/
def persist (faults : DeferFaults) (d : Deferral) (s : Sink) : Sink :=
  if hasFactory && !faults.storeRaises then
    attempt faults.append (fun s => s.appendPersisted d) s
  else s

/-- `defer_to_next_tick`: a full queue drops the Warning. -/
def deferToNextTick (faults : DeferFaults) (d : Deferral) (s : Sink) : Sink :=
  if maxDeferredWarningEvents <= s.queue.length then s
  else persist hasFactory faults d (s.enqueue d)

/-- Events one after the other, until one raises. -/
def emitAll (raises : Nat -> Bool) : Nat -> List Deferral -> Sink -> Sink × Bool
  | _, [], s => (s, true)
  | n, d :: rest, s => if raises n then (s, false) else emitAll raises (n + 1) rest (s.emit d)

/-- The persisted list as `flush_for` reads it. -/
def readPersisted (faults : FlushFaults) (cr : CrName) (s : Sink) : List Entry :=
  if hasFactory && !faults.storeRaises && !faults.readRaises then s.persisted cr else []

/-- The persisted phase of `flush_for`: emit the list, then clear it. -/
def drainPersisted (faults : FlushFaults) (cr : CrName) (persisted : List Entry) (s : Sink) :
    Sink × Bool :=
  match emitAll faults.emitRaises 0 (persisted.map (Deferral.ofEntry cr)) s with
  | (s, false) => (s, false)
  | (s, true) =>
      (if persisted.isEmpty then s else attempt faults.clear (fun s => s.clearPersisted cr) s, true)

/-- The queue phase of `flush_for`: emit what was not persisted, then dequeue. -/
def drainQueue (faults : FlushFaults) (cr : CrName) (emitted fresh : List Deferral) (s : Sink) :
    Sink × Bool :=
  match emitAll faults.emitRaises emitted.length fresh s with
  | (s, false) => (s, false)
  | (s, true) => (s.dequeue cr, true)

/-- `flush_for`, and whether it returned. -/
def flushFor (faults : FlushFaults) (cr : CrName) (s : Sink) : Sink × Bool :=
  let pending := s.pending cr
  let persisted := readPersisted hasFactory faults cr s
  if pending.isEmpty && persisted.isEmpty then (s, true)
  else
    match drainPersisted faults cr persisted s with
    | (s, false) => (s, false)
    | (s, true) =>
        let emitted := persisted.map (Deferral.ofEntry cr)
        drainQueue faults cr emitted (pending.filter fun d => d ∉ emitted) s

/-- A call of the sink, or a crash between two calls. -/
inductive Call where
  | defer (faults : DeferFaults) (d : Deferral)
  | flush (faults : FlushFaults) (cr : CrName)
  | crash

def Call.run (call : Call) (s : Sink) : Sink :=
  match call with
  | .defer faults d => deferToNextTick hasFactory faults d s
  | .flush faults cr => (flushFor hasFactory faults cr s).1
  | .crash => s.crash

def runCalls (calls : List Call) (s : Sink) : Sink :=
  calls.foldl (fun s call => call.run hasFactory s) s

end Calls

/-!
## What a flush does
-/

/-- A flush of a CR emits some Events.  It clears the persisted list only when
it emitted that list, and the queue only when it emitted the queue. -/
structure Flushed (cr : CrName) (s s' : Sink) (events : List Deferral) : Prop where
  emitted : s'.emitted = s.emitted ++ events
  persisted : s'.persisted = s.persisted ∨
    (s'.persisted = (s.clearPersisted cr).persisted ∧
      forall entry, entry ∈ s.persisted cr -> Deferral.ofEntry cr entry ∈ events)
  queue : s'.queue = s.queue ∨
    (s'.queue = (s.dequeue cr).queue ∧ forall d, d ∈ s.pending cr -> d ∈ events)

section Flush

variable {hasFactory : Bool} {faults : FlushFaults} {cr : CrName} {s : Sink}

/-- Emitting moves nothing else; without an exception everything is emitted. -/
theorem emitAll_spec (raises : Nat -> Bool) : forall (n : Nat) (events : List Deferral) (s : Sink),
    exists sent, (emitAll raises n events s).1 = { s with emitted := s.emitted ++ sent } ∧
      ((emitAll raises n events s).2 = true -> sent = events)
  | _, [], s => ⟨[], by simp [emitAll]⟩
  | n, d :: rest, s => by
      rw [emitAll]
      cases raises n with
      | true => exact ⟨[], by simp⟩
      | false =>
          rcases emitAll_spec raises (n + 1) rest (s.emit d) with ⟨sent, hstate, hall⟩
          refine ⟨d :: sent, ?_, ?_⟩
          · simp only [Bool.false_eq_true, if_false]
            rw [hstate]
            simp [Sink.emit]
          · simp only [Bool.false_eq_true, if_false]
            intro hdone
            rw [hall hdone]

theorem mem_readPersisted {entry : Entry} (hread : readPersisted hasFactory faults cr s ≠ [])
    (h : entry ∈ s.persisted cr) : entry ∈ readPersisted hasFactory faults cr s := by
  unfold readPersisted at hread ⊢
  split
  · exact h
  · rename_i hnone
    rw [if_neg hnone] at hread
    exact absurd rfl hread

/-- The persisted phase. -/
theorem drainPersisted_spec (faults : FlushFaults) (cr : CrName) (persisted : List Entry)
    (s : Sink) :
    exists sent, (drainPersisted faults cr persisted s).1.emitted = s.emitted ++ sent ∧
      (drainPersisted faults cr persisted s).1.queue = s.queue ∧
      ((drainPersisted faults cr persisted s).1.persisted = s.persisted ∨
        ((drainPersisted faults cr persisted s).1.persisted = (s.clearPersisted cr).persisted ∧
          persisted ≠ [] ∧ sent = persisted.map (Deferral.ofEntry cr))) ∧
      ((drainPersisted faults cr persisted s).2 = true ->
        sent = persisted.map (Deferral.ofEntry cr)) := by
  unfold drainPersisted
  rcases emitAll_spec faults.emitRaises 0 (persisted.map (Deferral.ofEntry cr)) s with
    ⟨sent, hstate, hall⟩
  refine ⟨sent, ?_⟩
  cases hrun : emitAll faults.emitRaises 0 (persisted.map (Deferral.ofEntry cr)) s with
  | mk s' done =>
      rw [hrun] at hstate hall
      have hs' : s' = { s with emitted := s.emitted ++ sent } := hstate
      subst hs'
      cases done with
      | false => exact ⟨rfl, rfl, Or.inl rfl, fun hdone => by cases hdone⟩
      | true =>
          have hsent : sent = persisted.map (Deferral.ofEntry cr) := hall rfl
          cases persisted with
          | nil => exact ⟨rfl, rfl, Or.inl rfl, fun _ => hsent⟩
          | cons entry rest =>
              have hcleared : entry :: rest ≠ [] := List.cons_ne_nil _ _
              cases hclear : faults.clear with
              | returned =>
                  exact ⟨rfl, rfl, Or.inr ⟨rfl, hcleared, hsent⟩,
                    fun _ => hsent⟩
              | raised => exact ⟨rfl, rfl, Or.inl rfl, fun _ => hsent⟩
              | raisedAfterWrite =>
                  exact ⟨rfl, rfl, Or.inr ⟨rfl, hcleared, hsent⟩,
                    fun _ => hsent⟩

/-- The queue phase. -/
theorem drainQueue_spec (faults : FlushFaults) (cr : CrName) (emitted fresh : List Deferral)
    (s : Sink) :
    exists sent, (drainQueue faults cr emitted fresh s).1.emitted = s.emitted ++ sent ∧
      (drainQueue faults cr emitted fresh s).1.persisted = s.persisted ∧
      ((drainQueue faults cr emitted fresh s).1.queue = s.queue ∨
        ((drainQueue faults cr emitted fresh s).1.queue = (s.dequeue cr).queue ∧
          sent = fresh)) := by
  unfold drainQueue
  rcases emitAll_spec faults.emitRaises emitted.length fresh s with ⟨sent, hstate, hall⟩
  refine ⟨sent, ?_⟩
  cases hrun : emitAll faults.emitRaises emitted.length fresh s with
  | mk s' done =>
      rw [hrun] at hstate hall
      have hs' : s' = { s with emitted := s.emitted ++ sent } := hstate
      subst hs'
      cases done with
      | false => exact ⟨rfl, rfl, Or.inl rfl⟩
      | true => exact ⟨rfl, rfl, Or.inr ⟨rfl, hall rfl⟩⟩

theorem flushFor_flushed (hasFactory : Bool) (faults : FlushFaults) (cr : CrName) (s : Sink) :
    exists events, Flushed cr s (flushFor hasFactory faults cr s).1 events := by
  unfold flushFor
  simp only
  split
  · exact ⟨[], (List.append_nil _).symm, Or.inl rfl, Or.inl rfl⟩
  · rcases drainPersisted_spec faults cr (readPersisted hasFactory faults cr s) s with
      ⟨sent, hemitted, hqueue, hpersisted, hall⟩
    have hread : forall events,
        sent = (readPersisted hasFactory faults cr s).map (Deferral.ofEntry cr) ->
        readPersisted hasFactory faults cr s ≠ [] -> sent <+: events ->
        forall entry, entry ∈ s.persisted cr -> Deferral.ofEntry cr entry ∈ events := by
      intro events hsent hne hprefix entry hentry
      apply hprefix.subset
      rw [hsent]
      exact List.mem_map_of_mem (mem_readPersisted hne hentry)
    cases hrun : drainPersisted faults cr (readPersisted hasFactory faults cr s) s with
    | mk s' done =>
        rw [hrun] at hemitted hqueue hpersisted hall
        cases done with
        | false =>
            refine ⟨sent, hemitted, ?_, Or.inl hqueue⟩
            rcases hpersisted with hkept | ⟨hcleared, hne, hsent⟩
            · exact Or.inl hkept
            · exact Or.inr ⟨hcleared, hread sent hsent hne (List.prefix_refl _)⟩
        | true =>
            have hsent := hall rfl
            rcases drainQueue_spec faults cr
              ((readPersisted hasFactory faults cr s).map (Deferral.ofEntry cr))
              ((s.pending cr).filter fun d =>
                d ∉ (readPersisted hasFactory faults cr s).map (Deferral.ofEntry cr)) s' with
              ⟨sent', hemitted', hpersisted', hqueue'⟩
            refine ⟨sent ++ sent', ?_, ?_, ?_⟩
            · rw [hemitted', hemitted, List.append_assoc]
            · simp only
              rw [hpersisted']
              rcases hpersisted with hkept | ⟨hcleared, hne, hsent⟩
              · exact Or.inl hkept
              · exact Or.inr ⟨hcleared, hread _ hsent hne (List.prefix_append _ _)⟩
            · simp only
              rcases hqueue' with hkept | ⟨hdequeued, hfresh⟩
              · exact Or.inl (hkept.trans hqueue)
              · right
                constructor
                · rw [hdequeued]
                  unfold Sink.dequeue
                  rw [hqueue]
                · intro d hd
                  rw [hsent, hfresh, List.mem_append]
                  by_cases hmem :
                      d ∈ (readPersisted hasFactory faults cr s).map (Deferral.ofEntry cr)
                  · exact Or.inl hmem
                  · right
                    simpa [hd] using hmem

end Flush

/-!
## Durability
-/

/-- The persisted mirror of a deferral is written. -/
def Mirrored (hasFactory : Bool) (faults : DeferFaults) (d : Deferral) (s : Sink) : Prop :=
  hasFactory = true ∧ faults.storeRaises = false ∧ faults.append = .returned ∧
    (s.persisted d.cr).length < maxDeferredWarningEvents

/-- A Warning deferred when `n` Events had been emitted is emitted since, or
where its deferral put it. -/
def Durable (d : Deferral) (n : Nat) (mirrored crashed : Prop) (s : Sink) : Prop :=
  d ∈ s.emitted.drop n ∨
    ((mirrored -> d.entry ∈ s.persisted d.cr) ∧ (¬ crashed -> d ∈ s.queue))

section Durability

variable {hasFactory : Bool} {d : Deferral} {n : Nat} {mirrored crashed : Prop} {s s' : Sink}

/-- A call that only adds to the three places. -/
theorem Durable.grow (h : Durable d n mirrored crashed s)
    (hemitted : s'.emitted = s.emitted) (hqueue : d ∈ s.queue -> d ∈ s'.queue)
    (hpersisted : d.entry ∈ s.persisted d.cr -> d.entry ∈ s'.persisted d.cr) :
    Durable d n mirrored crashed s' := by
  rcases h with hsent | ⟨hmirror, hkept⟩
  · left
    rw [hemitted]
    exact hsent
  · exact Or.inr ⟨fun h => hpersisted (hmirror h), fun h => hqueue (hkept h)⟩

theorem mem_appendPersisted {e : Deferral} {cr : CrName} {entry : Entry}
    (h : entry ∈ s.persisted cr) : entry ∈ (s.appendPersisted e).persisted cr := by
  unfold Sink.appendPersisted
  split
  · exact h
  · by_cases hcr : cr = e.cr
    · subst hcr
      simp only [Function.update_self]
      exact List.mem_append_left _ h
    · simp only [Function.update_of_ne hcr]
      exact h

theorem appendPersisted_queue (e : Deferral) (s : Sink) :
    (s.appendPersisted e).queue = s.queue ∧ (s.appendPersisted e).emitted = s.emitted := by
  unfold Sink.appendPersisted
  split <;> exact ⟨rfl, rfl⟩

theorem persist_queue (hasFactory : Bool) (faults : DeferFaults) (e : Deferral) (s : Sink) :
    (persist hasFactory faults e s).queue = s.queue ∧
      (persist hasFactory faults e s).emitted = s.emitted := by
  unfold persist attempt
  split
  · cases faults.append with
    | returned => exact appendPersisted_queue e s
    | raised => exact ⟨rfl, rfl⟩
    | raisedAfterWrite => exact appendPersisted_queue e s
  · exact ⟨rfl, rfl⟩

theorem mem_persist {faults : DeferFaults} {e : Deferral} {cr : CrName} {entry : Entry}
    (h : entry ∈ s.persisted cr) : entry ∈ (persist hasFactory faults e s).persisted cr := by
  unfold persist attempt
  split
  · cases faults.append with
    | returned => exact mem_appendPersisted h
    | raised => exact h
    | raisedAfterWrite => exact mem_appendPersisted h
  · exact h

theorem Durable.defer (h : Durable d n mirrored crashed s) (faults : DeferFaults)
    (e : Deferral) : Durable d n mirrored crashed (deferToNextTick hasFactory faults e s) := by
  unfold deferToNextTick
  split
  · exact h
  · rcases persist_queue hasFactory faults e (s.enqueue e) with ⟨hqueue, hemitted⟩
    refine h.grow hemitted ?_ ?_
    · intro hd
      rw [hqueue]
      exact List.mem_append_left _ hd
    · intro hentry
      exact mem_persist (s := s.enqueue e) hentry

/-- A flush drops a Warning only after its Event. -/
theorem Durable.flush (h : Durable d n mirrored crashed s) (hn : n <= s.emitted.length)
    (faults : FlushFaults) (cr : CrName) :
    Durable d n mirrored crashed (flushFor hasFactory faults cr s).1 := by
  rcases flushFor_flushed hasFactory faults cr s with ⟨events, hflushed⟩
  have hnew : (flushFor hasFactory faults cr s).1.emitted.drop n =
      s.emitted.drop n ++ events := by
    rw [hflushed.emitted, List.drop_append_of_le_length hn]
  by_cases hsent : d ∈ events
  · left
    rw [hnew]
    exact List.mem_append_right _ hsent
  · rcases h with hearlier | ⟨hmirror, hkept⟩
    · left
      rw [hnew]
      exact List.mem_append_left _ hearlier
    · refine Or.inr ⟨?_, ?_⟩
      · intro hm
        rcases hflushed.persisted with hsame | ⟨hcleared, hall⟩
        · rw [hsame]
          exact hmirror hm
        · by_cases hcr : d.cr = cr
          · subst hcr
            exact absurd (hall _ (hmirror hm)) hsent
          · rw [hcleared, Sink.clearPersisted]
            simp only [Function.update_of_ne hcr]
            exact hmirror hm
      · intro hno
        rcases hflushed.queue with hsame | ⟨hdequeued, hall⟩
        · rw [hsame]
          exact hkept hno
        · by_cases hcr : d.cr = cr
          · exact absurd (hall d (List.mem_filter.mpr ⟨hkept hno, by simpa using hcr⟩)) hsent
          · rw [hdequeued]
            exact List.mem_filter.mpr ⟨hkept hno, by simpa using hcr⟩

/-- Events are only added. -/
theorem emitted_run (hasFactory : Bool) (call : Call) (s : Sink) :
    s.emitted <+: (call.run hasFactory s).emitted := by
  cases call with
  | defer faults e =>
      unfold Call.run deferToNextTick
      simp only
      split
      · exact List.prefix_refl _
      · rw [(persist_queue hasFactory faults e (s.enqueue e)).2]
        exact List.prefix_refl _
  | flush faults cr =>
      rcases flushFor_flushed hasFactory faults cr s with ⟨events, hflushed⟩
      rw [Call.run, hflushed.emitted]
      exact List.prefix_append _ _
  | crash => exact List.prefix_refl _

theorem emitted_runCalls (hasFactory : Bool) : forall (calls : List Call) (s : Sink),
    s.emitted <+: (runCalls hasFactory calls s).emitted
  | [], _ => List.prefix_refl _
  | call :: rest, s =>
      (emitted_run hasFactory call s).trans
        (emitted_runCalls hasFactory rest (call.run hasFactory s))

/-- One call. -/
theorem Durable.run (hasFactory : Bool) (h : Durable d n mirrored crashed s)
    (hn : n <= s.emitted.length) (call : Call) : Durable d n mirrored (crashed ∨ call = .crash) (call.run hasFactory s) := by
  have hmono : forall {s' : Sink}, Durable d n mirrored crashed s' ->
      Durable d n mirrored (crashed ∨ call = .crash) s' := by
    intro s' h'
    rcases h' with hsent | ⟨hmirror, hkept⟩
    · exact Or.inl hsent
    · exact Or.inr ⟨hmirror, fun hno => hkept fun hc => hno (Or.inl hc)⟩
  cases call with
  | defer faults e => exact hmono (h.defer faults e)
  | flush faults cr => exact hmono (h.flush hn faults cr)
  | crash =>
      rcases h with hsent | ⟨hmirror, _⟩
      · exact Or.inl hsent
      · exact Or.inr ⟨hmirror, fun hno => absurd (Or.inr rfl) hno⟩

/-- A run of calls. -/
theorem Durable.runCalls (hasFactory : Bool) :
    forall {crashed : Prop} {s : Sink} (calls : List Call), Durable d n mirrored crashed s -> n <= s.emitted.length ->
      Durable d n mirrored (crashed ∨ Call.crash ∈ calls) (runCalls hasFactory calls s)
  | crashed, s, [], h, _ => by
      have hsame : (crashed ∨ Call.crash ∈ []) = crashed := by simp
      rw [hsame]
      exact h
  | crashed, s, call :: rest, h, hn => by
      have hlater := Durable.runCalls hasFactory rest (h.run hasFactory hn call)
        (Nat.le_trans hn (emitted_run hasFactory call s).length_le)
      have hsame : (crashed ∨ Call.crash ∈ call :: rest) =
          ((crashed ∨ call = .crash) ∨ Call.crash ∈ rest) := by
        rw [List.mem_cons, or_assoc, eq_comm (a := call)]
      rw [hsame]
      exact hlater

/-- An accepted deferral is queued, and mirrored unless its write fails. -/
theorem durable_accepted (faults : DeferFaults)
    (haccepted : s.queue.length < maxDeferredWarningEvents) :
    Durable d s.emitted.length (Mirrored hasFactory faults d s) False
      (deferToNextTick hasFactory faults d s) := by
  unfold deferToNextTick
  rw [if_neg (Nat.not_le_of_lt haccepted)]
  right
  constructor
  · intro hmirrored
    rcases hmirrored with ⟨hfactory, hstore, happend, hroom⟩
    have hroom' : ¬ maxDeferredWarningEvents <= ((s.enqueue d).persisted d.cr).length :=
      Nat.not_le_of_lt hroom
    simp [persist, attempt, hfactory, hstore, happend, Sink.appendPersisted, hroom']
  · intro _
    rw [(persist_queue hasFactory faults d (s.enqueue d)).1]
    exact List.mem_append_right _ (List.mem_singleton_self d)

end Durability

/-!
## Runs without failures
-/

/-- Nothing goes wrong in the call. -/
def Call.Faultless : Call -> Prop
  | defer faults _ => faults.storeRaises = false ∧ faults.append = .returned
  | flush faults _ => faults.storeRaises = false ∧ faults.readRaises = false ∧
      (forall n, faults.emitRaises n = false) ∧ faults.clear = .returned
  | crash => False

section Faultless

variable (hasFactory : Bool) (cr : CrName)

/-- The accepted deferrals of a CR. -/
def acceptedFor : List Call -> Sink -> List Deferral
  | [], _ => []
  | .defer faults d :: rest, s =>
      let later := acceptedFor rest (deferToNextTick hasFactory faults d s)
      if d.cr = cr ∧ s.queue.length < maxDeferredWarningEvents then d :: later else later
  | call :: rest, s => acceptedFor rest (call.run hasFactory s)

/-- Nothing of the CR is queued or persisted. -/
def Drained (s : Sink) : Prop :=
  s.pending cr = [] ∧ (hasFactory = true -> s.persisted cr = [])

/-- The persisted list of the CR is its queue. -/
def Synced (s : Sink) : Prop :=
  hasFactory = true -> (s.persisted cr).map (Deferral.ofEntry cr) = s.pending cr

variable {hasFactory cr} {s : Sink}

theorem Drained.synced (h : Drained hasFactory cr s) : Synced hasFactory cr s := by
  intro hfactory
  rw [h.1, h.2 hfactory]
  rfl

theorem emitAll_faultless {raises : Nat -> Bool} (h : forall n, raises n = false) :
    forall (n : Nat) (events : List Deferral) (s : Sink),
      emitAll raises n events s = ({ s with emitted := s.emitted ++ events }, true)
  | _, [], s => by simp [emitAll]
  | n, d :: rest, s => by
      rw [emitAll, h n]
      simp only [Bool.false_eq_true, if_false]
      rw [emitAll_faultless h (n + 1) rest (s.emit d)]
      simp [Sink.emit]

/-- A flush that nothing goes wrong in emits the persisted list and what was
only queued, and leaves neither. -/
theorem faultless_flush {faults : FlushFaults} (h : (Call.flush faults cr).Faultless) (s : Sink) :
    (flushFor hasFactory faults cr s).2 = true ∧
      (flushFor hasFactory faults cr s).1.emitted = s.emitted ++
        ((readPersisted hasFactory faults cr s).map (Deferral.ofEntry cr) ++
          (s.pending cr).filter fun d =>
            d ∉ (readPersisted hasFactory faults cr s).map (Deferral.ofEntry cr)) ∧
      Drained hasFactory cr (flushFor hasFactory faults cr s).1 := by
  rcases h with ⟨hstore, hread, hemit, hclear⟩
  have hpersisted : hasFactory = true ->
      readPersisted hasFactory faults cr s = s.persisted cr := by
    intro hfactory
    simp [readPersisted, hfactory, hstore, hread]
  unfold flushFor drainPersisted drainQueue
  simp only [emitAll_faultless hemit]
  cases hlist : readPersisted hasFactory faults cr s with
  | nil =>
      have hnone : hasFactory = true -> s.persisted cr = [] := by
        intro hfactory
        rw [← hpersisted hfactory, hlist]
      by_cases hpending : s.pending cr = []
      · simp only [hpending, List.isEmpty_nil, Bool.and_self, if_true]
        exact ⟨trivial, (List.append_nil _).symm, hpending, hnone⟩
      · rw [if_neg (by simpa using hpending)]
        refine ⟨rfl, by simp [Sink.dequeue], ?_, ?_⟩
        · simp [Sink.pending, Sink.dequeue, List.filter_filter]
        · exact hnone
  | cons entry rest =>
      rw [if_neg (by simp)]
      simp only [List.isEmpty_cons, Bool.false_eq_true, if_false, hclear, attempt]
      refine ⟨trivial, by simp [Sink.clearPersisted, Sink.dequeue], ?_, ?_⟩
      · simp [Sink.pending, Sink.dequeue, Sink.clearPersisted, List.filter_filter]
      · intro _
        simp [Sink.dequeue, Sink.clearPersisted]

/-- In step, that is the queue. -/
theorem Synced.flush (h : Synced hasFactory cr s) {faults : FlushFaults}
    (hfaultless : (Call.flush faults cr).Faultless) :
    (flushFor hasFactory faults cr s).1.emitted = s.emitted ++ s.pending cr := by
  rw [(faultless_flush hfaultless s).2.1]
  cases hfactory : hasFactory with
  | false => simp [readPersisted]
  | true =>
      rcases hfaultless with ⟨hstore, hread, _, _⟩
      have hlist : readPersisted true faults cr s = s.persisted cr := by
        simp [readPersisted, hstore, hread]
      subst hfactory
      rw [hlist, h rfl]
      simp

theorem pending_length_le (cr : CrName) (s : Sink) : (s.pending cr).length <= s.queue.length :=
  List.length_filter_le _ _

/-- A deferral reaches the queue and the persisted list. -/
theorem Synced.defer (h : Synced hasFactory cr s) {faults : DeferFaults} {d : Deferral}
    (hfaultless : (Call.defer faults d).Faultless) :
    Synced hasFactory cr (deferToNextTick hasFactory faults d s) ∧
      (deferToNextTick hasFactory faults d s).pending cr = s.pending cr ++
        if d.cr = cr ∧ s.queue.length < maxDeferredWarningEvents then [d] else [] := by
  rcases hfaultless with ⟨hstore, happend⟩
  unfold deferToNextTick
  by_cases hfull : maxDeferredWarningEvents <= s.queue.length
  · rw [if_pos hfull, if_neg fun hroom => Nat.not_le_of_lt hroom.2 hfull, List.append_nil]
    exact ⟨h, rfl⟩
  · rw [if_neg hfull]
    have hpending : (persist hasFactory faults d (s.enqueue d)).pending cr =
        s.pending cr ++ if d.cr = cr then [d] else [] := by
      unfold Sink.pending
      rw [(persist_queue hasFactory faults d (s.enqueue d)).1, Sink.enqueue, List.filter_append]
      by_cases hcr : d.cr = cr <;> simp [hcr]
    constructor
    · intro hfactory
      rw [hpending]
      simp only [persist, hfactory, hstore, happend, attempt, Bool.not_false, Bool.and_self,
        if_true]
      by_cases hcr : d.cr = cr
      · subst hcr
        have hroom : ¬ maxDeferredWarningEvents <= ((s.enqueue d).persisted d.cr).length := by
          have hlength := congrArg List.length (h hfactory)
          rw [List.length_map] at hlength
          intro hle
          have hle' : maxDeferredWarningEvents <= (s.persisted d.cr).length := hle
          rw [hlength] at hle'
          exact hfull (Nat.le_trans hle' (pending_length_le d.cr s))
        simp only [Sink.appendPersisted, if_neg hroom, Function.update_self, if_true]
        rw [List.map_append, List.map_singleton, Deferral.ofEntry_entry]
        exact congrArg (fun queued => queued ++ [d]) (h hfactory)
      · have hother : ((s.enqueue d).appendPersisted d).persisted cr = s.persisted cr := by
          unfold Sink.appendPersisted
          split
          · rfl
          · exact Function.update_of_ne (Ne.symm hcr) ..
        rw [hother, if_neg hcr, List.append_nil]
        exact h hfactory
    · rw [hpending]
      simp [Nat.lt_of_not_le hfull]

/-- A flush of another CR leaves this one alone. -/
theorem Synced.flush_other (h : Synced hasFactory cr s) (faults : FlushFaults) {other : CrName}
    (hne : other ≠ cr) :
    Synced hasFactory cr (flushFor hasFactory faults other s).1 ∧
      (flushFor hasFactory faults other s).1.pending cr = s.pending cr := by
  rcases flushFor_flushed hasFactory faults other s with ⟨events, hflushed⟩
  have hpersisted : (flushFor hasFactory faults other s).1.persisted cr = s.persisted cr := by
    rcases hflushed.persisted with hsame | ⟨hcleared, _⟩
    · rw [hsame]
    · rw [hcleared]
      exact Function.update_of_ne (Ne.symm hne) ..
  have hpending : (flushFor hasFactory faults other s).1.pending cr = s.pending cr := by
    unfold Sink.pending
    rcases hflushed.queue with hsame | ⟨hdequeued, _⟩
    · rw [hsame]
    · rw [hdequeued, Sink.dequeue, List.filter_filter]
      apply List.filter_congr
      intro d _
      by_cases hcr : d.cr = cr
      · simp [hcr, Ne.symm hne]
      · simp [hcr]
  refine ⟨?_, hpending⟩
  intro hfactory
  rw [hpersisted, hpending]
  exact h hfactory

/-- Between two flushes of a CR the queue collects its accepted deferrals. -/
theorem Synced.runCalls : forall (calls : List Call) {s : Sink}, Synced hasFactory cr s ->
    (forall call, call ∈ calls -> call.Faultless ∧ forall faults, call ≠ .flush faults cr) ->
      Synced hasFactory cr (runCalls hasFactory calls s) ∧
        (runCalls hasFactory calls s).pending cr =
          s.pending cr ++ acceptedFor hasFactory cr calls s
  | [], s, h, _ => ⟨h, (List.append_nil _).symm⟩
  | .defer faults d :: rest, s, h, hcalls => by
      have hhead := hcalls _ List.mem_cons_self
      rcases h.defer hhead.1 with ⟨hsynced, hpending⟩
      rcases Synced.runCalls rest hsynced fun call hcall =>
        hcalls call (List.mem_cons_of_mem _ hcall) with ⟨hlater, hpending'⟩
      refine ⟨hlater, ?_⟩
      refine hpending'.trans ?_
      rw [hpending, acceptedFor]
      by_cases haccepted : d.cr = cr ∧ s.queue.length < maxDeferredWarningEvents
      · rw [if_pos haccepted, if_pos haccepted, List.append_assoc]
        rfl
      · rw [if_neg haccepted, if_neg haccepted, List.append_nil]
  | .flush faults other :: rest, s, h, hcalls => by
      have hhead := hcalls _ List.mem_cons_self
      have hne : other ≠ cr := by
        intro heq
        subst heq
        exact hhead.2 faults rfl
      rcases h.flush_other faults hne with ⟨hsynced, hpending⟩
      rcases Synced.runCalls rest hsynced fun call hcall =>
        hcalls call (List.mem_cons_of_mem _ hcall) with ⟨hlater, hpending'⟩
      refine ⟨hlater, ?_⟩
      refine hpending'.trans ?_
      rw [hpending]
      rfl
  | .crash :: rest, s, _, hcalls => (hcalls _ List.mem_cons_self).1.elim

end Faultless

/-- Every accepted deferral is emitted since, still queued, or still persisted,
unless its mirror was not written and a crash followed.  Without failures a
flush emits the deferrals accepted since the last one, each once. -/
theorem deferred_events_durable (hasFactory : Bool) (start : Sink) :
    (forall before faults d after,
      (runCalls hasFactory before start).queue.length < maxDeferredWarningEvents ->
        (exists events, (runCalls hasFactory (before ++ .defer faults d :: after) start).emitted =
            (runCalls hasFactory before start).emitted ++ events ∧ d ∈ events) ∨
          d ∈ (runCalls hasFactory (before ++ .defer faults d :: after) start).queue ∨
          d.entry ∈ (runCalls hasFactory (before ++ .defer faults d :: after) start).persisted d.cr ∨
          (¬ Mirrored hasFactory faults d (runCalls hasFactory before start) ∧
            Call.crash ∈ after)) ∧
      forall before between faults cr,
        (forall call, call ∈ before ++ between -> call.Faultless) ->
        (Call.flush faults cr).Faultless ->
        (forall call, call ∈ between -> forall faults, call ≠ .flush faults cr) ->
        ((before = [] ∧ Drained hasFactory cr start) ∨
          exists earlier faults, before = earlier ++ [.flush faults cr]) ->
          (flushFor hasFactory faults cr (runCalls hasFactory (before ++ between) start)).2 = true ∧
            (flushFor hasFactory faults cr
              (runCalls hasFactory (before ++ between) start)).1.emitted =
              (runCalls hasFactory (before ++ between) start).emitted ++
                acceptedFor hasFactory cr between (runCalls hasFactory before start) := by
  have hsplit : forall (calls calls' : List Call),
      runCalls hasFactory (calls ++ calls') start =
        runCalls hasFactory calls' (runCalls hasFactory calls start) :=
    fun _ _ => List.foldl_append
  constructor
  · intro before faults d after haccepted
    rw [hsplit]
    have hgrows := emitted_run hasFactory (.defer faults d)
      (runCalls hasFactory before start)
    have hdurable := (@durable_accepted hasFactory d _ faults haccepted).runCalls
      hasFactory after hgrows.length_le
    have hprefix := hgrows.trans (emitted_runCalls hasFactory after _)
    rcases hdurable with hsent | ⟨hmirrored, hqueued⟩
    · exact Or.inl ⟨_, (List.prefix_iff_eq_append.mp hprefix).symm, hsent⟩
    · by_cases hcrash : Call.crash ∈ after
      · by_cases hmirror : Mirrored hasFactory faults d (runCalls hasFactory before start)
        · exact Or.inr (Or.inr (Or.inl (hmirrored hmirror)))
        · exact Or.inr (Or.inr (Or.inr ⟨hmirror, hcrash⟩))
      · refine Or.inr (Or.inl (hqueued ?_))
        intro h
        rcases h with hno | hin
        · exact hno
        · exact hcrash hin
  · intro before between faults cr hcalls hflush hbetween hstart
    have hdrained : Drained hasFactory cr (runCalls hasFactory before start) := by
      rcases hstart with ⟨hnil, hdrained⟩ | ⟨earlier, faults', hbefore⟩
      · subst hnil
        exact hdrained
      · subst hbefore
        rw [hsplit]
        have hearlier := hcalls (.flush faults' cr) (by simp)
        exact (faultless_flush hearlier _).2.2
    rcases Synced.runCalls between hdrained.synced fun call hcall =>
      ⟨hcalls call (List.mem_append_right _ hcall), hbetween call hcall⟩ with
      ⟨hsynced, hpending⟩
    rw [hsplit]
    refine ⟨(faultless_flush hflush _).1, ?_⟩
    rw [hsynced.flush hflush, hpending, hdrained.1, List.nil_append]

def redisUrlEmpty : Deferral where
  ns := "openstudio"
  name := "oscm"
  reason := "RedisUrlEmpty"
  message := "no Redis URL"

/-- A process that has just started, and a CR without persisted Events. -/
def freshSink : Sink where
  queue := []
  persisted := fun _ => []
  emitted := []

/-- A mirrored Warning survives the crash. -/
theorem deferred_events_durable_crash :
    redisUrlEmpty.entry ∈
      (runCalls true [.defer {} redisUrlEmpty, .crash] freshSink).persisted redisUrlEmpty.cr := by
  rcases (deferred_events_durable true freshSink).1 [] {} redisUrlEmpty [.crash] (by decide) with
    ⟨events, hevents, hmem⟩ | hqueued | hpersisted | ⟨hlost, _⟩
  · have hnone : events = [] := (List.nil_append events).symm.trans hevents.symm
    rw [hnone] at hmem
    cases hmem
  · cases hqueued
  · exact hpersisted
  · exact absurd ⟨rfl, rfl, rfl, by decide⟩ hlost

/-!
## The persisted list in the status
-/

section Status

variable {unicode : UnicodeData} {protectedIds : StatusField -> List String} {status : Json}
  {entries : List Entry}

/-- `get_deferred_events` returns the list. -/
def Persists (unicode : UnicodeData) (status : Json) (entries : List Entry) : Prop :=
  getDeferredEvents unicode status = .ok entries

theorem encodeEvent_entry (d : Deferral) : encodeEvent d.entry =
    .obj [("message", .str d.message), ("name", .str d.name), ("namespace", .str d.ns),
      ("reason", .str d.reason)] := by
  have hname : ¬ ("name" : String) < "message" := by decide
  have hnamespace : ¬ ("namespace" : String) < "message" ∧ ¬ ("namespace" : String) < "name" := by
    decide
  have hreason : ¬ ("reason" : String) < "message" ∧ ¬ ("reason" : String) < "name" ∧
      ¬ ("reason" : String) < "namespace" := by
    decide
  simp [encodeEvent, Deferral.entry, Members.insert, hname, hnamespace, hreason]

theorem deferredEntries_append (d : Deferral) : forall (i : Nat) (items : List Json)
    (entries : List Entry), deferredEntries unicode i items = .ok entries ->
      items.length = entries.length ∧
        deferredEntries unicode i (items ++ [encodeEvent d.entry]) = .ok (entries ++ [d.entry])
  | i, [], entries, h => by
      cases h
      refine ⟨rfl, ?_⟩
      rw [encodeEvent_entry]
      rfl
  | i, item :: rest, entries, h => by
      cases item with
      | obj ms =>
          rw [deferredEntries] at h
          cases hrest : deferredEntries unicode (i + 1) rest with
          | error e =>
              rw [hrest] at h
              cases h
          | ok later =>
              rw [hrest] at h
              cases h
              rcases deferredEntries_append d (i + 1) rest later hrest with ⟨hlength, happend⟩
              refine ⟨congrArg Nat.succ hlength, ?_⟩
              rw [List.cons_append, deferredEntries, happend]
              rfl
      | _ => cases h

/-- What is read is the stored list. -/
theorem persists_stored (h : Persists unicode status entries) :
    StatusDocument.readStatus status = .ok status.members ∧
      deferredEntries unicode 0 (storedEvents status.members) = .ok entries := by
  unfold Persists getDeferredEvents at h
  cases hread : StatusDocument.readStatus status with
  | error e =>
      rw [hread] at h
      cases h
  | ok ms =>
      rw [hread] at h
      have hms := readStatus_members hread
      subst hms
      refine ⟨rfl, ?_⟩
      simp only [bind, Except.bind] at h
      unfold storedEvents
      cases hraw : getMember status.members deferredEventsKey with
      | arr items =>
          rw [hraw] at h
          cases items with
          | nil => exact h
          | cons item rest => exact h
      | _ =>
          rw [hraw] at h
          split at h
          · cases h
          · exact h

theorem readback_events {ms : List (String × Json)} {raw : Json}
    (hraw : (Json.mergeMembers ms [(deferredEventsKey, raw)]).lookup deferredEventsKey =
      Json.mergedMember (ms.lookup deferredEventsKey) raw) {items : List Json}
    (hitems : raw = .arr items) :
    getDeferredEvents unicode (.obj (Json.mergeMembers ms [(deferredEventsKey, raw)])) =
      deferredEntries unicode 0 items := by
  subst hitems
  unfold getDeferredEvents getMember
  rw [readStatus_obj]
  simp only [bind, Except.bind]
  rw [hraw, Json.mergedMember_some rfl, Option.getD_some, Json.mergePatch]
  cases items <;> rfl

theorem applyTo_sent {op : StoreMutation} {patch : Json}
    (hread : StatusDocument.readStatus status = .ok status.members)
    (hpatch : op.buildPatch unicode protectedIds status.members = .ok (some patch)) :
    op.applyTo unicode protectedIds status = status.mergePatch patch := by
  unfold StoreMutation.applyTo
  rw [hread]
  simp only [bind, Except.bind, hpatch]

theorem applyTo_skipped {op : StoreMutation}
    (hread : StatusDocument.readStatus status = .ok status.members)
    (hpatch : op.buildPatch unicode protectedIds status.members = .ok none) :
    op.applyTo unicode protectedIds status = status := by
  unfold StoreMutation.applyTo
  rw [hread]
  simp only [bind, Except.bind, hpatch]

/-- `appendPersisted` is `append_deferred_event` of the status. -/
theorem persists_append (h : Persists unicode status entries) (d : Deferral) :
    Persists unicode ((StoreMutation.appendDeferredEvent d.entry
        (some maxDeferredWarningEvents)).applyTo unicode protectedIds status)
      (if maxDeferredWarningEvents <= entries.length then entries else entries ++ [d.entry]) := by
  rcases persists_stored h with ⟨hread, hstored⟩
  rcases deferredEntries_append d 0 _ _ hstored with ⟨hlength, happend⟩
  have hbuilt : (StoreMutation.appendDeferredEvent d.entry
      (some maxDeferredWarningEvents)).buildPatch unicode protectedIds status.members =
        .ok (appendPatch d.entry (some maxDeferredWarningEvents) status.members) := rfl
  rcases appendPatch_cases d.entry (some maxDeferredWarningEvents) status.members with
    ⟨⟨limit, hlimit, hfull⟩, hpatch⟩ | ⟨hroom, hpatch⟩
  · cases hlimit
    rw [hpatch] at hbuilt
    rw [applyTo_skipped hread hbuilt, if_pos (by rw [← hlength]; exact hfull)]
    exact h
  · rw [hpatch] at hbuilt
    rw [applyTo_sent hread hbuilt,
      if_neg (by rw [← hlength]; exact Nat.not_le_of_lt (hroom _ rfl)), Json.mergePatch]
    refine (readback_events ?_ rfl).trans happend
    rw [Json.lookup_mergeMembers _ _ _ (List.pairwise_singleton _ _), List.lookup_cons_self]

/-- `clearPersisted` is `clear_deferred_events` of the status. -/
theorem persists_clear (h : Persists unicode status entries) :
    Persists unicode (StoreMutation.clearDeferredEvents.applyTo unicode protectedIds status) [] := by
  rcases persists_stored h with ⟨hread, _⟩
  have hbuilt : StoreMutation.clearDeferredEvents.buildPatch unicode protectedIds status.members =
      .ok (clearPatch status.members) := rfl
  cases htruthy : (getMember status.members deferredEventsKey).truthy with
  | true =>
      have hpatch : clearPatch status.members = some (.obj [(deferredEventsKey, .null)]) :=
        if_pos htruthy
      rw [hpatch] at hbuilt
      rw [applyTo_sent hread hbuilt, Json.mergePatch]
      unfold Persists getDeferredEvents getMember
      rw [readStatus_obj]
      simp only [bind, Except.bind]
      rw [Json.lookup_mergeMembers _ _ _ (List.pairwise_singleton _ _), List.lookup_cons_self]
      rfl
  | false =>
      have hpatch : clearPatch status.members = none := if_neg (by rw [htruthy]; simp)
      rw [hpatch] at hbuilt
      rw [applyTo_skipped hread hbuilt]
      unfold Persists getDeferredEvents
      rw [hread]
      simp only [bind, Except.bind, htruthy]
      rfl

end Status

end EventsSinks
end OpenStudioOperator
