import OpenStudioOperator.EventsSinks

/-!
# A flush among deferrals

Handlers run in worker threads and share one sink.  A schedule says whose step
comes next: the flush of a CR, or one of the deferrals to it.  Nothing fails.
-/

namespace OpenStudioOperator
namespace EventsSinks

/-- The next step of `flush_for`. -/
inductive FlushPhase where
  | ready
  | snapshot (pending : List Deferral)
  | emitting (pending entries left : List Deferral)
  | draining (left : List Deferral)
  | returned (dequeued : Bool)
deriving DecidableEq, Repr

/-- The flush has its snapshot and has not dequeued yet. -/
def FlushPhase.inWindow : FlushPhase -> Bool
  | ready => false
  | snapshot _ => true
  | emitting _ _ _ => true
  | draining _ => true
  | returned _ => false

/-- The next step of `defer_to_next_tick`, and whether it enqueued in the window
of the flush. -/
inductive DeferPhase where
  | waiting
  | queued (inWindow : Bool)
  | finished (inWindow : Bool)
  | dropped
deriving DecidableEq, Repr

structure Threads (thread : Type) where
  sink : Sink
  flush : FlushPhase
  defers : thread -> DeferPhase

/-- A flush that is about to start, and deferrals that are too. -/
def Threads.start {thread : Type} (s : Sink) : Threads thread :=
  ⟨s, .ready, fun _ => .waiting⟩

inductive Turn (thread : Type) where
  | flush
  | defer (t : thread)

section Steps

variable {thread : Type} [DecidableEq thread] (cr : CrName) (message : thread -> Deferral)

/-- What `flush_for` goes on with after it read the persisted list. -/
def afterRead (pending entries : List Deferral) : FlushPhase :=
  if pending.isEmpty && entries.isEmpty then .returned false
  else if entries.isEmpty then .draining pending
  else .emitting pending entries entries

/-- One step of `flush_for`. -/
def flushStep (c : Threads thread) : Threads thread :=
  match c.flush with
  | .ready => { c with flush := .snapshot (c.sink.pending cr) }
  | .snapshot pending =>
      { c with flush := afterRead pending ((c.sink.persisted cr).map (Deferral.ofEntry cr)) }
  | .emitting pending entries (d :: left) =>
      { c with sink := c.sink.emit d, flush := .emitting pending entries left }
  | .emitting pending entries [] =>
      { c with
        sink := c.sink.clearPersisted cr
        flush := .draining (pending.filter fun d => d ∉ entries) }
  | .draining (d :: left) => { c with sink := c.sink.emit d, flush := .draining left }
  | .draining [] => { c with sink := c.sink.dequeue cr, flush := .returned true }
  | .returned _ => c

/-- One step of `defer_to_next_tick`. -/
def deferStep (t : thread) (c : Threads thread) : Threads thread :=
  match c.defers t with
  | .waiting =>
      if maxDeferredWarningEvents <= c.sink.queue.length then
        { c with defers := Function.update c.defers t .dropped }
      else
        { c with
          sink := c.sink.enqueue (message t)
          defers := Function.update c.defers t (.queued c.flush.inWindow) }
  | .queued inWindow =>
      { c with
        sink := c.sink.appendPersisted (message t)
        defers := Function.update c.defers t (.finished inWindow) }
  | _ => c

def Turn.step (turn : Turn thread) (c : Threads thread) : Threads thread :=
  match turn with
  | .flush => flushStep cr c
  | .defer t => deferStep message t c

def runTurns (schedule : List (Turn thread)) (c : Threads thread) : Threads thread :=
  schedule.foldl (fun c turn => turn.step cr message c) c

/-- The flush has read a list and has not cleared it. -/
def FlushPhase.holdsRead : FlushPhase -> Bool
  | emitting _ _ _ => true
  | _ => false

/-- A Warning that was enqueued behind the snapshot is persisted where the
flush clears it unread, or not at all. -/
def Misses (t : thread) (c : Threads thread) : Prop :=
  c.defers t = .queued true ∧
    (c.flush.holdsRead = true ∨
      (maxDeferredWarningEvents <= (c.sink.persisted cr).length ∧ c.flush ≠ .returned false))

instance decidableMisses (t : thread) (c : Threads thread) : Decidable (Misses cr t c) :=
  inferInstanceAs (Decidable (_ ∧ _))

/-- No deferral misses in the schedule. -/
def NoneMisses : List (Turn thread) -> Threads thread -> Prop
  | [], _ => True
  | turn :: rest, c =>
      (forall t, turn = .defer t -> ¬ Misses cr t c) ∧ NoneMisses rest (turn.step cr message c)

end Steps

/-!
## The steps are those of the calls
-/

section Alone

variable {thread : Type} {cr : CrName}

/-- The steps of the flush alone. -/
inductive FlushesTo (cr : CrName) : Threads thread -> Threads thread -> Prop where
  | refl (c : Threads thread) : FlushesTo cr c c
  | head {c c' : Threads thread} (h : FlushesTo cr (flushStep cr c) c') : FlushesTo cr c c'

theorem flushesTo_of_eq {c c' : Threads thread} (h : flushStep cr c = c') : FlushesTo cr c c' := by
  apply FlushesTo.head
  rw [h]
  exact FlushesTo.refl c'

theorem flushes_emitting (pending entries : List Deferral) (defers : thread -> DeferPhase) :
    forall (left : List Deferral) (s : Sink) (c' : Threads thread),
      FlushesTo cr ⟨{ s with emitted := s.emitted ++ left }, .emitting pending entries [], defers⟩
        c' -> FlushesTo cr ⟨s, .emitting pending entries left, defers⟩ c'
  | [], s, c', h => by
      rw [List.append_nil] at h
      exact h
  | d :: left, s, c', h => by
      apply FlushesTo.head
      apply flushes_emitting pending entries defers left (s.emit d) c'
      rw [Sink.emit, List.append_assoc, List.singleton_append]
      exact h

theorem flushes_draining (defers : thread -> DeferPhase) :
    forall (left : List Deferral) (s : Sink) (c' : Threads thread),
      FlushesTo cr ⟨{ s with emitted := s.emitted ++ left }, .draining [], defers⟩ c' ->
        FlushesTo cr ⟨s, .draining left, defers⟩ c'
  | [], s, c', h => by
      rw [List.append_nil] at h
      exact h
  | d :: left, s, c', h => by
      apply FlushesTo.head
      apply flushes_draining defers left (s.emit d) c'
      rw [Sink.emit, List.append_assoc, List.singleton_append]
      exact h

/-- Without other threads the steps of a flush do what `flushFor` does. -/
theorem flush_alone (cr : CrName) (s : Sink) (defers : thread -> DeferPhase) :
    exists dequeued, FlushesTo cr ⟨s, .ready, defers⟩
      ⟨(flushFor true {} cr s).1, .returned dequeued, defers⟩ := by
  have hnone : forall n, (({} : FlushFaults).emitRaises n) = false := fun _ => rfl
  have hread : readPersisted true {} cr s = s.persisted cr := rfl
  unfold flushFor drainPersisted drainQueue
  simp only [hread, emitAll_faultless hnone]
  cases hpersisted : s.persisted cr with
  | nil =>
      by_cases hpending : s.pending cr = []
      · refine ⟨false, ?_⟩
        apply FlushesTo.head
        apply flushesTo_of_eq
        simp [flushStep, afterRead, hpersisted, hpending]
      · refine ⟨true, ?_⟩
        apply FlushesTo.head
        apply FlushesTo.head
        have hphase : (flushStep cr (flushStep cr ⟨s, .ready, defers⟩)) =
            ⟨s, .draining (s.pending cr), defers⟩ := by
          simp [flushStep, afterRead, hpersisted, hpending]
        rw [hphase]
        apply flushes_draining
        apply flushesTo_of_eq
        simp [flushStep, hpending]
  | cons entry rest =>
      refine ⟨true, ?_⟩
      apply FlushesTo.head
      apply FlushesTo.head
      have hphase : (flushStep cr (flushStep cr ⟨s, .ready, defers⟩)) =
          ⟨s, .emitting (s.pending cr) ((entry :: rest).map (Deferral.ofEntry cr))
            ((entry :: rest).map (Deferral.ofEntry cr)), defers⟩ := by
        simp [flushStep, afterRead, hpersisted]
      rw [hphase]
      apply flushes_emitting
      apply FlushesTo.head
      apply flushes_draining
      apply flushesTo_of_eq
      simp [flushStep, attempt, Sink.clearPersisted]

variable [DecidableEq thread]

/-- Without other threads the two steps of a deferral do what
`deferToNextTick` does. -/
theorem defer_alone (message : thread -> Deferral) (t : thread) (s : Sink) (flush : FlushPhase)
    (defers : thread -> DeferPhase) (h : defers t = .waiting) :
    (deferStep message t (deferStep message t ⟨s, flush, defers⟩)).sink =
      deferToNextTick true {} (message t) s := by
  unfold deferToNextTick
  by_cases hfull : maxDeferredWarningEvents <= s.queue.length
  · simp [deferStep, h, hfull]
  · simp [deferStep, h, hfull, persist, attempt]

end Alone

/-!
## Where a deferral is covered
-/

/-- An accepted deferral is in the queue and on its way to an Event, or in the
persisted list. -/
def Covered (d : Deferral) (n : Nat) (inWindow finished : Bool) (s : Sink) :
    FlushPhase -> Prop
  | .ready => d ∈ s.queue
  | .snapshot pending => d ∈ s.queue ∧ (inWindow = false -> d ∈ pending) ∧
      (inWindow = true -> finished = true -> d.entry ∈ s.persisted d.cr)
  | .emitting pending entries _ => d ∈ s.queue ∧ (inWindow = false -> d ∈ pending) ∧
      (inWindow = true -> finished = true -> d ∈ entries)
  | .draining left => d ∈ s.queue ∧
      (inWindow = false -> d ∈ left ∨ d ∈ s.emitted.drop n) ∧
      (inWindow = true -> finished = true ->
        d.entry ∈ s.persisted d.cr ∨ d ∈ s.emitted.drop n)
  | .returned true =>
      (inWindow = false -> d ∈ s.queue ∨ d ∈ s.emitted.drop n) ∧
      (inWindow = true -> finished = true ->
        d.entry ∈ s.persisted d.cr ∨ d ∈ s.emitted.drop n)
  | .returned false => d ∈ s.queue

/-- What the flush has read is emitted or still to be emitted. -/
def Emits (n : Nat) (s : Sink) : FlushPhase -> Prop
  | .emitting _ entries left => forall e, e ∈ entries -> e ∈ left ∨ e ∈ s.emitted.drop n
  | _ => True

/-- What has been done for a deferral, once it is accepted. -/
def DeferPhase.progress? : DeferPhase -> Option (Bool × Bool)
  | waiting => none
  | queued inWindow => some (inWindow, false)
  | finished inWindow => some (inWindow, true)
  | dropped => none

section Covered

variable {d : Deferral} {n : Nat} {inWindow finished : Bool} {s s' : Sink} {phase : FlushPhase}

/-- Additions to the queue and the persisted list keep a deferral covered. -/
theorem Covered.grow (h : Covered d n inWindow finished s phase)
    (hemitted : s'.emitted = s.emitted) (hqueue : d ∈ s.queue -> d ∈ s'.queue)
    (hpersisted : d.entry ∈ s.persisted d.cr -> d.entry ∈ s'.persisted d.cr) :
    Covered d n inWindow finished s' phase := by
  cases phase with
  | ready => exact hqueue h
  | snapshot pending =>
      exact ⟨hqueue h.1, h.2.1, fun hw hf => hpersisted (h.2.2 hw hf)⟩
  | emitting pending entries left => exact ⟨hqueue h.1, h.2⟩
  | draining left =>
      refine ⟨hqueue h.1, ?_, ?_⟩
      · rw [hemitted]
        exact h.2.1
      · rw [hemitted]
        exact fun hw hf => (h.2.2 hw hf).imp_left hpersisted
  | returned dequeued =>
      cases dequeued with
      | false => exact hqueue h
      | true =>
          constructor
          · rw [hemitted]
            exact fun hw => (h.1 hw).imp_left hqueue
          · rw [hemitted]
            exact fun hw hf => (h.2 hw hf).imp_left hpersisted

theorem mem_emit {e : Deferral} (hn : n <= s.emitted.length) :
    e ∈ (s.emit e).emitted.drop n := by
  rw [Sink.emit, List.drop_append_of_le_length hn]
  exact List.mem_append_right _ (List.mem_singleton_self e)

theorem mem_emit_of_mem {e e' : Deferral} (h : e ∈ s.emitted.drop n) :
    e ∈ (s.emit e').emitted.drop n := by
  rw [Sink.emit, List.drop_append]
  exact List.mem_append_left _ h

/-- One step of the flush keeps every deferral to the CR covered. -/
theorem Covered.flushStep {thread : Type} {c : Threads thread} {cr : CrName} (hcr : d.cr = cr)
    (hn : n <= c.sink.emitted.length) (h : Covered d n inWindow finished c.sink c.flush)
    (hemits : Emits n c.sink c.flush) (hready : c.flush = .ready -> inWindow = false) :
    Covered d n inWindow finished (flushStep cr c).sink (flushStep cr c).flush := by
  subst hcr
  unfold EventsSinks.flushStep
  cases hphase : c.flush with
  | ready =>
      rw [hphase] at h hready
      refine ⟨h, fun _ => List.mem_filter.mpr ⟨h, by simp⟩, ?_⟩
      intro hw
      rw [hready rfl] at hw
      cases hw
  | snapshot pending =>
      rw [hphase] at h
      rcases h with ⟨hqueue, hpending, hpersisted⟩
      simp only [afterRead]
      split
      · exact hqueue
      · split
        · rename_i hempty
          refine ⟨hqueue, fun hw => Or.inl (hpending hw), ?_⟩
          exact fun hw hf => Or.inl (hpersisted hw hf)
        · refine ⟨hqueue, hpending, ?_⟩
          intro hw hf
          exact List.mem_map.mpr ⟨_, hpersisted hw hf, Deferral.ofEntry_entry d⟩
  | emitting pending entries left =>
      rw [hphase] at h hemits
      rcases h with ⟨hqueue, hpending, hentries⟩
      cases left with
      | cons e left => exact ⟨hqueue, hpending, hentries⟩
      | nil =>
          have hall : forall e, e ∈ entries -> e ∈ c.sink.emitted.drop n := by
            intro e he
            rcases hemits e he with hnil | hsent
            · cases hnil
            · exact hsent
          refine ⟨hqueue, ?_, fun hw hf => Or.inr (hall d (hentries hw hf))⟩
          intro hw
          by_cases hin : d ∈ entries
          · exact Or.inr (hall d hin)
          · exact Or.inl (List.mem_filter.mpr ⟨hpending hw, by simpa using hin⟩)
  | draining left =>
      rw [hphase] at h
      rcases h with ⟨hqueue, hpending, hpersisted⟩
      cases left with
      | cons e left =>
          refine ⟨hqueue, ?_, fun hw hf => (hpersisted hw hf).imp_right mem_emit_of_mem⟩
          intro hw
          rcases hpending hw with hin | hsent
          · rcases List.mem_cons.mp hin with heq | hrest
            · rw [heq]
              exact Or.inr (mem_emit hn)
            · exact Or.inl hrest
          · exact Or.inr (mem_emit_of_mem hsent)
      | nil =>
          refine ⟨?_, hpersisted⟩
          intro hw
          rcases hpending hw with hnil | hsent
          · cases hnil
          · exact Or.inr hsent
  | returned dequeued =>
      exact h

theorem Emits.flushStep {thread : Type} {c : Threads thread} (cr : CrName)
    (hn : n <= c.sink.emitted.length) (h : Emits n c.sink c.flush) :
    Emits n (EventsSinks.flushStep cr c).sink (EventsSinks.flushStep cr c).flush := by
  unfold EventsSinks.flushStep
  cases hphase : c.flush with
  | snapshot pending =>
      simp only [afterRead]
      split
      · trivial
      · split
        · trivial
        · exact fun e he => Or.inl he
  | emitting pending entries left =>
      rw [hphase] at h
      cases left with
      | nil => trivial
      | cons e left =>
          intro e' he'
          rcases h e' he' with hin | hsent
          · rcases List.mem_cons.mp hin with heq | hrest
            · rw [heq]
              exact Or.inr (mem_emit hn)
            · exact Or.inl hrest
          · exact Or.inr (mem_emit_of_mem hsent)
  | draining left => cases left <;> trivial
  | ready => trivial
  | returned dequeued =>
      simp only
      rw [hphase]
      trivial

/-- A deferral that was just accepted. -/
theorem covered_enqueued (s : Sink) (phase : FlushPhase) (d : Deferral) (n : Nat) :
    Covered d n phase.inWindow false (s.enqueue d) phase := by
  have hqueue : d ∈ (s.enqueue d).queue :=
    List.mem_append_right _ (List.mem_singleton_self d)
  cases phase with
  | ready => exact hqueue
  | snapshot pending => exact ⟨hqueue, (fun hw => by cases hw), fun _ hf => by cases hf⟩
  | emitting pending entries left =>
      exact ⟨hqueue, (fun hw => by cases hw), fun _ hf => by cases hf⟩
  | draining left => exact ⟨hqueue, (fun hw => by cases hw), fun _ hf => by cases hf⟩
  | returned dequeued =>
      cases dequeued with
      | false => exact hqueue
      | true => exact ⟨fun _ => Or.inl hqueue, fun hw => by cases hw⟩

/-- A deferral that was enqueued and is now persisted. -/
theorem Covered.append (h : Covered d n inWindow false s phase)
    (hreads : inWindow = true -> phase.holdsRead = false)
    (hroom : inWindow = true -> phase ≠ .returned false ->
      (s.persisted d.cr).length < maxDeferredWarningEvents) :
    Covered d n inWindow true (s.appendPersisted d) phase := by
  rcases appendPersisted_queue d s with ⟨hqueue, hemitted⟩
  have hpersisted : inWindow = true -> phase ≠ .returned false ->
      d.entry ∈ (s.appendPersisted d).persisted d.cr := by
    intro hw hreturned
    simp [Sink.appendPersisted, Nat.not_le_of_lt (hroom hw hreturned)]
  cases phase with
  | ready =>
      unfold Covered
      rw [hqueue]
      exact h
  | snapshot pending =>
      unfold Covered
      rw [hqueue]
      exact ⟨h.1, h.2.1, fun hw _ => hpersisted hw (by simp)⟩
  | emitting pending entries left =>
      unfold Covered
      rw [hqueue]
      refine ⟨h.1, h.2.1, ?_⟩
      intro hw
      cases hreads hw
  | draining left =>
      unfold Covered
      rw [hqueue, hemitted]
      exact ⟨h.1, h.2.1, fun hw _ => Or.inl (hpersisted hw (by simp))⟩
  | returned dequeued =>
      cases dequeued with
      | false =>
          unfold Covered
          rw [hqueue]
          exact h
      | true =>
          unfold Covered
          rw [hqueue, hemitted]
          exact ⟨h.1, fun hw _ => Or.inl (hpersisted hw (by simp))⟩

end Covered

/-!
## Runs
-/

section Runs

variable {thread : Type} [DecidableEq thread] {cr : CrName} {message : thread -> Deferral}
  {c : Threads thread} {n : Nat}

/-- Every accepted deferral is covered. -/
structure AllCovered (message : thread -> Deferral) (n : Nat) (c : Threads thread) : Prop where
  length : n <= c.sink.emitted.length
  emits : Emits n c.sink c.flush
  before : c.flush = .ready -> forall t inWindow finished,
    (c.defers t).progress? = some (inWindow, finished) -> inWindow = false
  covered : forall t inWindow finished, (c.defers t).progress? = some (inWindow, finished) ->
    Covered (message t) n inWindow finished c.sink c.flush

omit [DecidableEq thread] in
theorem flushStep_not_ready (cr : CrName) (c : Threads thread) :
    (flushStep cr c).flush ≠ .ready := by
  unfold flushStep
  cases hphase : c.flush with
  | snapshot pending =>
      simp only [afterRead]
      split
      · simp
      · split <;> simp
  | emitting pending entries left => cases left <;> simp
  | draining left => cases left <;> simp
  | ready => simp
  | returned dequeued => simp [hphase]

omit [DecidableEq thread] in
theorem flushStep_emitted (cr : CrName) (c : Threads thread) :
    c.sink.emitted.length <= (flushStep cr c).sink.emitted.length ∧
      (flushStep cr c).defers = c.defers := by
  unfold flushStep
  cases hphase : c.flush with
  | emitting pending entries left => cases left <;> simp [Sink.emit, Sink.clearPersisted]
  | draining left => cases left <;> simp [Sink.emit, Sink.dequeue]
  | _ => exact ⟨Nat.le_refl _, rfl⟩

omit [DecidableEq thread] in
theorem AllCovered.flush (h : AllCovered message n c) (hmessage : forall t, (message t).cr = cr) :
    AllCovered message n (flushStep cr c) := by
  rcases flushStep_emitted cr c with ⟨hlength, hdefers⟩
  refine ⟨Nat.le_trans h.length hlength, h.emits.flushStep cr h.length,
    fun hready => absurd hready (flushStep_not_ready cr c), ?_⟩
  intro t inWindow finished hprogress
  rw [hdefers] at hprogress
  exact (h.covered t inWindow finished hprogress).flushStep (hmessage t) h.length h.emits
    fun hready => h.before hready t inWindow finished hprogress

/-- A step of one deferral leaves the others covered. -/
theorem AllCovered.update (h : AllCovered message n c) {s : Sink} {t : thread}
    {phase : DeferPhase} (hemitted : s.emitted = c.sink.emitted)
    (hqueue : forall d, d ∈ c.sink.queue -> d ∈ s.queue)
    (hpersisted : forall cr entry, entry ∈ c.sink.persisted cr -> entry ∈ s.persisted cr)
    (hbefore : c.flush = .ready -> forall inWindow finished,
      phase.progress? = some (inWindow, finished) -> inWindow = false)
    (hcovered : forall inWindow finished, phase.progress? = some (inWindow, finished) ->
      Covered (message t) n inWindow finished s c.flush) :
    AllCovered message n ⟨s, c.flush, Function.update c.defers t phase⟩ := by
  constructor
  · rw [hemitted]
    exact h.length
  · have hemits := h.emits
    unfold Emits at hemits ⊢
    rw [hemitted]
    exact hemits
  · intro hready t' inWindow finished hprogress
    by_cases heq : t' = t
    · subst heq
      simp only [Function.update_self] at hprogress
      exact hbefore hready inWindow finished hprogress
    · simp only [Function.update_of_ne heq] at hprogress
      exact h.before hready t' inWindow finished hprogress
  · intro t' inWindow finished hprogress
    by_cases heq : t' = t
    · subst heq
      simp only [Function.update_self] at hprogress
      exact hcovered inWindow finished hprogress
    · simp only [Function.update_of_ne heq] at hprogress
      exact (h.covered t' inWindow finished hprogress).grow hemitted (hqueue _)
        (hpersisted _ _)

theorem AllCovered.defer (h : AllCovered message n c) (hmessage : forall t, (message t).cr = cr)
    {t : thread} (hmiss : ¬ Misses cr t c) : AllCovered message n (deferStep message t c) := by
  unfold deferStep
  cases hphase : c.defers t with
  | waiting =>
      simp only
      split
      · refine h.update rfl (fun _ hd => hd) (fun _ _ he => he) ?_ ?_
        · intro _ inWindow finished hprogress
          cases hprogress
        · intro inWindow finished hprogress
          cases hprogress
      · refine h.update rfl (fun _ hd => List.mem_append_left _ hd) (fun _ _ he => he) ?_ ?_
        · intro hready inWindow finished hprogress
          cases hprogress
          rw [hready]
          rfl
        · intro inWindow finished hprogress
          cases hprogress
          exact covered_enqueued c.sink c.flush (message t) n
  | queued inWindow =>
      have hprogress : (c.defers t).progress? = some (inWindow, false) := by
        rw [hphase]
        rfl
      rcases appendPersisted_queue (message t) c.sink with ⟨hqueue, hemitted⟩
      refine h.update hemitted (fun _ hd => by rw [hqueue]; exact hd)
        (fun _ _ he => mem_appendPersisted he) ?_ ?_
      · intro hready inWindow' finished hprogress'
        cases hprogress'
        exact h.before hready t inWindow false hprogress
      · intro inWindow' finished hprogress'
        cases hprogress'
        have hwindow : inWindow = true -> c.defers t = .queued true := by
          intro hw
          rw [hphase, hw]
        refine (h.covered t inWindow false hprogress).append ?_ ?_
        · intro hw
          by_contra hreads
          exact hmiss ⟨hwindow hw, Or.inl (by simpa using hreads)⟩
        · intro hw hreturned
          rw [hmessage t]
          apply Nat.lt_of_not_le
          intro hfull
          exact hmiss ⟨hwindow hw, Or.inr ⟨hfull, hreturned⟩⟩
  | finished inWindow => exact h
  | dropped => exact h

theorem AllCovered.run (hmessage : forall t, (message t).cr = cr) :
    forall (schedule : List (Turn thread)) {c : Threads thread}, AllCovered message n c ->
      NoneMisses cr message schedule c -> AllCovered message n (runTurns cr message schedule c)
  | [], _, h, _ => h
  | .flush :: rest, _, h, hnone => AllCovered.run hmessage rest (h.flush hmessage) hnone.2
  | .defer t :: rest, _, h, hnone =>
      AllCovered.run hmessage rest (h.defer hmessage (hnone.1 t rfl)) hnone.2

/-- In a schedule in which no deferral misses, every accepted one is emitted,
queued or persisted once it and the flush have finished. -/
theorem deferral_kept (hmessage : forall t, (message t).cr = cr) (s : Sink)
    (schedule : List (Turn thread)) (hnone : NoneMisses cr message schedule (Threads.start s))
    {dequeued : Bool}
    (hflushed : (runTurns cr message schedule (Threads.start s)).flush = .returned dequeued)
    {t : thread} {inWindow : Bool}
    (haccepted : (runTurns cr message schedule (Threads.start s)).defers t = .finished inWindow) :
    message t ∈ (runTurns cr message schedule (Threads.start s)).sink.emitted.drop
        s.emitted.length ∨
      message t ∈ (runTurns cr message schedule (Threads.start s)).sink.queue ∨
      (message t).entry ∈
        (runTurns cr message schedule (Threads.start s)).sink.persisted (message t).cr := by
  have hstart : AllCovered message s.emitted.length (Threads.start s : Threads thread) :=
    ⟨Nat.le_refl _, trivial, (fun _ _ _ _ h => by cases h), fun _ _ _ h => by cases h⟩
  have hfinal := hstart.run hmessage schedule hnone
  have hcovered := hfinal.covered t inWindow true (by rw [haccepted]; rfl)
  rw [hflushed] at hcovered
  cases dequeued with
  | false => exact Or.inr (Or.inl hcovered)
  | true =>
      cases inWindow with
      | false =>
          rcases hcovered.1 rfl with hqueue | hsent
          · exact Or.inr (Or.inl hqueue)
          · exact Or.inl hsent
      | true =>
          rcases hcovered.2 rfl rfl with hpersisted | hsent
          · exact Or.inr (Or.inr hpersisted)
          · exact Or.inl hsent

end Runs

/-- The CR has one persisted Event and nothing queued. -/
def mirroredSink : Sink where
  queue := []
  persisted := fun _ => [[("message", "older"), ("reason", "RedisUrlEmpty")]]
  emitted := []

/-- The deferral comes between the snapshot and the read. -/
def earlySchedule : List (Turn (Fin 1)) :=
  [.flush, .defer 0, .defer 0, .flush, .flush, .flush, .flush, .flush]

theorem deferral_kept_early :
    redisUrlEmpty ∈ (runTurns redisUrlEmpty.cr (fun _ => redisUrlEmpty) earlySchedule
      (Threads.start mirroredSink)).sink.emitted := by
  have hnone : NoneMisses redisUrlEmpty.cr (fun _ => redisUrlEmpty) earlySchedule
      (Threads.start mirroredSink) := by
    have hflush : forall c : Threads (Fin 1), forall t, (Turn.flush : Turn (Fin 1)) = .defer t ->
        ¬ Misses redisUrlEmpty.cr t c := by
      intro c t ht
      cases ht
    refine ⟨hflush _, ?_, ?_, hflush _, hflush _, hflush _, hflush _, hflush _, trivial⟩
    · intro t _
      have ht := Subsingleton.elim t 0
      subst ht
      decide
    · intro t _
      have ht := Subsingleton.elim t 0
      subst ht
      decide
  rcases deferral_kept (fun _ => rfl) mirroredSink earlySchedule hnone (t := 0) rfl rfl with
    hsent | hqueued | hpersisted
  · exact List.mem_of_mem_drop hsent
  · cases hqueued
  · cases hpersisted

/-- The deferral comes between the read and the clear. -/
def lateSchedule : List (Turn (Fin 1)) :=
  [.flush, .flush, .defer 0, .defer 0, .flush, .flush, .flush]

/-- The Warning is nowhere when both have finished. -/
theorem deferral_lost :
    (runTurns redisUrlEmpty.cr (fun _ => redisUrlEmpty) lateSchedule
        (Threads.start mirroredSink)).flush = .returned true ∧
      (runTurns redisUrlEmpty.cr (fun _ => redisUrlEmpty) lateSchedule
        (Threads.start mirroredSink)).defers 0 = .finished true ∧
      redisUrlEmpty ∉ (runTurns redisUrlEmpty.cr (fun _ => redisUrlEmpty) lateSchedule
        (Threads.start mirroredSink)).sink.emitted ∧
      redisUrlEmpty ∉ (runTurns redisUrlEmpty.cr (fun _ => redisUrlEmpty) lateSchedule
        (Threads.start mirroredSink)).sink.queue ∧
      redisUrlEmpty.entry ∉ (runTurns redisUrlEmpty.cr (fun _ => redisUrlEmpty) lateSchedule
        (Threads.start mirroredSink)).sink.persisted redisUrlEmpty.cr := by
  decide

end EventsSinks
end OpenStudioOperator
