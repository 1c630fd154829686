import OpenStudioOperator.AnalysisSlaLifecycle

/-!
# The SLA monitor acts once per anchor

How often an analysis is soft-stopped and escalated while its anchor is there.
The stored anchor is all that the monitor remembers, so every repetition is
paid for by a tick in which the memory of an action was lost.
-/

namespace OpenStudioOperator

open Foundation

/-!
## Counting within a lifetime
-/

/-- The newest entries, as far back as the anchor of `id` has been there. -/
def lifetime (id : String) (trace : Trace) : Trace :=
  trace.takeWhile fun e => (softStopsField.entry id e.status).isSome

/-- The soft stops of `id` that the server answered. -/
def returnedSoftStops (id : String) (stretch : Trace) : Nat :=
  stretch.countP fun e => e.event = .mutate (.softStopAnalysis id) (.ok ())

/-- The passes of the escalation of `id` that reached the delete loop. -/
def escalationPasses (id : String) (stretch : Trace) : Nat :=
  stretch.countP fun e => e.event = .escalationPass id

/-- The failed emit or `set_soft_stop` write after an answered soft stop. -/
def lostSoftStop (id : String) (e : Entry) (older : Trace) : Bool :=
  match e.event, older with
  | .emit _ _ _ (.error _), act :: _ =>
      act.event = .mutate (.softStopAnalysis id) (.ok ())
  | .store (.setSoftStop analysisId _) (.error _), _ :: act :: _ =>
      analysisId = id ∧ act.event = .mutate (.softStopAnalysis id) (.ok ())
  | _, _ => false

/-- The tick did not get to record a soft stop of `id` that was answered. -/
def losesSoftStop (id : String) : Trace -> Bool
  | [] => false
  | e :: older => lostSoftStop id e older || losesSoftStop id older

/-- The escalation of `id` raised after it had reached the delete loop. -/
def losesPass (id : String) (tick : Trace) : Bool :=
  tick.any fun e => e.event = .escalationRaised id

/-- The soft stops and passes of this lifetime, less those that were lost,
are at most `softStops` and `passes`. -/
structure Spent (id : String) (softStops passes : Nat) (trace : Trace) : Prop where
  softStops : returnedSoftStops id (lifetime id trace) <=
    softStops + (ticksOf (lifetime id trace)).countP (losesSoftStop id)
  passes : escalationPasses id (lifetime id trace) <=
    passes + (ticksOf (lifetime id trace)).countP (losesPass id)

/-- What the stored anchor says was done. -/
def anchorSoftStops : Option SoftStopRecord -> Nat
  | some record => if record.outcome = .watching then 0 else 1
  | none => 0

def anchorPasses : Option SoftStopRecord -> Nat
  | some record => if record.escalatedAt = none then 0 else 1
  | none => 0

section Counting

variable {id : String} {a b : Nat} {e : Entry} {older : Trace}

theorem lifetime_cons_of_present (h : Present id e) :
    lifetime id (e :: older) = e :: lifetime id older :=
  List.takeWhile_cons_of_pos h

theorem lifetime_cons_of_absent (h : softStopsField.entry id e.status = none) :
    lifetime id (e :: older) = [] := by
  apply List.takeWhile_cons_of_neg
  rw [h]
  exact Bool.false_ne_true

theorem Spent.mono {a' b' : Nat} (h : Spent id a b older) (ha : a <= a')
    (hb : b <= b') : Spent id a' b' older where
  softStops := Nat.le_trans h.softStops (Nat.add_le_add_right ha _)
  passes := Nat.le_trans h.passes (Nat.add_le_add_right hb _)

theorem Spent.of_lifetime_nil (h : lifetime id older = []) : Spent id 0 0 older where
  softStops := by
    rw [h]
    exact Nat.zero_le _
  passes := by
    rw [h]
    exact Nat.zero_le _

theorem losesSoftStop_cons {tick : Trace} (h : losesSoftStop id tick = true) :
    losesSoftStop id (e :: tick) = true := by
  rw [losesSoftStop, h]
  exact Bool.or_true _

theorem losesPass_cons {tick : Trace} (h : losesPass id tick = true) :
    losesPass id (e :: tick) = true := by
  unfold losesPass at h ⊢
  rw [List.any_cons, h]
  exact Bool.or_true _

theorem lostSoftStops_le (id : String) (e : Entry) (older : Trace) :
    (ticksOf older).countP (losesSoftStop id) <=
      (ticksOf (e :: older)).countP (losesSoftStop id) :=
  countP_blocks_le older rfl fun _ => losesSoftStop_cons

theorem lostPasses_le (id : String) (e : Entry) (older : Trace) :
    (ticksOf older).countP (losesPass id) <=
      (ticksOf (e :: older)).countP (losesPass id) :=
  countP_blocks_le older rfl fun _ => losesPass_cons

/-- Any entry costs at most what it is. -/
theorem Spent.cons (h : Spent id a b older) (e : Entry) :
    Spent id
      (a + (decide (e.event = .mutate (.softStopAnalysis id) (.ok ()))).toNat)
      (b + (decide (e.event = .escalationPass id)).toNat) (e :: older) := by
  cases hentry : softStopsField.entry id e.status with
  | none =>
      exact (Spent.of_lifetime_nil (lifetime_cons_of_absent hentry)).mono
        (Nat.zero_le _) (Nat.zero_le _)
  | some record =>
      have hpresent : Present id e := by
        unfold Present
        rw [hentry]
        rfl
      have hlostSoftStops := lostSoftStops_le id e (lifetime id older)
      have hlostPasses := lostPasses_le id e (lifetime id older)
      constructor
      · have hsoftStops := h.softStops
        unfold returnedSoftStops at hsoftStops ⊢
        rw [lifetime_cons_of_present hpresent, List.countP_cons]
        cases decide (e.event = .mutate (.softStopAnalysis id) (.ok ())) <;> simp <;> omega
      · have hpasses := h.passes
        unfold escalationPasses at hpasses ⊢
        rw [lifetime_cons_of_present hpresent, List.countP_cons]
        cases decide (e.event = .escalationPass id) <;> simp <;> omega

/-- An entry that is neither costs nothing. -/
theorem Spent.free (h : Spent id a b older)
    (hcall : e.event ≠ .mutate (.softStopAnalysis id) (.ok ()))
    (hpass : e.event ≠ .escalationPass id) : Spent id a b (e :: older) := by
  have hcons := h.cons e
  rw [decide_eq_false hcall, decide_eq_false hpass] at hcons
  exact hcons

theorem Spent.idle (h : Spent id a b older) (hidle : ¬ e.event.Tries id) :
    Spent id a b (e :: older) := by
  apply h.free
  · intro hevent
    rw [hevent] at hidle
    exact hidle rfl
  · intro hevent
    rw [hevent] at hidle
    exact hidle rfl

/-- A tick that loses a soft stop makes up for it. -/
theorem Spent.lostSoftStop (h : Spent id (a + 1) b older) (hpresent : Present id e)
    (hidle : ¬ e.event.Tries id) (hopens : e.opensTick = false)
    (hbefore : losesSoftStop id (newestBlock Entry.opensTick (lifetime id older)) = false)
    (hnow : losesSoftStop id
      (e :: newestBlock Entry.opensTick (lifetime id older)) = true) :
    Spent id a b (e :: older) := by
  have hcons := h.idle hidle
  refine ⟨?_, hcons.passes⟩
  have hlost : (ticksOf (e :: lifetime id older)).countP (losesSoftStop id) =
      (ticksOf (lifetime id older)).countP (losesSoftStop id) + 1 :=
    countP_blocks_succ _ rfl hopens hbefore hnow
  have hcall : e.event ≠ .mutate (.softStopAnalysis id) (.ok ()) := by
    intro hevent
    rw [hevent] at hidle
    exact hidle rfl
  have hsoftStops := h.softStops
  unfold returnedSoftStops at hsoftStops ⊢
  rw [lifetime_cons_of_present hpresent, hlost,
    List.countP_cons_of_neg (by rw [decide_eq_false hcall]; exact Bool.false_ne_true)]
  omega

/-- A tick whose pass raised makes up for it. -/
theorem Spent.lostPass (h : Spent id a (b + 1) older) (hpresent : Present id e)
    (hevent : e.event = .escalationRaised id)
    (hbefore : losesPass id (newestBlock Entry.opensTick (lifetime id older)) = false) :
    Spent id a b (e :: older) := by
  have hopens : e.opensTick = false := by
    unfold Entry.opensTick
    rw [hevent]
  have hcons := h.cons e
  rw [hevent] at hcons
  refine ⟨hcons.softStops, ?_⟩
  have hnow : losesPass id
      (e :: newestBlock Entry.opensTick (lifetime id older)) = true := by
    unfold losesPass
    rw [List.any_cons, decide_eq_true hevent]
    rfl
  have hlost : (ticksOf (e :: lifetime id older)).countP (losesPass id) =
      (ticksOf (lifetime id older)).countP (losesPass id) + 1 :=
    countP_blocks_succ _ rfl hopens hbefore hnow
  have hpasses := h.passes
  unfold escalationPasses at hpasses ⊢
  rw [lifetime_cons_of_present hpresent, hlost,
    List.countP_cons_of_neg (by rw [hevent]; simp)]
  omega

theorem losesSoftStop_eq_false {tick : Trace}
    (h : forall x, x ∈ tick -> x.event ≠ .mutate (.softStopAnalysis id) (.ok ())) :
    losesSoftStop id tick = false := by
  induction tick with
  | nil => rfl
  | cons e older ih =>
      have hrest : losesSoftStop id older = false :=
        ih fun x hx => h x (List.mem_cons_of_mem e hx)
      rw [losesSoftStop, hrest, Bool.or_false]
      unfold OpenStudioOperator.lostSoftStop
      split
      · rename_i act rest _
        exact decide_eq_false (h act (by simp))
      · rename_i act rest _
        apply decide_eq_false
        intro hact
        exact h act (by simp) hact.2
      · rfl

/-- Before its attempts the tick has lost nothing. -/
theorem untried_newestBlock {w : World} (h : Untried id w) :
    losesSoftStop id (newestBlock Entry.opensTick (lifetime id w.trace)) = false ∧
      losesPass id (newestBlock Entry.opensTick (lifetime id w.trace)) = false := by
  have hmem : forall x, x ∈ newestBlock Entry.opensTick (lifetime id w.trace) ->
      ¬ x.event.Tries id := by
    intro x hx
    rcases mem_newestBlock_takeWhile hx with hopens | hcurrent
    · intro htries
      unfold Entry.opensTick at hopens
      split at hopens
      · rename_i config hevent
        rw [hevent] at htries
        exact htries
      · cases hopens
    · exact h x hcurrent
  constructor
  · apply losesSoftStop_eq_false
    intro x hx hevent
    apply hmem x hx
    rw [hevent]
    rfl
  · unfold losesPass
    rw [List.any_eq_false]
    intro x hx hraised
    apply hmem x hx
    rw [of_decide_eq_true hraised]
    rfl

end Counting

/-!
## Each step is paid for
-/

section Steps

variable {R : SoftStopRecord -> Prop} {initial : Status} {id : String}
variable {t : Tick} {w0 w w' : World}

/-- What one move of the anchor leaves to be paid. -/
theorem AnchorMove.spent {event : Event} {before after : Option SoftStopRecord}
    (h : AnchorMove R id event before after) :
    after = none ∨ (anchorSoftStops before <= anchorSoftStops after ∧
      anchorPasses before <= anchorPasses after) := by
  cases h with
  | same _ _ => exact Or.inr ⟨Nat.le_refl _, Nat.le_refl _⟩
  | removed _ _ => exact Or.inl rfl
  | created r now => exact Or.inr ⟨Nat.zero_le _, Nat.zero_le _⟩
  | restored r new _ _ => exact Or.inr ⟨Nat.zero_le _, Nat.zero_le _⟩
  | softStopped r record new hwatching hunescalated _ =>
      right
      constructor
      · rw [anchorSoftStops, if_pos hwatching]
        exact Nat.zero_le _
      · exact Nat.le_refl _
  | escalated r record now outcome hunescalated _ =>
      right
      constructor
      · exact Nat.le_refl _
      · rw [anchorPasses, if_pos hunescalated]
        exact Nat.zero_le _

/-- What the stored anchor admits to covers what was done in its lifetime. -/
def Accounted (initial : Status) (id : String) (trace : Trace) : Prop :=
  Spent id (anchorSoftStops (anchorAt initial id trace))
    (anchorPasses (anchorAt initial id trace)) trace

/-- No stage of the history spent more than one of each. -/
def Bounded (id : String) (trace : Trace) : Prop :=
  Throughout (fun e older => Spent id 1 1 (e :: older)) trace

theorem anchorSoftStops_le (anchor : Option SoftStopRecord) :
    anchorSoftStops anchor <= 1 := by
  unfold anchorSoftStops
  split
  · split_ifs
    · exact Nat.zero_le _
    · exact Nat.le_refl _
  · exact Nat.zero_le _

theorem anchorPasses_le (anchor : Option SoftStopRecord) : anchorPasses anchor <= 1 := by
  unfold anchorPasses
  split
  · split_ifs
    · exact Nat.zero_le _
    · exact Nat.le_refl _
  · exact Nat.zero_le _

theorem Accounted.spent {trace : Trace} (h : Accounted initial id trace) :
    Spent id 1 1 trace :=
  Spent.mono h (anchorSoftStops_le _) (anchorPasses_le _)

/-- An idle entry keeps the account. -/
theorem Accounted.idle {e : Entry} {older : Trace} (h : Accounted initial id older)
    (hidle : ¬ e.event.Tries id)
    (hmove : AnchorMove R id e.event (anchorAt initial id older)
      (softStopsField.entry id e.status)) :
    Accounted initial id (e :: older) := by
  rcases hmove.spent with hnone | ⟨hsoftStops, hpasses⟩
  · exact (Spent.of_lifetime_nil (lifetime_cons_of_absent hnone)).mono
      (Nat.zero_le _) (Nat.zero_le _)
  · exact (Spent.idle h hidle).mono hsoftStops hpasses

theorem Accounted.idle_block {older : Trace} (h : Accounted initial id older)
    (hbounded : Bounded id older) :
    forall block : Trace, (forall e, e ∈ block -> ¬ e.event.Tries id) ->
      Throughout (AnchorLaw R initial id) (block ++ older) ->
      Accounted initial id (block ++ older) ∧ Bounded id (block ++ older)
  | [], _, _ => ⟨h, hbounded⟩
  | e :: block, hidle, hlaw => by
      rw [List.cons_append] at hlaw ⊢
      have hrest := h.idle_block hbounded block
        (fun x hx => hidle x (List.mem_cons_of_mem e hx)) hlaw.tail
      have hnow : Accounted initial id (e :: (block ++ older)) :=
        hrest.1.idle (hidle e List.mem_cons_self) hlaw.head.move
      exact ⟨hnow, .cons hnow.spent hrest.2⟩

/-- A soft stop found the anchor watching: nothing is owed before it. -/
theorem Accounted.watching {record : SoftStopRecord} (h : Accounted initial id w.trace)
    (hwithin : Within initial t w0 w) (hleaves : t.env.Leaves (softStopsField.entry id))
    (hwatches : Watches t (w0.openTick t) w id record)
    (hwatching : record.outcome = .watching) : Spent id 0 0 w.trace := by
  unfold Accounted at h
  rw [hwithin.anchor] at h
  rcases hwatches.now hleaves with hsome | hnone
  · rw [hsome, anchorSoftStops, anchorPasses, if_pos hwatching,
      if_pos hwatches.unescalated] at h
    exact h
  · rw [hnone] at h
    exact h

theorem newestBlock_log {record : SoftStopRecord} {time : Instant} {event : Event}
    (hentry : softStopsField.entry id w.status = some record)
    (hevent : forall config, event ≠ .tickStart config) :
    newestBlock Entry.opensTick (lifetime id (w.log time event).trace) =
      ⟨time, event, w.status⟩ :: newestBlock Entry.opensTick (lifetime id w.trace) := by
  have hpresent : Present id ⟨time, event, w.status⟩ := by
    unfold Present
    rw [hentry]
    rfl
  rw [World.log_trace, lifetime_cons_of_present hpresent,
    newestBlock_cons (Entry.opensTick_eq_false hevent)]

theorem Spent.softStop {a b : Nat} (h : Spent id a b w.trace) (time : Instant) :
    Spent id (a + 1) b
      (w.log time (.mutate (.softStopAnalysis id) (.ok ()))).trace :=
  (h.cons _).mono (Nat.le_of_eq (by simp)) (Nat.le_of_eq (by simp))

/-- A failed emit after an answered soft stop pays for it. -/
theorem spent_unannounced {message : String} {error : Exc} (huntried : Untried id w)
    (h : Spent id 0 0 w.trace) :
    Spent id 0 0
      ((w.log t.env.now (.mutate (.softStopAnalysis id) (.ok ()))).log t.env.now
        (.emit .warning analysisSoftStoppedEvent message (.error error))).trace := by
  cases hentry : softStopsField.entry id w.status with
  | none => exact Spent.of_lifetime_nil (lifetime_cons_of_absent hentry)
  | some record =>
      have hpresent : Present id ⟨t.env.now,
          .emit .warning analysisSoftStoppedEvent message (.error error), w.status⟩ := by
        unfold Present
        rw [hentry]
        rfl
      have hnewest := (untried_newestBlock huntried).1
      apply (h.softStop t.env.now).lostSoftStop hpresent not_false rfl
      · rw [newestBlock_log hentry (by simp), losesSoftStop, hnewest]
        rfl
      · rw [newestBlock_log hentry (by simp), losesSoftStop]
        simp [OpenStudioOperator.lostSoftStop]

/-- A failed write after an announced soft stop pays for it. -/
theorem spent_unrecorded {message : String} {error : Exc} {new : SoftStopRecord}
    {s : Status} (huntried : Untried id w) (h : Spent id 0 0 w.trace) :
    Spent id 0 0
      (((w.log t.env.now (.mutate (.softStopAnalysis id) (.ok ()))).log t.env.now
        (.emit .warning analysisSoftStoppedEvent message (.ok ()))).commit t.env.now
          (.setSoftStop id new) (.error error) s).trace := by
  cases hentry : softStopsField.entry id w.status with
  | none =>
      apply Spent.idle
      · exact Spent.of_lifetime_nil (lifetime_cons_of_absent hentry)
      · exact not_false
  | some record =>
      have hannounced : Spent id 1 0
          ((w.log t.env.now (.mutate (.softStopAnalysis id) (.ok ()))).log t.env.now
            (.emit .warning analysisSoftStoppedEvent message (.ok ()))).trace :=
        (h.softStop t.env.now).idle not_false
      have hnewest := (untried_newestBlock huntried).1
      have hacted : softStopsField.entry id
          (w.log t.env.now (.mutate (.softStopAnalysis id) (.ok ()))).status =
            some record := hentry
      cases hafter : softStopsField.entry id s with
      | none => exact Spent.of_lifetime_nil (lifetime_cons_of_absent hafter)
      | some record' =>
          have hpresent : Present id ⟨t.env.now,
              .store (.setSoftStop id new) (.error error), s⟩ := by
            unfold Present
            rw [hafter]
            rfl
          apply hannounced.lostSoftStop hpresent not_false rfl
          · rw [newestBlock_log hacted (by simp), newestBlock_log hentry (by simp),
              losesSoftStop, losesSoftStop, hnewest]
            rfl
          · rw [newestBlock_log hacted (by simp), newestBlock_log hentry (by simp),
              losesSoftStop]
            simp [OpenStudioOperator.lostSoftStop]

theorem anchorSoftStops_recorded (config : OperatorConfig) (record : SoftStopRecord)
    (old : Option SoftStopRecord) :
    anchorSoftStops ((some (softStoppedRecord config record)).map
      (mergeEntry softStopsField.merge old)) = 1 := by
  have houtcome : (mergeEntry softStopsField.merge old
      (softStoppedRecord config record)).outcome =
        (softStoppedRecord config record).outcome := by
    cases old with
    | none => rfl
    | some _ => rfl
  rw [Option.map_some, anchorSoftStops, houtcome, if_neg]
  rcases softStoppedRecord_outcome config record with hissued | hdry
  · rw [hissued]
    exact SoftStopOutcome.noConfusion
  · rw [hdry]
    exact SoftStopOutcome.noConfusion

theorem accounted_softStop {record : SoftStopRecord} (hwithin : Within initial t w0 w)
    (hleaves : t.env.Leaves (softStopsField.entry id))
    (hwatches : Watches t (w0.openTick t) w id record)
    (hwatching : record.outcome = .watching) (huntried : Untried id w)
    (hacts : Acts t (.softStopAnalysis id) .warning analysisSoftStoppedEvent
      (.setSoftStop id (softStoppedRecord t.config record))
      (MapWrite t.env softStopsField id (some (softStoppedRecord t.config record)))
      w w')
    (h : Accounted initial id w.trace) (hbounded : Bounded id w.trace) :
    Accounted initial id w'.trace ∧ Bounded id w'.trace := by
  have hzero := h.watching hwithin hleaves hwatches hwatching
  have hact : Spent id 1 0
      (w.log t.env.now (actEvent t.config (.softStopAnalysis id))).trace := by
    unfold actEvent
    split_ifs
    · exact (hzero.free (by simp) (by simp)).mono (Nat.zero_le _) (Nat.zero_le _)
    · exact hzero.softStop t.env.now
  have hactBounded := Throughout.cons (hact.mono (Nat.le_refl _) (Nat.zero_le _)) hbounded
  cases hacts with
  | failed e _ =>
      have hfree : Spent id 0 0
          (w.log t.env.now (.mutate (.softStopAnalysis id) (.error e))).trace :=
        hzero.free (by simp) (by simp)
      exact ⟨hfree.mono (Nat.zero_le _) (Nat.zero_le _),
        .cons (hfree.mono (Nat.zero_le _) (Nat.zero_le _)) hbounded⟩
  | unannounced message e =>
      have hpaid : Spent id 0 0
          ((w.log t.env.now (actEvent t.config (.softStopAnalysis id))).log t.env.now
            (.emit .warning analysisSoftStoppedEvent message (.error e))).trace := by
        unfold actEvent
        split_ifs
        · exact Spent.idle (hzero.free (by simp) (by simp)) not_false
        · exact spent_unannounced huntried hzero
      exact ⟨hpaid.mono (Nat.zero_le _) (Nat.zero_le _),
        .cons (hpaid.mono (Nat.zero_le _) (Nat.zero_le _)) hactBounded⟩
  | recorded message r s hwrite =>
      have hannounced : Spent id 1 0
          ((w.log t.env.now (actEvent t.config (.softStopAnalysis id))).log t.env.now
            (.emit .warning analysisSoftStoppedEvent message (.ok ()))).trace :=
        hact.idle not_false
      have hannouncedBounded := Throughout.cons
        (hannounced.mono (Nat.le_refl _) (Nat.zero_le _)) hactBounded
      have haccounted : Accounted initial id
          (((w.log t.env.now (actEvent t.config (.softStopAnalysis id))).log t.env.now
            (.emit .warning analysisSoftStoppedEvent message (.ok ()))).commit t.env.now
              (.setSoftStop id (softStoppedRecord t.config record)) r s).trace := by
        cases r with
        | error e =>
            have hpaid : Spent id 0 0
                (((w.log t.env.now (actEvent t.config (.softStopAnalysis id))).log t.env.now
                  (.emit .warning analysisSoftStoppedEvent message (.ok ()))).commit
                    t.env.now (.setSoftStop id (softStoppedRecord t.config record))
                      (.error e) s).trace := by
              unfold actEvent
              split_ifs
              · exact Spent.idle (Spent.idle (hzero.free (by simp) (by simp)) not_false)
                  not_false
              · exact spent_unrecorded huntried hzero
            exact hpaid.mono (Nat.zero_le _) (Nat.zero_le _)
        | ok _ =>
            have hsoftStopped : anchorSoftStops (softStopsField.entry id s) = 1 := by
              rcases hwrite.self hleaves with hnew | ⟨hraised, _⟩
              · rw [hnew]
                exact anchorSoftStops_recorded _ _ _
              · exact absurd rfl hraised
            exact Spent.mono (hannounced.idle not_false) (Nat.le_of_eq hsoftStopped.symm)
              (Nat.zero_le _)
      exact ⟨haccounted, .cons haccounted.spent hannouncedBounded⟩

/-- A pass under way: it is spent, but has not raised. -/
structure MidPass (id : String) (a : Nat) (w : World) : Prop where
  spent : Spent id a 1 w.trace
  bounded : Bounded id w.trace
  unraised : forall e, e ∈ currentTick w.trace -> e.event ≠ .escalationRaised id

section MidPass

variable {a : Nat}

theorem MidPass.begin (h : Spent id a 0 w.trace) (ha : a <= 1)
    (hbounded : Bounded id w.trace) (huntried : Untried id w) (time : Instant) :
    MidPass id a (w.log time (.escalationPass id)) := by
  have hspent : Spent id a 1 (w.log time (.escalationPass id)).trace :=
    (h.cons _).mono (Nat.le_of_eq (by simp)) (Nat.le_of_eq (by simp))
  refine ⟨hspent, .cons (hspent.mono ha (Nat.le_refl _)) hbounded, ?_⟩
  intro e he hraised
  rcases mem_currentTick_cons he with hnew | hold
  · rw [hnew] at hraised
    cases hraised
  · apply huntried e hold
    rw [hraised]
    rfl

theorem MidPass.log (h : MidPass id a w) (ha : a <= 1) (time : Instant) {event : Event}
    (hidle : ¬ event.Tries id) : MidPass id a (w.log time event) := by
  have hspent : Spent id a 1 (w.log time event).trace := h.spent.idle hidle
  refine ⟨hspent, .cons (hspent.mono ha (Nat.le_refl _)) h.bounded, ?_⟩
  intro e he hraised
  rcases mem_currentTick_cons he with hnew | hold
  · apply hidle
    rw [hnew] at hraised
    rw [show event = .escalationRaised id from hraised]
    rfl
  · exact h.unraised e hold hraised

theorem MidPass.emit (h : MidPass id a w) (ha : a <= 1) (time : Instant)
    (type : EventType) (reason message : String) (r : Except Exc Unit) :
    MidPass id a (w.log time (.emit type reason message r)) :=
  h.log ha time not_false

theorem MidPass.commit (h : MidPass id a w) (ha : a <= 1) (time : Instant)
    (op : StoreOp) (r : Except Exc Unit) (s : Status) :
    MidPass id a (w.commit time op r s) := by
  have hspent : Spent id a 1 (w.commit time op r s).trace := h.spent.idle not_false
  refine ⟨hspent, .cons (hspent.mono ha (Nat.le_refl _)) h.bounded, ?_⟩
  intro e he hraised
  rcases mem_currentTick_cons he with hnew | hold
  · rw [hnew] at hraised
    cases hraised
  · exact h.unraised e hold hraised

theorem MidPass.logAll (ha : a <= 1) (time : Instant) :
    forall {deletes : List Event} {w : World}, MidPass id a w ->
      DeletesPodsOf id deletes -> MidPass id a (w.logAll time deletes)
  | [], _, h, _ => h
  | event :: deletes, w, h, hdeletes => by
      have hidle : ¬ event.Tries id := by
        rcases hdeletes event List.mem_cons_self with ⟨podName, grace, r, hpod⟩
        rw [hpod]
        exact not_false
      have hrest : DeletesPodsOf id deletes :=
        fun e he => hdeletes e (List.mem_cons_of_mem event he)
      show MidPass id a ((w.log time event).logAll time deletes)
      exact MidPass.logAll ha time (h.log ha time hidle) hrest

/-- A pass that raised is paid for. -/
theorem MidPass.raised (h : MidPass id a w) (ha : a <= 1) (time : Instant) :
    Spent id a 0 (w.log time (.escalationRaised id)).trace ∧
      Bounded id (w.log time (.escalationRaised id)).trace := by
  have hspent : Spent id a 0 (w.log time (.escalationRaised id)).trace := by
    cases hentry : softStopsField.entry id w.status with
    | none =>
        exact (Spent.of_lifetime_nil (lifetime_cons_of_absent hentry)).mono
          (Nat.zero_le _) (Nat.zero_le _)
    | some record =>
        have hpresent : Present id ⟨time, .escalationRaised id, w.status⟩ := by
          unfold Present
          rw [hentry]
          rfl
        apply h.spent.lostPass hpresent rfl
        unfold losesPass
        rw [List.any_eq_false]
        intro x hx hraised
        have hevent := of_decide_eq_true hraised
        rcases mem_newestBlock_takeWhile hx with hopens | hcurrent
        · unfold Entry.opensTick at hopens
          rw [hevent] at hopens
          cases hopens
        · exact h.unraised x hcurrent hevent
  exact ⟨hspent, .cons (hspent.mono ha (Nat.zero_le _)) h.bounded⟩

end MidPass

theorem accounted_pass {record : SoftStopRecord} (hwithin : Within initial t w0 w)
    (hleaves : t.env.Leaves (softStopsField.entry id))
    (hescalates : Escalates t (w0.openTick t) w id record) (huntried : Untried id w)
    (hpass : Pass t id w w') (h : Accounted initial id w.trace)
    (hbounded : Bounded id w.trace) :
    Accounted initial id w'.trace ∧ Bounded id w'.trace := by
  have ha : anchorSoftStops (softStopsField.entry id w.status) <= 1 :=
    anchorSoftStops_le _
  have hunescalated : anchorPasses (softStopsField.entry id w.status) = 0 := by
    rcases hescalates.now hleaves with hsome | hnone
    · rw [hsome, anchorPasses, if_pos hescalates.unescalated]
    · rw [hnone]
      rfl
  unfold Accounted at h
  rw [hwithin.anchor, hunescalated] at h
  have hbegin := MidPass.begin h ha hbounded huntried t.env.now
  have hstatus : forall deletes,
      ((w.log t.env.now (.escalationPass id)).logAll t.env.now deletes).status =
        w.status := by
    intro deletes
    rw [World.logAll_status, World.log_status]
  cases hpass with
  | raised deletes hdeletes =>
      have hdone := (hbegin.logAll ha t.env.now hdeletes).raised ha t.env.now
      refine ⟨hdone.1.mono ?_ (Nat.zero_le _), hdone.2⟩
      show _ <= anchorSoftStops (softStopsField.entry id
        ((w.log t.env.now (.escalationPass id)).logAll t.env.now deletes).status)
      exact Nat.le_of_eq (by rw [hstatus])
  | unannounced deletes message e hdeletes =>
      have hdone := ((hbegin.logAll ha t.env.now hdeletes).emit ha t.env.now
        .warning analysisEscalatedEvent message (.error e)).raised ha t.env.now
      refine ⟨hdone.1.mono ?_ (Nat.zero_le _), hdone.2⟩
      show _ <= anchorSoftStops (softStopsField.entry id
        ((w.log t.env.now (.escalationPass id)).logAll t.env.now deletes).status)
      exact Nat.le_of_eq (by rw [hstatus])
  | unmarked deletes message e outcome s hdeletes hmark =>
      have hdone := (((hbegin.logAll ha t.env.now hdeletes).emit ha t.env.now
        .warning analysisEscalatedEvent message (.ok ())).commit ha t.env.now
          (.markSoftStopEscalated id t.env.now outcome) (.error e) s).raised ha t.env.now
      refine ⟨hdone.1.mono ?_ (Nat.zero_le _), hdone.2⟩
      show _ <= anchorSoftStops (softStopsField.entry id s)
      rcases hmark.self hleaves with ⟨current, hbefore, hafter⟩ | ⟨_, hsame⟩
      · rw [hbefore, hafter]
        exact Nat.le_refl _
      · exact Nat.le_of_eq (by rw [hsame])
  | marked deletes message outcome s hdeletes hmark =>
      have hdone := ((hbegin.logAll ha t.env.now hdeletes).emit ha t.env.now
        .warning analysisEscalatedEvent message (.ok ())).commit ha t.env.now
          (.markSoftStopEscalated id t.env.now outcome) (.ok ()) s
      refine ⟨?_, hdone.bounded⟩
      rcases hmark.self hleaves with ⟨current, hbefore, hafter⟩ | ⟨hraised, _⟩
      · refine hdone.spent.mono ?_ ?_
        · show _ <= anchorSoftStops (softStopsField.entry id s)
          rw [hbefore, hafter]
          exact Nat.le_refl _
        · show _ <= anchorPasses (softStopsField.entry id s)
          rw [hafter]
          exact Nat.le_refl _
      · exact absurd rfl hraised

/-- Every step keeps the account. -/
theorem SlaStep.accounted {subject : String} (hwithin : Within initial t w0 w)
    (hleaves : t.env.Leaves (softStopsField.entry id))
    (hstep : SlaStep t (w0.openTick t) subject w w')
    (hlaw : Throughout (AnchorLaw R initial id) w'.trace)
    (h : Accounted initial id w.trace) (hbounded : Bounded id w.trace) :
    Accounted initial id w'.trace ∧ Bounded id w'.trace := by
  rcases hstep.tries with ⟨block, htrace, hidle⟩ | ⟨heq, hsoftStop | hpass⟩
  · rw [htrace] at hlaw ⊢
    exact h.idle_block hbounded block hidle hlaw
  · subst heq
    rcases hsoftStop with ⟨record, hwatches, hwatching, huntried, hacts⟩
    exact accounted_softStop hwithin hleaves hwatches hwatching huntried hacts h hbounded
  · subst heq
    rcases hpass with ⟨record, hescalates, huntried, hpass⟩
    exact accounted_pass hwithin hleaves hescalates huntried hpass h hbounded

end Steps

/-!
## Whole runs
-/

/-- What is promised of every stage of a run. -/
structure OneShot (id : String) (trace : Trace) : Prop where
  clock : forall e e' record record', e ∈ lifetime id trace -> e' ∈ lifetime id trace ->
    softStopsField.entry id e.status = some record ->
    softStopsField.entry id e'.status = some record' ->
      record.issuedAt = record'.issuedAt
  softStops : returnedSoftStops id (lifetime id trace) <=
    1 + (ticksOf (lifetime id trace)).countP (losesSoftStop id)
  passes : escalationPasses id (lifetime id trace) <=
    1 + (ticksOf (lifetime id trace)).countP (losesPass id)
  /-- A soft stop, a stop or a pod delete finds no marker in this lifetime. -/
  unescalated : forall act older, trace = act :: older ->
    (act.event.SoftStops id ∨ act.event.Stops id ∨ act.event.Escalates id) ->
    forall e record, e ∈ lifetime id older ->
      softStopsField.entry id e.status = some record -> record.escalatedAt = none

section Stages

variable {R : SoftStopRecord -> Prop} {initial : Status} {id : String}

theorem AnchorMove.escalated_stays {event : Event} {record record' : SoftStopRecord}
    (h : AnchorMove R id event (some record) (some record'))
    (hescalated : record.escalatedAt ≠ none) : record'.escalatedAt ≠ none := by
  cases h with
  | same _ _ => exact hescalated
  | softStopped r _ new _ hunescalated _ => exact absurd hunescalated hescalated
  | escalated r _ now outcome hunescalated _ => exact absurd hunescalated hescalated

/-- All records of a lifetime share their clock with the newest, and a marker
stays. -/
theorem lifetime_records :
    forall {trace : Trace} {newest : SoftStopRecord},
      Throughout (AnchorLaw R initial id) trace ->
      anchorAt initial id trace = some newest ->
      forall e record, e ∈ lifetime id trace ->
        softStopsField.entry id e.status = some record ->
        record.issuedAt = newest.issuedAt ∧
          (record.escalatedAt ≠ none -> newest.escalatedAt ≠ none)
  | [], _, _, _, e, record, he, _ => absurd he List.not_mem_nil
  | head :: older, newest, hlaw, hnewest, e, record, he, hrecord => by
      have hhead : softStopsField.entry id head.status = some newest := hnewest
      have hpresent : Present id head := by
        unfold Present
        rw [hhead]
        rfl
      rw [lifetime_cons_of_present hpresent] at he
      rcases List.mem_cons.mp he with heq | holder
      · rw [heq, hhead] at hrecord
        rw [Option.some.inj hrecord]
        exact ⟨rfl, fun h => h⟩
      · cases hbefore : anchorAt initial id older with
        | none =>
            -- an absent anchor ends the lifetime
            have hempty : lifetime id older = [] := by
              cases older with
              | nil => rfl
              | cons e' oldest => exact lifetime_cons_of_absent hbefore
            rw [hempty] at holder
            exact absurd holder List.not_mem_nil
        | some before =>
            have hmove := hlaw.head.move
            rw [hbefore, hhead] at hmove
            rcases lifetime_records hlaw.tail hbefore e record holder hrecord with
              ⟨hclock, hescalated⟩
            exact ⟨hclock.trans hmove.issuedAt.symm,
              fun h => hmove.escalated_stays (hescalated h)⟩

theorem lifetime_present (initial : Status) {trace : Trace} {e : Entry}
    (h : e ∈ lifetime id trace) :
    exists newest, anchorAt initial id trace = some newest := by
  cases trace with
  | nil => exact absurd h List.not_mem_nil
  | cons head older =>
      cases hhead : softStopsField.entry id head.status with
      | none =>
          rw [lifetime_cons_of_absent hhead] at h
          exact absurd h List.not_mem_nil
      | some newest => exact ⟨newest, hhead⟩

theorem ActsOn.lifetime {older : Trace} {config : OperatorConfig}
    {record : SoftStopRecord} (h : ActsOn initial id older config record)
    (hlaw : Throughout (AnchorLaw R initial id) older) :
    forall e stored, e ∈ lifetime id older ->
      softStopsField.entry id e.status = some stored -> stored.escalatedAt = none := by
  intro e stored he hstored
  rcases lifetime_present initial he with ⟨newest, hnewest⟩
  rcases h.now with hnow | hnow
  · rw [hnow] at hnewest
    have hescalated := (lifetime_records hlaw hnow e stored he hstored).2
    exact not_not.mp fun hmarked => hescalated hmarked h.unescalated
  · rw [hnow] at hnewest
    cases hnewest

theorem oneShot_of_law {trace : Trace}
    (hlaw : Throughout (AnchorLaw R initial id) trace) (hspent : Spent id 1 1 trace) :
    OneShot id trace where
  clock := by
    intro e e' record record' he he' hrecord hrecord'
    rcases lifetime_present initial he with ⟨newest, hnewest⟩
    have h := (lifetime_records hlaw hnewest e record he hrecord).1
    have h' := (lifetime_records hlaw hnewest e' record' he' hrecord').1
    exact h.trans h'.symm
  softStops := hspent.softStops
  passes := hspent.passes
  unescalated := by
    intro act older htrace hact
    rw [htrace] at hlaw
    rcases hact with hsoftStop | hstop | hescalates
    · rcases hlaw.head.softStop hsoftStop with ⟨config, record, hacts, _⟩
      exact hacts.lifetime hlaw.tail
    · rcases hlaw.head.stop hstop with ⟨config, record, hacts⟩
      exact hacts.lifetime hlaw.tail
    · rcases hlaw.head.escalation hescalates with ⟨config, record, hacts, _⟩
      exact hacts.lifetime hlaw.tail

end Stages

/-- In every run, at every stage of it, the SLA monitor has acted once in the
lifetime of an anchor, up to the ticks that lost the memory of an action. -/
theorem sla_one_shot (ticks : List Tick) (status : Status) (id : String)
    (hleaves : forall t, t ∈ ticks -> t.env.Leaves (softStopsField.entry id))
    (stage : Trace)
    (hstage : stage <:+ (runTicks runSlaTick ticks { status := status }).trace) :
    OneShot id stage := by
  have hrun : Throughout (AnchorLaw (fun _ => True) status id)
        (runTicks runSlaTick ticks { status := status }).trace ∧
      (Accounted status id (runTicks runSlaTick ticks { status := status }).trace ∧
        Bounded id (runTicks runSlaTick ticks { status := status }).trace) := by
    apply runSlaTicks_induction_law
      (fun w => Accounted status id w.trace ∧ Bounded id w.trace)
    · intro t w hlaw _ hw
      exact hw.1.idle_block hw.2 [_] (by simp [Event.Tries]) hlaw
    · intro t w0 w w' subject hleaves' hwithin hlaw hw hstep
      exact hstep.accounted hwithin hleaves' hlaw hw.1 hw.2
    · exact escalatesOnly_of_leaves hleaves
    · exact ⟨⟨Nat.zero_le _, Nat.zero_le _⟩, .nil⟩
  rcases hstage with ⟨newer, htrace⟩
  rw [← htrace] at hrun
  have hlaw := hrun.1.of_append newer
  cases stage with
  | nil => exact oneShot_of_law hlaw ⟨Nat.zero_le _, Nat.zero_le _⟩
  | cons e older => exact oneShot_of_law hlaw (hrun.2.2.of_split newer)

/-- First sight, one soft stop, one pass, all in one lifetime. -/
theorem sla_one_shot_default :
    OneShot "a" (startedRun {} [0, 181, 200, 220]) ∧
      returnedSoftStops "a" (lifetime "a" (startedRun {} [0, 181, 200, 220])) = 1 ∧
      escalationPasses "a" (lifetime "a" (startedRun {} [0, 181, 200, 220])) = 1 := by
  refine ⟨?_, by decide +kernel, by decide +kernel⟩
  unfold startedRun
  exact sla_one_shot ([0, 181, 200, 220].map (startedTick {})) {} "a"
    (startedTick_leaves _ {} [0, 181, 200, 220]) _ List.suffix_rfl

end OpenStudioOperator
