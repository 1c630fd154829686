import OpenStudioOperator.WebBackgroundMonitorTicks

/-!
# Spacing of the restarts

A restart leaves its anchor, no checkpoint and a fresh tracker.  Until the
next restart every clock of the monitor then starts after the cooldown of the
anchor, so a window that is sustained, or clean, ends two windows after it.

The breaker counts the restarts that found the anchor of a predecessor.  The
count is written after the anchor, so it falls behind when it is not written.
-/

namespace OpenStudioOperator

open Foundation

/-- The summary of the tick that runs in `w`. -/
def stallSummaryOf (t : Tick) (w : World) : StallSummary :=
  (runTick runStallTick t w).stallSummary

/-- Since the restart at `start` no clock has begun within its cooldown. -/
structure Rearming (window : Duration) (start : Instant) (count : Int) (a : Stall) :
    Prop where
  anchor : a.lastRestart = some start
  counted : a.ineffective = count
  observed : forall s, a.tracker.firstObserved = some s -> window < s - start
  persisted : forall s, a.windowStartedAt = some s -> window < s - start
  clean : forall s, a.tracker.firstClean = some s -> window < s - start

section Rearming

variable {window : Duration} {start now : Instant} {count : Int} {a b : Stall}
variable {sm : StallSummary}

/-- A restart that is recorded leaves no clock. -/
theorem Rearming.fresh (hanchor : a.lastRestart = some start)
    (hpersisted : a.windowStartedAt = none) (htracker : a.tracker = {}) :
    Rearming window start a.ineffective a := by
  constructor
  · exact hanchor
  · rfl
  · intro s hs
    rw [htracker] at hs
    cases hs
  · intro s hs
    rw [hpersisted] at hs
    cases hs
  · intro s hs
    rw [htracker] at hs
    cases hs

theorem Rearming.entering {t : Tick} {w : World}
    (h : Rearming window start count w.stall) :
    Rearming window start count (enteringStall t w) := by
  unfold enteringStall
  split
  · exact
      { anchor := h.anchor
        counted := h.counted
        observed := fun _ hs => by cases hs
        persisted := h.persisted
        clean := fun _ hs => by cases hs }
  · exact h

theorem Rearming.gate (h : Rearming window start count a)
    (hgate : gateClosed now window a.lastRestart = false) : window < now - start := by
  rw [h.anchor] at hgate
  exact Int.not_le.mp (of_decide_eq_false hgate)

/-- A window that holds on an open tick began after the cooldown. -/
theorem Rearming.began (h : Rearming window start count a)
    (hgate : gateClosed now window a.lastRestart = false) :
    window < a.began now - start := by
  unfold Stall.began
  cases hobserved : a.tracker.firstObserved with
  | some s => exact h.observed s hobserved
  | none =>
      cases hpersisted : a.windowStartedAt with
      | some s => exact h.persisted s hpersisted
      | none => exact h.gate hgate

theorem Rearming.held (h : Rearming window start count a)
    (hgate : gateClosed now window a.lastRestart = false) :
    Rearming window start count (a.held now) := by
  constructor
  · exact h.anchor
  · exact h.counted
  · intro s hs
    rw [← Option.some.inj hs]
    exact h.began hgate
  · intro s hs
    unfold Stall.held at hs
    simp only at hs
    split at hs
    · rw [← Option.some.inj hs]
      exact h.began hgate
    · exact h.persisted s hs
  · intro s hs
    cases hs

/-- The clean period of an open tick began after the cooldown. -/
theorem Rearming.cleanSince (h : Rearming window start count a)
    (hgate : gateClosed now window a.lastRestart = false) :
    window < a.tracker.firstClean.getD now - start := by
  cases hclean : a.tracker.firstClean with
  | some s => exact h.clean s hclean
  | none => exact h.gate hgate

theorem Rearming.broken (h : Rearming window start count a)
    (hgate : gateClosed now window a.lastRestart = false) :
    Rearming window start count (a.broken now) := by
  constructor
  · exact h.anchor
  · exact h.counted
  · intro s hs
    cases hs
  · intro s hs
    cases hs
  · intro s hs
    rw [← Option.some.inj hs]
    exact h.cleanSince hgate

theorem Rearming.blind (h : Rearming window start count a) :
    Rearming window start count { a with tracker := {}, windowStartedAt := none } := by
  rw [← h.counted]
  exact Rearming.fresh (a := { a with tracker := {}, windowStartedAt := none })
    h.anchor rfl rfl

/-- A tick without a restart keeps the clocks where they may be, or resets the
breaker more than two windows after the restart. -/
theorem StallTick.rearming (h : Rearming window start count a)
    (hmove : StallTick window now a sm b) (hfailed : sm.failed = false)
    (hfired : sm.fired = false) :
    (sm.reset = false -> Rearming window start count b) ∧
      (sm.reset = true -> 2 * window < now - start) := by
  cases hmove with
  | unread => cases hfailed
  | gated _ => exact ⟨fun _ => h, fun hreset => by cases hreset⟩
  | escaped _ => exact ⟨fun _ => h, fun hreset => by cases hreset⟩
  | blind _ => exact ⟨fun _ => h.blind, fun hreset => by cases hreset⟩
  | blindUnclosed _ _ _ => cases hfailed
  | unrestored _ _ => cases hfailed
  | unpersisted _ _ _ _ => cases hfailed
  | held hgate => exact ⟨fun _ => h.held hgate, fun hreset => by cases hreset⟩
  | heldUnread _ => cases hfailed
  | fired _ _ _ hrecorded => cases hrecorded <;> cases hfired
  | unclosed _ _ _ => cases hfailed
  | broken hgate => exact ⟨fun _ => h.broken hgate, fun hreset => by cases hreset⟩
  | brokenUnread _ => cases hfailed
  | cleaned hgate hwindow hreset =>
      cases hreset with
      | zeroLost _ _ => cases hfailed
      | anchorLost _ _ => cases hfailed
      | done =>
          constructor
          · intro hkept
            cases hkept
          intro _
          have hsince := h.cleanSince hgate
          lia

/-- A recorded restart starts the cooldown. -/
theorem StallTick.rearms (hmove : StallTick window now a sm b) (hfailed : sm.failed = false)
    (hfired : sm.fired = true) : Rearming window now b.ineffective b := by
  cases hmove with
  | fired _ _ _ hrecorded =>
      cases hrecorded with
      | first _ => exact Rearming.fresh rfl rfl rfl
      | counted _ => exact Rearming.fresh rfl rfl rfl
      | _ => cases hfailed
  | cleaned _ _ hreset => cases hreset <;> cases hfired
  | _ => cases hfired

theorem naturalRearmWindows_le_backoffWindows (count : Int) :
    naturalRearmWindows <= backoffWindows count := by
  have hschedule : forall scheduled, scheduled ∈ backoffWindowSchedule ->
      naturalRearmWindows <= scheduled.2 := by decide
  unfold backoffWindows
  apply List.foldlRecOn
  · exact Nat.le_refl _
  · intro total htotal scheduled hscheduled
    split
    · exact hschedule scheduled hscheduled
    · exact htotal

/-- The next restart waits for the cooldown, a full window, and the backoff. -/
theorem StallTick.spaced (h : Rearming window start count a)
    (hmove : StallTick window now a sm b) (hfailed : sm.failed = false)
    (hfired : sm.fired = true) :
    2 * window < now - start ∧ window * backoffWindows count < now - start ∧
      b.ineffective = count + 1 := by
  cases hmove with
  | fired hgate hsustained hopen hrecorded =>
      have hbegan := h.began hgate
      have hnatural : 2 * window < now - start := by lia
      have hcount : b.ineffective = count + 1 := by
        rw [← h.counted]
        cases hrecorded with
        | first hnone =>
            rw [show (a.held now).lastRestart = a.lastRestart from rfl, h.anchor] at hnone
            cases hnone
        | counted _ => rfl
        | _ => cases hfailed
      refine ⟨hnatural, ?_, hcount⟩
      have hgates := hopen start h.anchor
      rw [h.counted] at hgates
      rcases Nat.eq_or_lt_of_le (naturalRearmWindows_le_backoffWindows count) with
        hequal | hengaged
      · rw [← hequal, Int.mul_comm]
        exact hnatural
      · exact Int.not_le.mp fun hearly => hgates ⟨hengaged, hearly⟩
  | cleaned _ _ hreset => cases hreset <;> cases hfired
  | _ => cases hfired

end Rearming

/-!
## Runs
-/

section Runs

variable {window : Duration} {start : Instant} {count : Int}

/-- A tick of the run: the window is the constant one, the three scalars have
no other writer, and the status calls and the Events of a restart return. -/
def SteadyTick (window : Duration) (t : Tick) (w : World) : Prop :=
  stallWindowOf t.config = window ∧ t.env.Leaves Status.stallScalars ∧
    (stallSummaryOf t w).failed = false

theorem SteadyTick.move {t : Tick} {w : World} (h : SteadyTick window t w) :
    StallTick window t.env.now (enteringStall t w) (stallSummaryOf t w)
      (runTick runStallTick t w).stall := by
  rw [← h.1]
  exact runStallTick_move h.2.1 w

/-- After ticks without a restart the clocks are where they may be, or one of
the ticks reset the breaker. -/
theorem rearming_runTicks : forall (ticks : List Tick) (w : World),
    Rearming window start count w.stall ->
    EveryTick runStallTick (SteadyTick window) ticks w ->
    EveryTick runStallTick (fun t w => (stallSummaryOf t w).fired = false) ticks w ->
    Rearming window start count (runTicks runStallTick ticks w).stall ∨
      (¬ EveryTick runStallTick (fun t w => (stallSummaryOf t w).reset = false) ticks w ∧
        exists t, t ∈ ticks ∧ 2 * window < t.env.now - start) := by
  intro ticks
  induction ticks with
  | nil =>
      intro w h _ _
      exact Or.inl h
  | cons t later ih =>
      intro w h hsteady hquiet
      have hstep := hsteady.1.move.rearming h.entering hsteady.1.2.2 hquiet.1
      cases hreset : (stallSummaryOf t w).reset with
      | true =>
          right
          constructor
          · intro hkept
            rw [hkept.1] at hreset
            cases hreset
          · exact ⟨t, List.mem_cons_self, hstep.2 hreset⟩
      | false =>
          rcases ih _ (hstep.1 hreset) hsteady.2 hquiet.2 with hkept | ⟨hreset', t', ht', hlate⟩
          · exact Or.inl hkept
          · right
            refine ⟨fun hall => hreset' hall.2, t', List.mem_cons_of_mem t ht', hlate⟩

end Runs

/-- Two restarts with none between them are more than two windows apart.
Unless the breaker was reset between them they are also further apart than the
backoff of the count after the first, and the second raises that count by
one. -/
theorem stallRestarts_spaced (first second : Tick) (between : List Tick) (w : World)
    (window : Duration)
    (hclock : (first :: (between ++ [second])).Pairwise fun t t' => t.env.now <= t'.env.now)
    (hsteady : EveryTick runStallTick (SteadyTick window) (first :: (between ++ [second])) w)
    (hfirst : (stallSummaryOf first w).fired = true)
    (hbetween : EveryTick runStallTick (fun t w => (stallSummaryOf t w).fired = false)
      between (runTick runStallTick first w))
    (hsecond : (stallSummaryOf second
      (runTicks runStallTick (first :: between) w)).fired = true) :
    2 * window < second.env.now - first.env.now ∧
      (EveryTick runStallTick (fun t w => (stallSummaryOf t w).reset = false) between
          (runTick runStallTick first w) ->
        window * backoffWindows (runTick runStallTick first w).stall.ineffective <
            second.env.now - first.env.now ∧
          (runTicks runStallTick (first :: (between ++ [second])) w).stall.ineffective =
            (runTick runStallTick first w).stall.ineffective + 1) := by
  have hstart := hsteady.1.move.rearms hsteady.1.2.2 hfirst
  have hrun := everyTick_append.mp hsteady.2
  have hlast := hrun.2.1
  have hend : (runTicks runStallTick (first :: (between ++ [second])) w).stall =
      (runTick runStallTick second (runTicks runStallTick (first :: between) w)).stall := by
    rw [← List.cons_append, runTicks_append]
    rfl
  rcases rearming_runTicks between _ hstart hrun.1 hbetween with hkept | ⟨hreset, t, ht, hlate⟩
  · have hspaced := hlast.move.spaced hkept.entering hlast.2.2 hsecond
    refine ⟨hspaced.1, fun _ => ⟨hspaced.2.1, ?_⟩⟩
    rw [hend]
    exact hspaced.2.2
  · constructor
    · have hlater : t.env.now <= second.env.now :=
        (List.pairwise_append.mp (List.pairwise_cons.mp hclock).2).2.2 t ht second
          List.mem_cons_self
      lia
    · intro hunreset
      exact absurd hunreset hreset

/-- A server that refuses every call, if told so. -/
def refusingServer (refuses : Bool) : Server Status Exc where
  beforeRead := fun _ s => s
  read := fun _ => if refuses then some (.apiException (some 500)) else none
  beforePatch := fun _ s => s
  patch := fun _ => if refuses then .raised (.apiException (some 500)) false else .ok

/-- A tick at the given minute: jobs queued, no worker processing, and healthy
worker pods.  The server refuses the status calls given. -/
def stalledAt (depth : Nat) (refused : List StoreOp) (minute : Nat) : Tick where
  env := { Env.quiet (minutes minute) with
    queueDepths := fun _ => .ok [("simulations", depth)]
    deploymentLabelSelector := fun _ _ => .ok (some "app=worker")
    listWorkerPods := fun _ _ => .ok
      [{ phase := some "Running", conditions := [⟨some "Ready", some "True"⟩] }]
    server := fun _ op => refusingServer (decide (op ∈ refused)) }
  config := {}

theorem stalledAt_leaves {part : Type} (view : Status -> part) (depth : Nat)
    (refused : List StoreOp) (minute : Nat) :
    (stalledAt depth refused minute).env.Leaves view :=
  fun _ _ _ _ => ⟨rfl, rfl⟩

/-- Restarts at minutes 10 and 31, with a gated and an open tick in between. -/
theorem stallRestarts_spaced_natural :
    2 * minutes 10 < minutes 31 - minutes 10 ∧
      minutes 10 * backoffWindows 0 < minutes 31 - minutes 10 ∧
      (runTicks runStallTick ([0, 10, 20, 21, 31].map (stalledAt 1 [])) {}).stall.ineffective
        = 1 := by
  have hsteady : EveryTick runStallTick (SteadyTick (minutes 10))
      ([10, 20, 21, 31].map (stalledAt 1 [])) (runTick runStallTick (stalledAt 1 [] 0) {}) := by
    have hreturned : EveryTick runStallTick (fun t w => (stallSummaryOf t w).failed = false)
        ([10, 20, 21, 31].map (stalledAt 1 []))
        (runTick runStallTick (stalledAt 1 [] 0) {}) := by
      decide +kernel
    apply hreturned.mono
    intro t w ht hok
    rcases List.mem_map.mp ht with ⟨minute, _, ht⟩
    refine ⟨?_, ?_, hok⟩
    · rw [← ht]
      rfl
    · rw [← ht]
      exact stalledAt_leaves _ _ _ _
  have hspaced := stallRestarts_spaced (stalledAt 1 [] 10) (stalledAt 1 [] 31)
    ([20, 21].map (stalledAt 1 [])) (runTick runStallTick (stalledAt 1 [] 0) {}) (minutes 10)
    (by decide +kernel) hsteady (by decide +kernel) (by decide +kernel) (by decide +kernel)
  have hlater := hspaced.2 (by decide +kernel)
  have hcount : (runTick runStallTick (stalledAt 1 [] 10)
      (runTick runStallTick (stalledAt 1 [] 0) {})).stall.ineffective = 0 := by
    decide +kernel
  rw [hcount] at hlater
  exact ⟨hspaced.1, hlater⟩

/-!
## The breaker count
-/

/-- The restarts since the last clean reset whose anchor was written, from `n`
such restarts before the run. -/
def anchoredSinceReset : Nat -> List Tick -> World -> Nat
  | n, [], _ => n
  | n, t :: later, w =>
      anchoredSinceReset
        (if (stallSummaryOf t w).reset then 0 else n + (stallSummaryOf t w).anchored.toNat)
        later (runTick runStallTick t w)

/-- The breaker misses at most the first of the restarts. -/
def BreakerCounts (ticks : List Tick) (w : World) : Prop :=
  (anchoredSinceReset 0 ticks w : Int) - 1 <= (runTicks runStallTick ticks w).stall.ineffective

instance decidableBreakerCounts (ticks : List Tick) (w : World) :
    Decidable (BreakerCounts ticks w) :=
  inferInstanceAs (Decidable (_ <= _))

/-- `n` restarts have been anchored since the last reset. -/
structure CountKept (n : Nat) (a : Stall) : Prop where
  nonneg : 0 <= a.ineffective
  counted : n = 0 ∨ a.lastRestart.isSome ∧ (n : Int) <= a.ineffective + 1

section Breaker

variable {n : Nat} {a b : Stall} {window : Duration} {now : Instant} {sm : StallSummary}

theorem CountKept.of_same (h : CountKept n a) (hlast : b.lastRestart = a.lastRestart)
    (hcount : b.ineffective = a.ineffective) : CountKept n b := by
  constructor
  · rw [hcount]
    exact h.nonneg
  · rw [hlast, hcount]
    exact h.counted

theorem CountKept.entering {t : Tick} {w : World} (h : CountKept n w.stall) :
    CountKept n (enteringStall t w) := by
  unfold enteringStall
  split
  · exact h.of_same rfl rfl
  · exact h

/-- A restart whose status calls all return once it has its anchor. -/
theorem Recorded.countKept (h : CountKept n a) (hrecorded : Recorded now a sm b)
    (hkept : sm.unrecorded = false) : CountKept (n + sm.anchored.toNat) b := by
  have hcount := h.nonneg
  have hbound : (n : Int) <= a.ineffective + 1 := by
    rcases h.counted with hnone | hsome
    · lia
    · exact hsome.2
  cases hrecorded with
  | unannounced => exact h
  | unspent _ _ => exact h.of_same rfl rfl
  | unanchored last hlast =>
      refine ⟨hcount, ?_⟩
      rcases h.counted with hnone | hsome
      · exact Or.inl hnone
      · right
        refine ⟨?_, hsome.2⟩
        rcases hlast with hnew | hold
        · rw [hnew]
          rfl
        · rw [hold]
          exact hsome.1
  | first hnone =>
      refine ⟨hcount, Or.inr ⟨rfl, ?_⟩⟩
      rcases h.counted with hzero | hsome
      · rw [hzero]
        show ((0 + 1 : Nat) : Int) <= a.ineffective + 1
        lia
      · rw [hnone] at hsome
        cases hsome.1
  | uncounted _ _ _ => cases hkept
  | unwarned _ =>
      constructor
      · show 0 <= a.ineffective + 1
        lia
      · right
        refine ⟨rfl, ?_⟩
        show ((n + 1 : Nat) : Int) <= a.ineffective + 1 + 1
        lia
  | counted _ =>
      constructor
      · show 0 <= a.ineffective + 1
        lia
      · right
        refine ⟨rfl, ?_⟩
        show ((n + 1 : Nat) : Int) <= a.ineffective + 1 + 1
        lia

theorem StallTick.countKept (h : CountKept n a) (hmove : StallTick window now a sm b)
    (hrecorded : sm.unrecorded = false) (hreset : sm.unreset = false) :
    CountKept (if sm.reset then 0 else n + sm.anchored.toNat) b := by
  cases hmove with
  | fired _ _ _ hrecords =>
      have hheld : CountKept n (a.held now) := h.of_same rfl rfl
      have hkept := hrecords.countKept hheld hrecorded
      cases hrecords <;> exact hkept
  | cleaned _ _ hclean =>
      cases hclean with
      | zeroLost _ _ => cases hreset
      | anchorLost _ _ => cases hreset
      | done => exact ⟨Int.le_refl 0, Or.inl rfl⟩
  | unread => exact h
  | gated _ => exact h
  | escaped _ => exact h
  | unrestored _ _ => exact h
  | _ => exact h.of_same rfl rfl

/-- A tick whose status calls return once a restart has its anchor, and in
which no write of a breaker reset raises. -/
def CountingTick (t : Tick) (w : World) : Prop :=
  t.env.Leaves Status.stallScalars ∧ (stallSummaryOf t w).unrecorded = false ∧
    (stallSummaryOf t w).unreset = false

theorem countKept_runTicks : forall (ticks : List Tick) (n : Nat) (w : World),
    CountKept n w.stall -> EveryTick runStallTick CountingTick ticks w ->
    CountKept (anchoredSinceReset n ticks w) (runTicks runStallTick ticks w).stall := by
  intro ticks
  induction ticks with
  | nil =>
      intro n w h _
      exact h
  | cons t later ih =>
      intro n w h hcounting
      have hstep := (runStallTick_move hcounting.1.1 w).countKept h.entering
        hcounting.1.2.1 hcounting.1.2.2
      exact ih _ _ hstep hcounting.2

end Breaker

/-- At every point of a run from count 0 in which no status call raises
between the anchor of a restart and the end of its tick, the breaker misses at
most the first of the restarts. -/
theorem stallBreaker_counts (ticks : List Tick) (w : World)
    (hcount : w.status.webBackgroundIneffectiveRestarts.getD 0 = 0)
    (hcounting : EveryTick runStallTick CountingTick ticks w) :
    forall earlier later, ticks = earlier ++ later -> BreakerCounts earlier w := by
  intro earlier later hsplit
  rw [hsplit] at hcounting
  have hzero : w.stall.ineffective = 0 := hcount
  have hstart : CountKept 0 w.stall := ⟨Int.le_of_eq hzero.symm, Or.inl rfl⟩
  have hkept := countKept_runTicks earlier 0 w hstart (everyTick_append.mp hcounting).1
  have hnonneg := hkept.nonneg
  unfold BreakerCounts
  rcases hkept.counted with hnone | hsome
  · rw [hnone]
    lia
  · have hbound := hsome.2
    lia

/-- Restarts at minutes 10 and 31, the anchor of the second refused, and again
at the next tick. -/
def reanchoredRun : List Tick :=
  [(0, []), (10, []), (21, []), (31, [.setLastWebBackgroundRestartAt (some (minutes 31))]),
    (32, [])].map fun at' => stalledAt 1 at'.2 at'.1

theorem stallBreaker_counts_reanchored :
    BreakerCounts reanchoredRun {} ∧ anchoredSinceReset 0 reanchoredRun {} = 2 := by
  have hkept : EveryTick runStallTick
      (fun t w => (stallSummaryOf t w).unrecorded = false ∧
        (stallSummaryOf t w).unreset = false) reanchoredRun {} := by
    decide +kernel
  have hcounting : EveryTick runStallTick CountingTick reanchoredRun {} := by
    apply hkept.mono
    intro t w ht hok
    rcases List.mem_map.mp ht with ⟨at', _, ht⟩
    refine ⟨?_, hok⟩
    rw [← ht]
    exact stalledAt_leaves _ _ _ _
  refine ⟨?_, by decide +kernel⟩
  exact stallBreaker_counts reanchoredRun {} rfl hcounting _ [] (List.append_nil _).symm

/-- Restarts at minutes 10, 31 and 42.  The count of the second is the one
status call of the run that raises. -/
def lostCountRun : List Tick :=
  [(0, []), (10, []), (21, []), (31, [.setWebBackgroundIneffectiveRestarts 1]),
    (42, [])].map fun at' => stalledAt 1 at'.2 at'.1

/-- The status calls of a history that raised, newest first. -/
def raisedStoreOps (trace : Trace) : List StoreOp :=
  trace.filterMap fun e =>
    match e.event with
    | .store op (.error _) => some op
    | _ => none

/-- The lost count is not made up for by the restart after it. -/
theorem stallBreaker_undercounts :
    raisedStoreOps (runTicks runStallTick lostCountRun {}).trace =
        [.setWebBackgroundIneffectiveRestarts 1] ∧
      anchoredSinceReset 0 lostCountRun {} = 3 ∧ ¬ BreakerCounts lostCountRun {} := by
  refine ⟨?_, ?_, ?_⟩
  · decide +kernel
  · decide +kernel
  · decide +kernel

end OpenStudioOperator
