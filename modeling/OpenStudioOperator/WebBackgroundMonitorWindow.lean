import Mathlib.Data.List.Induction
import OpenStudioOperator.WebBackgroundMonitorSpacing

/-!
# Continuity of the stall window

A window that is open, in the tracker or in the checkpoint, began on a tick
since which every tick found the condition holding.  A tick that does not look
keeps a window that is open, and one that sees the condition broken keeps the
checkpoint if it cannot clear it: these are the ticks that stitch.
-/

namespace OpenStudioOperator

open Foundation

/-- The tick sensed the condition and found it holding. -/
def SensedHolding (t : Tick) (w : World) : Prop :=
  (stallSummaryOf t w).sensed = some true

/-- Neither the tracker nor the checkpoint has a window. -/
def Stall.Closed (a : Stall) : Prop :=
  a.tracker.firstObserved = none ∧ a.windowStartedAt = none

/-- The tick returns before it evaluates the condition, or its reads raise
something that does not count as blind. -/
def LooksAway (t : Tick) (w : World) : Prop :=
  gateClosed t.env.now (stallWindowOf t.config) (enteringStall t w).lastRestart = true ∨
    (stallSummaryOf t w).gateUnread = true ∨ (stallSummaryOf t w).escaped = true

instance decidableLooksAway (t : Tick) (w : World) : Decidable (LooksAway t w) :=
  inferInstanceAs (Decidable (_ ∨ _ ∨ _))

/-- The tick cannot stitch a window: one that looks away finds no open window,
and one that is blind or finds the condition broken finds no checkpoint or
clears it. -/
structure CannotStitch (t : Tick) (w : World) : Prop where
  leaves : t.env.Leaves Status.stallScalars
  away : LooksAway t w -> (enteringStall t w).Closed
  cleared : (stallSummaryOf t w).unclosed = true -> ¬ SensedHolding t w ->
    (enteringStall t w).windowStartedAt = none

/-- After `ticks`, a tick that ran at `s` opened a stretch of ticks, up to the
last, that all found the condition holding. -/
def HoldingSince (w0 : World) (ticks : List Tick) (s : Instant) : Prop :=
  exists earlier t later, ticks = earlier ++ t :: later ∧ t.env.now = s ∧
    EveryTick runStallTick SensedHolding (t :: later) (runTicks runStallTick earlier w0)

section Window

variable {w0 : World} {ticks : List Tick} {t : Tick} {s : Instant}

theorem HoldingSince.begin (h : SensedHolding t (runTicks runStallTick ticks w0)) :
    HoldingSince w0 (ticks ++ [t]) t.env.now :=
  ⟨ticks, t, [], rfl, rfl, h, trivial⟩

theorem HoldingSince.extend (h : HoldingSince w0 ticks s)
    (ht : SensedHolding t (runTicks runStallTick ticks w0)) :
    HoldingSince w0 (ticks ++ [t]) s := by
  rcases h with ⟨earlier, first, later, hsplit, htime, hheld⟩
  refine ⟨earlier, first, later ++ [t], ?_, htime, ?_⟩
  · rw [hsplit, List.append_assoc, List.cons_append]
  · rw [← List.cons_append, everyTick_append]
    refine ⟨hheld, ?_, trivial⟩
    rw [← runTicks_append, ← hsplit]
    exact ht

/-- Every open window is one that held. -/
structure WindowsHeld (w0 : World) (ticks : List Tick) (a : Stall) : Prop where
  observed : forall s, a.tracker.firstObserved = some s -> HoldingSince w0 ticks s
  persisted : forall s, a.windowStartedAt = some s -> HoldingSince w0 ticks s

variable {a b : Stall}

theorem WindowsHeld.entering {w : World} (h : WindowsHeld w0 ticks w.stall) :
    WindowsHeld w0 ticks (enteringStall t w) := by
  unfold enteringStall
  split
  · constructor
    · intro s hs
      cases hs
    · exact h.persisted
  · exact h

theorem WindowsHeld.of_closed (h : a.Closed) : WindowsHeld w0 ticks a := by
  constructor
  · intro s hs
    rw [h.1] at hs
    cases hs
  · intro s hs
    rw [h.2] at hs
    cases hs

theorem WindowsHeld.extend (h : WindowsHeld w0 ticks a)
    (ht : SensedHolding t (runTicks runStallTick ticks w0)) :
    WindowsHeld w0 (ticks ++ [t]) a where
  observed := fun s hs => (h.observed s hs).extend ht
  persisted := fun s hs => (h.persisted s hs).extend ht

/-- The window of a tick that finds the condition holding. -/
theorem WindowsHeld.began (h : WindowsHeld w0 ticks a)
    (ht : SensedHolding t (runTicks runStallTick ticks w0)) :
    HoldingSince w0 (ticks ++ [t]) (a.began t.env.now) := by
  unfold Stall.began
  cases hobserved : a.tracker.firstObserved with
  | some s => exact (h.observed s hobserved).extend ht
  | none =>
      cases hpersisted : a.windowStartedAt with
      | some s => exact (h.persisted s hpersisted).extend ht
      | none => exact HoldingSince.begin ht

theorem WindowsHeld.held (h : WindowsHeld w0 ticks a)
    (ht : SensedHolding t (runTicks runStallTick ticks w0)) :
    WindowsHeld w0 (ticks ++ [t]) (a.held t.env.now) := by
  constructor
  · intro s hs
    rw [← Option.some.inj hs]
    exact h.began ht
  · intro s hs
    unfold Stall.held at hs
    simp only at hs
    split at hs
    · rw [← Option.some.inj hs]
      exact h.began ht
    · exact (h.persisted s hs).extend ht

/-- Closing a window, or keeping it, opens none. -/
theorem WindowsHeld.narrow (h : WindowsHeld w0 ticks a)
    (hobserved : b.tracker.firstObserved = none ∨
      b.tracker.firstObserved = a.tracker.firstObserved)
    (hpersisted : b.windowStartedAt = none ∨ b.windowStartedAt = a.windowStartedAt) :
    WindowsHeld w0 ticks b := by
  constructor
  · intro s hs
    rcases hobserved with hnone | hsame
    · rw [hnone] at hs
      cases hs
    · exact h.observed s (hsame.symm.trans hs)
  · intro s hs
    rcases hpersisted with hnone | hsame
    · rw [hnone] at hs
      cases hs
    · exact h.persisted s (hsame.symm.trans hs)

variable {window : Duration} {sm : StallSummary}

theorem Recorded.windowsHeld {now : Instant} (h : WindowsHeld w0 ticks a)
    (hrecorded : Recorded now a sm b) : WindowsHeld w0 ticks b := by
  cases hrecorded with
  | unannounced => exact h
  | unspent began hbegan => exact h.narrow (Or.inr rfl) hbegan
  | unanchored _ _ => exact h.narrow (Or.inr rfl) (Or.inl rfl)
  | first _ => exact h.narrow (Or.inl rfl) (Or.inl rfl)
  | uncounted _ _ _ => exact h.narrow (Or.inr rfl) (Or.inl rfl)
  | unwarned _ => exact h.narrow (Or.inr rfl) (Or.inl rfl)
  | counted _ => exact h.narrow (Or.inl rfl) (Or.inl rfl)

/-- A move that cannot stitch leaves only windows that held. -/
theorem StallTick.windowsHeld (h : WindowsHeld w0 ticks a)
    (hmove : StallTick window t.env.now a sm b)
    (hholding : sm.sensed = some true ->
      SensedHolding t (runTicks runStallTick ticks w0))
    (haway : gateClosed t.env.now window a.lastRestart = true ∨ sm.gateUnread = true ∨
      sm.escaped = true -> a.Closed)
    (hcleared : sm.unclosed = true -> sm.sensed ≠ some true -> a.windowStartedAt = none) :
    WindowsHeld w0 (ticks ++ [t]) b := by
  cases hmove with
  | unread => exact WindowsHeld.of_closed (haway (Or.inr (Or.inl rfl)))
  | gated hclosed => exact WindowsHeld.of_closed (haway (Or.inl hclosed))
  | escaped _ => exact WindowsHeld.of_closed (haway (Or.inr (Or.inr rfl)))
  | blind _ => exact WindowsHeld.of_closed ⟨rfl, rfl⟩
  | blindUnclosed began _ hbegan =>
      have hnone := hcleared rfl (fun hsensed => by cases hsensed)
      rw [hnone] at hbegan
      exact WindowsHeld.of_closed ⟨rfl, hbegan.elim id id⟩
  | unrestored _ _ => exact h.extend (hholding rfl)
  | unpersisted began _ _ hbegan =>
      have ht := hholding rfl
      constructor
      · exact (h.held ht).observed
      · intro s hs
        have hs' : began = some s := hs
        rcases hbegan with hnew | hold
        · rw [← Option.some.inj (hnew.symm.trans hs')]
          exact h.began ht
        · exact (h.persisted s (hold.symm.trans hs')).extend ht
  | held _ => exact h.held (hholding rfl)
  | heldUnread _ => exact h.held (hholding rfl)
  | fired _ _ _ hrecorded =>
      have hsensed : sm.sensed = some true := by cases hrecorded <;> rfl
      exact hrecorded.windowsHeld (h.held (hholding hsensed))
  | unclosed began _ hbegan =>
      have hnone := hcleared rfl (fun hsensed => by cases hsensed)
      rw [hnone] at hbegan
      exact WindowsHeld.of_closed ⟨rfl, hbegan.elim id id⟩
  | broken _ => exact WindowsHeld.of_closed ⟨rfl, rfl⟩
  | brokenUnread _ => exact WindowsHeld.of_closed ⟨rfl, rfl⟩
  | cleaned _ _ hclean =>
      cases hclean with
      | zeroLost _ _ => exact WindowsHeld.of_closed ⟨rfl, rfl⟩
      | anchorLost _ _ => exact WindowsHeld.of_closed ⟨rfl, rfl⟩
      | done => exact WindowsHeld.of_closed ⟨rfl, rfl⟩

/-- A restart needs a window that is sustained on a tick that saw it hold. -/
theorem StallTick.sustained {now : Instant} (hmove : StallTick window now a sm b)
    (hfired : sm.fired = true) :
    window <= now - a.began now ∧ sm.sensed = some true := by
  cases hmove with
  | fired _ hsustained _ hrecorded =>
      refine ⟨hsustained, ?_⟩
      cases hrecorded <;> rfl
  | cleaned _ _ hclean => cases hclean <;> cases hfired
  | _ => cases hfired

theorem windowsHeld_runTicks (hclosed : w0.stall.Closed) :
    forall ticks : List Tick, EveryTick runStallTick CannotStitch ticks w0 ->
      WindowsHeld w0 ticks (runTicks runStallTick ticks w0).stall := by
  intro ticks
  induction ticks using List.reverseRecOn with
  | nil =>
      intro _
      exact WindowsHeld.of_closed hclosed
  | append_singleton earlier t ih =>
      intro hrun
      rcases everyTick_append.mp hrun with ⟨hearlier, hlast, _⟩
      rw [runTicks_append]
      have hmove := runStallTick_move hlast.leaves (runTicks runStallTick earlier w0)
      exact hmove.windowsHeld (ih hearlier).entering (fun hsensed => hsensed) hlast.away
        hlast.cleared

end Window

/-- In every run in which no tick stitches a window, from no open window, a
restart comes after a full window of ticks that all found the condition
holding.  If no two ticks share a time, these are all the ticks of the run
between the two times. -/
theorem stallWindow_continuous (ticks : List Tick) (w0 : World)
    (hclosed : w0.stall.Closed) (hrun : EveryTick runStallTick CannotStitch ticks w0) :
    forall earlier t later, ticks = earlier ++ t :: later ->
      (stallSummaryOf t (runTicks runStallTick earlier w0)).fired = true ->
      exists before first between, earlier ++ [t] = before ++ first :: between ∧
        stallWindowOf t.config <= t.env.now - first.env.now ∧
        EveryTick runStallTick SensedHolding (first :: between)
          (runTicks runStallTick before w0) ∧
        (ticks.Pairwise (fun x y => x.env.now < y.env.now) ->
          EveryTick runStallTick (fun x w => first.env.now <= x.env.now ->
            x.env.now <= t.env.now -> SensedHolding x w) ticks w0) := by
  intro earlier t later hsplit hfired
  rw [hsplit] at hrun
  rcases everyTick_append.mp hrun with ⟨hearlier, hlast, _⟩
  have hmove := runStallTick_move hlast.leaves (runTicks runStallTick earlier w0)
  have hsustained := hmove.sustained hfired
  have hheld := (windowsHeld_runTicks hclosed earlier hearlier).entering (t := t)
  rcases hheld.began hsustained.2 with ⟨before, first, between, heq, htime, hholding⟩
  refine ⟨before, first, between, heq, ?_, hholding, ?_⟩
  · rw [htime]
    exact hsustained.1
  intro hstrict
  have hlater : forall x, x ∈ later -> t.env.now < x.env.now := by
    rw [hsplit] at hstrict
    exact (List.pairwise_cons.mp (List.pairwise_append.mp hstrict).2.1).1
  have hticks : ticks = before ++ first :: (between ++ later) := by
    rw [← List.cons_append, ← List.append_assoc, ← heq, hsplit, List.append_assoc,
      List.singleton_append]
  have hbefore : forall x, x ∈ before -> x.env.now < first.env.now := by
    rw [hticks] at hstrict
    intro x hx
    exact (List.pairwise_append.mp hstrict).2.2 x hx first List.mem_cons_self
  rw [hticks, ← List.cons_append, everyTick_append, everyTick_append]
  refine ⟨?_, ?_, ?_⟩
  · apply EveryTick.of_forall
    intro x w hx hafter _
    exact absurd hafter (Int.not_le.mpr (hbefore x hx))
  · apply hholding.mono
    intro x w _ hx _ _
    exact hx
  · apply EveryTick.of_forall
    intro x w hx _ huntil
    exact absurd huntil (Int.not_le.mpr (hlater x hx))

/-- A stall of twelve minutes across a restart of the operator. -/
def bouncedRun : List Tick :=
  [(0, false), (6, true), (12, false)].map fun at' =>
    { stalledAt 1 [] at'.1 with
      env := { (stalledAt 1 [] at'.1).env with freshCaches := at'.2 } }

theorem stallWindow_continuous_bounced :
    exists before first between, bouncedRun = before ++ first :: between ∧
      minutes 10 <= minutes 12 - first.env.now ∧
      EveryTick runStallTick SensedHolding (first :: between)
        (runTicks runStallTick before {}) := by
  have hlooks : EveryTick runStallTick
      (fun t w => ¬ LooksAway t w ∧ (stallSummaryOf t w).unclosed = false) bouncedRun {} := by
    decide +kernel
  have hrun : EveryTick runStallTick CannotStitch bouncedRun {} := by
    apply hlooks.mono
    intro t w ht hok
    rcases List.mem_map.mp ht with ⟨at', _, ht⟩
    constructor
    · rw [← ht]
      exact fun _ _ _ _ => ⟨rfl, rfl⟩
    · intro haway
      exact absurd haway hok.1
    · intro hunclosed _
      rw [hok.2] at hunclosed
      cases hunclosed
  have hlast := stallWindow_continuous bouncedRun {} ⟨rfl, rfl⟩ hrun (bouncedRun.take 2) _ []
    rfl (by decide +kernel)
  rcases hlast with ⟨before, first, between, hsplit, hwindow, hheld, _⟩
  exact ⟨before, first, between, hsplit, hwindow, hheld⟩

/-- The condition holds on one tick, is seen broken on the next, which cannot
clear the checkpoint, and holds on a third. -/
def stitchedRun : List Tick :=
  [stalledAt 1 [] 0, stalledAt 0 [.setStallWindowStartedAt none] 5, stalledAt 1 [] 10]

/-- The third tick restarts web_background, but the second saw it working. -/
theorem stallWindow_stitched :
    (stallSummaryOf (stalledAt 1 [] 10)
        (runTicks runStallTick (stitchedRun.take 2) {})).fired = true ∧
      ¬ exists before first between, stitchedRun = before ++ first :: between ∧
        minutes 10 <= minutes 10 - first.env.now ∧
        EveryTick runStallTick SensedHolding (first :: between)
          (runTicks runStallTick before {}) := by
  have hbroken : ¬ SensedHolding (stalledAt 0 [.setStallWindowStartedAt none] 5)
      (runTick runStallTick (stalledAt 1 [] 0) {}) := by
    unfold SensedHolding
    decide +kernel
  refine ⟨by decide +kernel, ?_⟩
  intro hexists
  rcases hexists with ⟨before, first, between, hsplit, hwindow, hheld⟩
  unfold stitchedRun at hsplit
  cases before with
  | nil =>
      cases hsplit
      exact hbroken hheld.2.1
  | cons opened before =>
      -- the tick that opens the stretch is the second or the third: too late
      have hfirst : first ∈ [stalledAt 0 [.setStallWindowStartedAt none] 5,
          stalledAt 1 [] 10] := by
        rw [List.cons_append, List.cons.injEq] at hsplit
        rw [hsplit.2]
        exact List.mem_append_right _ List.mem_cons_self
      rcases List.mem_cons.mp hfirst with hsecond | hlast
      · rw [hsecond] at hwindow
        exact absurd hwindow (by decide)
      · rw [List.mem_singleton.mp hlast] at hwindow
        exact absurd hwindow (by decide)

end OpenStudioOperator
