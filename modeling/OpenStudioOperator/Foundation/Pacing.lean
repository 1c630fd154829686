import Mathlib.Data.List.Pairwise
import Mathlib.Tactic.Push

/-!
# Actions behind a gate

An action leaves its time as an anchor, and a gate stays shut until more than
a gap has passed since the anchor.  What a pass through the open gate does to
the anchor is free: it may even remove it.  The actions of a run are then more
than the gap apart, so that an interval holds boundedly many.
-/

namespace Foundation

/-- Any two times of the list are more than the gap apart, in order. -/
def Spaced (gap : Int) (times : List Int) : Prop :=
  times.Pairwise fun a b => gap < b - a

namespace Spaced

variable {gap lo hi : Int}

theorem filter {times : List Int} (h : Spaced gap times) (p : Int -> Bool) :
    Spaced gap (times.filter p) :=
  List.Pairwise.filter p h

/-- An interval holds at most one time, and one more for each gap it covers. -/
theorem length_le (hgap : 0 <= gap) :
    forall {times : List Int} {lo : Int}, Spaced gap times -> lo <= hi ->
      (forall a, a ∈ times -> lo <= a ∧ a <= hi) ->
      (times.length : Int) <= (hi - lo) / (gap + 1) + 1 := by
  intro times
  induction times with
  | nil =>
      intro lo _ hle _
      have hquotient : 0 <= (hi - lo) / (gap + 1) :=
        Int.ediv_nonneg (Int.sub_nonneg.mpr hle) (by lia)
      simp only [List.length_nil]
      lia
  | cons a rest ih =>
      intro lo hspaced hle hwithin
      have ha := hwithin a List.mem_cons_self
      have hquotient : (hi - a) / (gap + 1) <= (hi - lo) / (gap + 1) :=
        Int.ediv_le_ediv (by lia) (by lia)
      rcases List.pairwise_cons.mp hspaced with ⟨hfirst, hrest⟩
      cases rest with
      | nil =>
          have hnonneg : 0 <= (hi - lo) / (gap + 1) :=
            Int.ediv_nonneg (Int.sub_nonneg.mpr hle) (by lia)
          simp only [List.length_cons, List.length_nil]
          lia
      | cons b later =>
          have hb := hfirst b List.mem_cons_self
          have hbound := hwithin b (List.mem_cons_of_mem a List.mem_cons_self)
          have hlength := @ih (a + (gap + 1)) hrest (by lia) fun c hc =>
            ⟨by have := hfirst c hc; lia, (hwithin c (List.mem_cons_of_mem a hc)).2⟩
          have hshift : (hi - (a + (gap + 1))) / (gap + 1) = (hi - a) / (gap + 1) - 1 := by
            rw [← Int.sub_sub, Int.sub_ediv_of_dvd _ (Int.dvd_refl _),
              Int.ediv_self (by lia)]
          rw [hshift] at hlength
          rw [List.length_cons]
          push_cast
          lia

end Spaced

/-!
## The gate
-/

/-- The gate is open: there is no anchor, or the gap has passed. -/
def GateOpen (gap now : Int) (anchor : Option Int) : Prop :=
  forall last, anchor = some last -> gap < now - last

/-- One pass at the time `now`: whether it acted, and the anchor it leaves. -/
inductive GatePass (gap now : Int) (a : Option Int) : Bool -> Option Int -> Prop where
  | shut : GatePass gap now a false a
  | idle (b : Option Int) : GateOpen gap now a -> GatePass gap now a false b
  | acted : GateOpen gap now a -> GatePass gap now a true (some now)

/-- A run of passes, each with its time and whether it acted; the gap of a
pass is its own, and no smaller than the given one. -/
inductive GatePasses (gap : Int) : Option Int -> List (Int × Bool) -> Option Int -> Prop where
  | nil (a : Option Int) : GatePasses gap a [] a
  | cons {gap' now : Int} {acted : Bool} {a b c : Option Int} {later : List (Int × Bool)} :
      gap <= gap' -> GatePass gap' now a acted b -> GatePasses gap b later c ->
      GatePasses gap a ((now, acted) :: later) c

/-- The times of the passes that acted. -/
def actedAt (passes : List (Int × Bool)) : List Int :=
  (passes.filter Prod.snd).map Prod.fst

section Gate

variable {gap gap' now start : Int} {a b c : Option Int} {acted : Bool}

theorem GateOpen.mono (hgap : gap <= gap') (h : GateOpen gap' now a) : GateOpen gap now a :=
  fun last hlast => Int.lt_of_le_of_lt hgap (h last hlast)

/-- The gate has been shut since `start`, or the gap has passed by `now`. -/
def Kept (gap start now : Int) (a : Option Int) : Prop :=
  (exists last, a = some last ∧ start <= last) ∨ gap < now - start

theorem Kept.later {later : Int} (h : Kept gap start now a) (hlater : now <= later) :
    Kept gap start later a := by
  rcases h with hshut | hpassed
  · exact Or.inl hshut
  · right
    lia

/-- Whoever finds the gate open finds that the gap has passed. -/
theorem Kept.passed (h : Kept gap start now a) (hopen : GateOpen gap now a) :
    gap < now - start := by
  rcases h with ⟨last, hlast, hle⟩ | hpassed
  · have hlate := hopen last hlast
    lia
  · exact hpassed

theorem GatePass.kept (hpass : GatePass gap' now a acted b) (hgap : gap <= gap')
    (h : Kept gap start now a) : Kept gap start now b := by
  cases hpass with
  | shut => exact h
  | idle b hopen => exact Or.inr (h.passed (hopen.mono hgap))
  | acted hopen => exact Or.inr (h.passed (hopen.mono hgap))

/-- Every later action lies more than the gap after an action at `start`. -/
theorem GatePasses.late {passes : List (Int × Bool)} (hrun : GatePasses gap a passes c) :
    forall {now : Int}, Kept gap start now a ->
      (passes.map Prod.fst).Pairwise (fun t t' => t <= t') ->
      (forall p, p ∈ passes -> now <= p.1) ->
      forall t, t ∈ actedAt passes -> gap < t - start := by
  induction hrun with
  | nil a =>
      intro now _ _ _ t ht
      exact absurd ht List.not_mem_nil
  | @cons gap' now' acted a b c later hgap hpass _ ih =>
      intro now hkept hclock hlater t ht
      have hnow := hkept.later (hlater _ List.mem_cons_self)
      rcases List.pairwise_cons.mp hclock with ⟨hfirst, hrest⟩
      have hafter : forall p, p ∈ later -> now' <= p.1 := fun p hp =>
        hfirst p.1 (List.mem_map.mpr ⟨p, hp, rfl⟩)
      have hold := ih (hpass.kept hgap hnow) hrest hafter t
      cases hpass with
      | shut => exact hold ht
      | idle b _ => exact hold ht
      | acted hopen =>
          rcases List.mem_cons.mp ht with hnew | hmem
          · rw [hnew]
            exact hnow.passed (hopen.mono hgap)
          · exact hold hmem

/-- The actions of a run are spaced by the gap. -/
theorem GatePasses.spaced {passes : List (Int × Bool)} (hrun : GatePasses gap a passes c)
    (hclock : (passes.map Prod.fst).Pairwise fun t t' => t <= t') :
    Spaced gap (actedAt passes) := by
  induction hrun with
  | nil a => exact List.Pairwise.nil
  | @cons gap' now acted a b c later hgap hpass hlater ih =>
      rcases List.pairwise_cons.mp hclock with ⟨hfirst, hrest⟩
      have hafter : forall p, p ∈ later -> now <= p.1 := fun p hp =>
        hfirst p.1 (List.mem_map.mpr ⟨p, hp, rfl⟩)
      cases hpass with
      | shut => exact ih hrest
      | idle b _ => exact ih hrest
      | acted _ =>
          apply List.Pairwise.cons
          · exact hlater.late (Or.inl ⟨now, rfl, Int.le_refl now⟩) hrest hafter
          · exact ih hrest

/-- In an interval a run acts at most once, and once more for each gap. -/
theorem GatePasses.rate {passes : List (Int × Bool)} {lo hi : Int}
    (hrun : GatePasses gap a passes c)
    (hgap : 0 <= gap) (hclock : (passes.map Prod.fst).Pairwise fun t t' => t <= t')
    (hle : lo <= hi) :
    (((actedAt passes).filter fun t => decide (lo <= t ∧ t <= hi)).length : Int) <=
      (hi - lo) / (gap + 1) + 1 := by
  apply Spaced.length_le hgap ((hrun.spaced hclock).filter _) hle
  intro t ht
  exact of_decide_eq_true (List.mem_filter.mp ht).2

end Gate

end Foundation
