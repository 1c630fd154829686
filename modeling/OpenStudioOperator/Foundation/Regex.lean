import Mathlib.Data.List.Basic

/-!
# Regular expressions

Expressions over classes of characters.  The words of an expression are given
by a relation; a recogniser reads a word character by character, taking the
derivative of the expression each time.
-/

namespace Foundation

inductive Regex where
  | never
  | empty
  | cls (p : Char -> Bool)
  | seq (r s : Regex)
  | alt (r s : Regex)
  | star (r : Regex)

namespace Regex

inductive Matches : Regex -> List Char -> Prop where
  | empty : Matches empty []
  | cls {p : Char -> Bool} {c : Char} : p c = true -> Matches (cls p) [c]
  | seq {r s : Regex} {u v : List Char} :
      Matches r u -> Matches s v -> Matches (seq r s) (u ++ v)
  | altLeft {r s : Regex} {w : List Char} : Matches r w -> Matches (alt r s) w
  | altRight {r s : Regex} {w : List Char} : Matches s w -> Matches (alt r s) w
  | starNil {r : Regex} : Matches (star r) []
  | starCons {r : Regex} {u v : List Char} :
      Matches r u -> Matches (star r) v -> Matches (star r) (u ++ v)

/-!
## Derived expressions
-/

/-- `r?`. -/
def opt (r : Regex) : Regex := alt r empty

/-- `r+`. -/
def plus (r : Regex) : Regex := seq r (star r)

def char (c : Char) : Regex := cls (· == c)

/-- The characters of a text in their order. -/
def lit (text : String) : Regex :=
  text.toList.foldr (fun c r => seq (char c) r) empty

/-- `r{1,n+1}`. -/
def upTo (r : Regex) : Nat -> Regex
  | 0 => r
  | n + 1 => seq r (opt (upTo r n))

/-!
## Recognition
-/

def nullable : Regex -> Bool
  | never => false
  | empty => true
  | cls _ => false
  | seq r s => r.nullable && s.nullable
  | alt r s => r.nullable || s.nullable
  | star _ => true

/-- What is left to match after the character `c`. -/
def deriv (c : Char) : Regex -> Regex
  | never => never
  | empty => never
  | cls p => if p c then empty else never
  | seq r s => if r.nullable then alt (seq (r.deriv c) s) (s.deriv c) else seq (r.deriv c) s
  | alt r s => alt (r.deriv c) (s.deriv c)
  | star r => seq (r.deriv c) (star r)

def accepts : Regex -> List Char -> Bool
  | r, [] => r.nullable
  | r, c :: w => (r.deriv c).accepts w

theorem nullable_iff (r : Regex) : r.nullable = true <-> Matches r [] := by
  induction r with
  | never =>
      constructor
      · intro h
        cases h
      · intro h
        cases h
  | empty => exact ⟨fun _ => Matches.empty, fun _ => rfl⟩
  | cls p =>
      constructor
      · intro h
        cases h
      · intro h
        cases h
  | seq r s ihr ihs =>
      rw [nullable, Bool.and_eq_true, ihr, ihs]
      constructor
      · intro h
        exact Matches.seq h.1 h.2
      · intro h
        generalize hw : ([] : List Char) = w at h
        cases h with
        | seq hu hv =>
            rcases List.append_eq_nil_iff.mp hw.symm with ⟨hunil, hvnil⟩
            rw [hunil] at hu
            rw [hvnil] at hv
            rw [hunil, hvnil]
            exact ⟨hu, hv⟩
  | alt r s ihr ihs =>
      rw [nullable, Bool.or_eq_true, ihr, ihs]
      constructor
      · intro h
        rcases h with h | h
        · exact Matches.altLeft h
        · exact Matches.altRight h
      · intro h
        cases h with
        | altLeft h => exact Or.inl h
        | altRight h => exact Or.inr h
  | star r _ => exact ⟨fun _ => Matches.starNil, fun _ => rfl⟩

/-- A word of a star that begins with `c` begins with a word of the expression
that does. -/
theorem star_cons {r : Regex} {w : List Char} (h : Matches (star r) w) :
    forall c tail, w = c :: tail ->
      exists u v, tail = u ++ v ∧ Matches r (c :: u) ∧ Matches (star r) v := by
  generalize hs : star r = s at h
  induction h with
  | starNil =>
      intro c tail hw
      cases hw
  | @starCons r' u v hu hv _ ihv =>
      cases hs
      intro c tail hw
      cases u with
      | nil => exact ihv rfl c tail hw
      | cons d u =>
          cases hw
          exact ⟨u, v, rfl, hu, hv⟩
  | _ => cases hs

theorem seq_cons {r s : Regex} {c : Char} {tail : List Char} :
    Matches (seq r s) (c :: tail) <->
      (exists u v, tail = u ++ v ∧ Matches r (c :: u) ∧ Matches s v) ∨
        (Matches r [] ∧ Matches s (c :: tail)) := by
  constructor
  · intro h
    generalize hw : c :: tail = w at h
    cases h with
    | @seq _ _ u v hu hv =>
        cases u with
        | nil =>
            exact Or.inr ⟨hu, hv⟩
        | cons d u =>
            cases hw
            exact Or.inl ⟨u, v, rfl, hu, hv⟩
  · intro h
    rcases h with ⟨u, v, htail, hu, hv⟩ | ⟨hnil, hv⟩
    · rw [htail]
      exact Matches.seq hu hv
    · exact Matches.seq hnil hv

theorem matches_deriv (r : Regex) : forall (c : Char) (w : List Char),
    Matches (r.deriv c) w <-> Matches r (c :: w) := by
  induction r with
  | never =>
      intro c w
      constructor <;> (intro h; cases h)
  | empty =>
      intro c w
      constructor <;> (intro h; cases h)
  | cls p =>
      intro c w
      unfold deriv
      by_cases hp : p c = true
      · rw [if_pos hp]
        constructor
        · intro h
          cases h
          exact Matches.cls hp
        · intro h
          cases h
          exact Matches.empty
      · rw [if_neg hp]
        constructor
        · intro h
          cases h
        · intro h
          cases h with
          | cls hc => exact absurd hc hp
  | seq r s ihr ihs =>
      intro c w
      have hleft : Matches (seq (r.deriv c) s) w <->
          exists u v, w = u ++ v ∧ Matches r (c :: u) ∧ Matches s v := by
        constructor
        · intro h
          cases h with
          | seq hu hv => exact ⟨_, _, rfl, (ihr c _).mp hu, hv⟩
        · intro h
          rcases h with ⟨u, v, hw, hu, hv⟩
          rw [hw]
          exact Matches.seq ((ihr c u).mpr hu) hv
      rw [seq_cons, deriv]
      by_cases hnull : r.nullable = true
      · rw [if_pos hnull]
        constructor
        · intro h
          cases h with
          | altLeft h => exact Or.inl (hleft.mp h)
          | altRight h => exact Or.inr ⟨(nullable_iff r).mp hnull, (ihs c w).mp h⟩
        · intro h
          rcases h with h | ⟨_, h⟩
          · exact Matches.altLeft (hleft.mpr h)
          · exact Matches.altRight ((ihs c w).mpr h)
      · rw [if_neg hnull, hleft]
        constructor
        · exact Or.inl
        · intro h
          rcases h with h | ⟨hnil, _⟩
          · exact h
          · exact absurd ((nullable_iff r).mpr hnil) hnull
  | alt r s ihr ihs =>
      intro c w
      constructor
      · intro h
        cases h with
        | altLeft h => exact Matches.altLeft ((ihr c w).mp h)
        | altRight h => exact Matches.altRight ((ihs c w).mp h)
      · intro h
        cases h with
        | altLeft h => exact Matches.altLeft ((ihr c w).mpr h)
        | altRight h => exact Matches.altRight ((ihs c w).mpr h)
  | star r ih =>
      intro c w
      constructor
      · intro h
        cases h with
        | seq hu hv => exact Matches.starCons ((ih c _).mp hu) hv
      · intro h
        rcases star_cons h c w rfl with ⟨u, v, hw, hu, hv⟩
        rw [hw]
        exact Matches.seq ((ih c u).mpr hu) hv

theorem accepts_iff : forall (w : List Char) (r : Regex),
    r.accepts w = true <-> Matches r w := by
  intro w
  induction w with
  | nil => exact nullable_iff
  | cons c w ih =>
      intro r
      rw [accepts, ih, matches_deriv]

instance decidableMatches (r : Regex) (w : List Char) : Decidable (Matches r w) :=
  decidable_of_iff (r.accepts w = true) (accepts_iff w r)

/-!
## Words of derived expressions
-/

theorem matches_seq {r s : Regex} {w : List Char} :
    Matches (seq r s) w <-> exists u v, w = u ++ v ∧ Matches r u ∧ Matches s v := by
  constructor
  · intro h
    cases h with
    | seq hu hv => exact ⟨_, _, rfl, hu, hv⟩
  · intro h
    rcases h with ⟨u, v, hw, hu, hv⟩
    rw [hw]
    exact Matches.seq hu hv

theorem matches_opt {r : Regex} {w : List Char} :
    Matches (opt r) w <-> Matches r w ∨ w = [] := by
  constructor
  · intro h
    cases h with
    | altLeft h => exact Or.inl h
    | altRight h =>
        cases h
        exact Or.inr rfl
  · intro h
    rcases h with h | h
    · exact Matches.altLeft h
    · rw [h]
      exact Matches.altRight Matches.empty

theorem matches_star_cls {p : Char -> Bool} {w : List Char}
    (h : forall c, c ∈ w -> p c = true) : Matches (star (cls p)) w := by
  induction w with
  | nil => exact Matches.starNil
  | cons c w ih =>
      rw [← List.singleton_append]
      exact Matches.starCons (Matches.cls (h c List.mem_cons_self))
        (ih fun d hd => h d (List.mem_cons_of_mem c hd))

theorem matches_lit {text : String} {w : List Char} :
    Matches (lit text) w <-> w = text.toList := by
  unfold lit
  generalize text.toList = cs
  induction cs generalizing w with
  | nil =>
      constructor
      · intro h
        cases h
        rfl
      · intro h
        rw [h]
        exact Matches.empty
  | cons c cs ih =>
      rw [List.foldr_cons, matches_seq]
      constructor
      · intro h
        rcases h with ⟨u, v, hw, hu, hv⟩
        cases hu with
        | cls hc => rw [hw, ih.mp hv, eq_of_beq hc, List.singleton_append]
      · intro h
        exact ⟨[c], cs, h, Matches.cls (beq_self_eq_true c), ih.mpr rfl⟩

/-- The characters of an expression all lie in a class. -/
def Within (p : Char -> Prop) : Regex -> Prop
  | never => True
  | empty => True
  | cls q => forall c, q c = true -> p c
  | seq r s => r.Within p ∧ s.Within p
  | alt r s => r.Within p ∧ s.Within p
  | star r => r.Within p

/-- Every character of a word lies in the class of its expression. -/
theorem Matches.within {p : Char -> Prop} {r : Regex} {w : List Char} (h : Matches r w)
    (hr : r.Within p) : forall c, c ∈ w -> p c := by
  induction h with
  | empty => exact fun c hc => absurd hc (List.not_mem_nil)
  | @cls q d hd =>
      intro c hc
      rw [List.mem_singleton.mp hc]
      exact hr d hd
  | seq _ _ ihu ihv =>
      intro c hc
      rcases List.mem_append.mp hc with hc | hc
      · exact ihu hr.1 c hc
      · exact ihv hr.2 c hc
  | altLeft _ ih => exact ih hr.1
  | altRight _ ih => exact ih hr.2
  | starNil => exact fun c hc => absurd hc (List.not_mem_nil)
  | starCons _ _ ihu ihv =>
      intro c hc
      rcases List.mem_append.mp hc with hc | hc
      · exact ihu hr c hc
      · exact ihv hr c hc

end Regex
end Foundation
