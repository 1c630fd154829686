import OpenStudioOperator.Foundation.SortOn
import OpenStudioOperator.SelectorGrammar
import Mathlib.Data.Prod.Lex

/-!
# The selector text of a Deployment

`deployment_label_selector` writes the selector of a Deployment as a text.  An
operator that the text cannot express makes it start over with the labels.
-/

namespace OpenStudioOperator
namespace DeploymentSelector

open Foundation
open SlaEviction
open SelectorGrammar

/-!
## The function
-/

/-- An item of `matchExpressions`; an absent key or operator is empty. -/
structure MatchExpression where
  key : String
  operator : String
  values : List String := []
deriving DecidableEq, Repr

/-- `spec.selector`. -/
structure Selector where
  matchLabels : Labels := []
  matchExpressions : List MatchExpression := []
deriving DecidableEq, Repr

/-- The terms of `sorted(match_labels.items())`. -/
def labelTerms (matchLabels : Labels) : List String :=
  (sortOn toLex matchLabels).map fun label => label.1 ++ "=" ++ label.2

/-- The loop over the expressions, with the terms so far. -/
def expressionTerms (matchLabels : Labels) (terms : List String) :
    List MatchExpression -> List String
  | [] => terms
  | expr :: rest =>
      if expr.key = "" ∨ expr.operator = "" then expressionTerms matchLabels terms rest
      else if expr.operator = "In" then
        expressionTerms matchLabels
          (terms ++ [expr.key ++ " in (" ++ String.intercalate "," expr.values ++ ")"]) rest
      else if expr.operator = "NotIn" then
        expressionTerms matchLabels
          (terms ++ [expr.key ++ " notin (" ++ String.intercalate "," expr.values ++ ")"]) rest
      else if expr.operator = "Exists" then
        expressionTerms matchLabels (terms ++ [expr.key]) rest
      else if expr.operator = "DoesNotExist" then
        expressionTerms matchLabels (terms ++ ["!" ++ expr.key]) rest
      else labelTerms matchLabels

/-- `deployment_label_selector`, of the selector that was read. -/
def deploymentLabelSelector (selector : Selector) : Option String :=
  let terms := expressionTerms selector.matchLabels (labelTerms selector.matchLabels)
    selector.matchExpressions
  if terms.isEmpty then none else some (String.intercalate "," terms)

/-!
## What a selector means
-/

/-- The requirement of an expression with one of the four operators. -/
def MatchExpression.requirement (expr : MatchExpression) : Option SelectorRequirement :=
  if expr.operator = "In" then some ⟨expr.key, .isIn expr.values⟩
  else if expr.operator = "NotIn" then some ⟨expr.key, .notIn expr.values⟩
  else if expr.operator = "Exists" then some ⟨expr.key, .present⟩
  else if expr.operator = "DoesNotExist" then some ⟨expr.key, .absent⟩
  else none

section Meaning

-- what expressions with other operators mean
variable (other : MatchExpression -> Labels -> Bool)

def MatchExpression.accepts (expr : MatchExpression) (labels : Labels) : Bool :=
  match expr.requirement with
  | some requirement => requirement.accepts labels
  | none => other expr labels

def Selector.carried (selector : Selector) (labels : Labels) : Bool :=
  selector.matchLabels.all fun label => labels.lookup label.1 = some label.2

def Selector.accepts (selector : Selector) (labels : Labels) : Bool :=
  selector.carried labels &&
    selector.matchExpressions.all fun expr => expr.accepts other labels

/-- Keys and values are words of the grammar, and a set of values is not empty. -/
structure WellFormed (selector : Selector) : Prop where
  labels : forall label, label ∈ selector.matchLabels ->
    PlainText label.1 ∧ label.1 ≠ "" ∧ PlainText label.2
  keys : forall expr, expr ∈ selector.matchExpressions ->
    PlainText expr.key ∧ expr.key ≠ ""
  values : forall expr, expr ∈ selector.matchExpressions ->
    forall v, v ∈ expr.values -> PlainText v
  sets : forall expr, expr ∈ selector.matchExpressions ->
    expr.operator = "In" ∨ expr.operator = "NotIn" -> expr.values ≠ []

/-- The text selects no pod that the selector does not, and the same pods when
every expression uses one of the four operators. -/
structure Translates (selector : Selector) (text : String) : Prop where
  narrower : forall labels, selects text labels = true -> selector.accepts other labels = true
  equal : (forall expr, expr ∈ selector.matchExpressions -> expr.requirement.isSome = true) ->
    forall labels, selector.accepts other labels = true -> selects text labels = true

/-!
## The condition
-/

/-- Some expression has an operator that is none of the four. -/
def HasOther (selector : Selector) : Prop :=
  exists expr, expr ∈ selector.matchExpressions ∧ expr.operator ≠ "" ∧ expr.requirement = none

/-- The expressions that the text leaves out follow from what it keeps: all of
them from the labels, if some operator is none of the four; else those that
have no operator from the labels and the other expressions. -/
def Implied (selector : Selector) : Prop :=
  forall labels, selector.carried labels = true ->
    (HasOther selector ∨ forall expr, expr ∈ selector.matchExpressions ->
      expr.requirement.isSome = true -> expr.accepts other labels = true) ->
    forall expr, expr ∈ selector.matchExpressions -> expr.accepts other labels = true

end Meaning

/-!
## What the text says
-/

def labelRequirement (label : String × String) : SelectorRequirement :=
  ⟨label.1, .isIn [label.2]⟩

section Terms

variable {matchLabels : Labels} {exprs : List MatchExpression}

theorem written_labelTerms (h : forall label, label ∈ matchLabels ->
      PlainText label.1 ∧ label.1 ≠ "" ∧ PlainText label.2) :
    List.Forall₂ Written (labelTerms matchLabels)
      ((sortOn toLex matchLabels).map labelRequirement) := by
  unfold labelTerms
  rw [List.forall₂_map_left_iff, List.forall₂_map_right_iff, List.forall₂_same]
  intro label hlabel
  rcases h label ((sortOn_perm toLex matchLabels).mem_iff.mp hlabel) with ⟨hkey, hne, hvalue⟩
  exact .equation hkey hne hvalue

/-- One step of the loop, for an expression that has a requirement. -/
theorem expressionTerms_cons {expr : MatchExpression} {requirement : SelectorRequirement}
    (hkey : PlainText expr.key ∧ expr.key ≠ "")
    (hvalues : forall v, v ∈ expr.values -> PlainText v)
    (hset : expr.operator = "In" ∨ expr.operator = "NotIn" -> expr.values ≠ [])
    (h : expr.requirement = some requirement) (terms : List String)
    (rest : List MatchExpression) :
    exists term, Written term requirement ∧
      expressionTerms matchLabels terms (expr :: rest) =
        expressionTerms matchLabels (terms ++ [term]) rest := by
  unfold MatchExpression.requirement at h
  rw [expressionTerms]
  by_cases hin : expr.operator = "In"
  · rw [if_pos hin] at h
    rw [← Option.some.inj h, if_neg (by simp [hkey.2, hin]), if_pos hin]
    exact ⟨_, .isIn hkey.1 hkey.2 (hset (Or.inl hin)) hvalues, rfl⟩
  rw [if_neg hin] at h
  by_cases hnotIn : expr.operator = "NotIn"
  · rw [if_pos hnotIn] at h
    rw [← Option.some.inj h, if_neg (by simp [hkey.2, hnotIn]), if_neg hin, if_pos hnotIn]
    exact ⟨_, .notIn hkey.1 hkey.2 (hset (Or.inr hnotIn)) hvalues, rfl⟩
  rw [if_neg hnotIn] at h
  by_cases hexists : expr.operator = "Exists"
  · rw [if_pos hexists] at h
    rw [← Option.some.inj h, if_neg (by simp [hkey.2, hexists]), if_neg hin, if_neg hnotIn,
      if_pos hexists]
    exact ⟨_, .present hkey.1 hkey.2, rfl⟩
  rw [if_neg hexists] at h
  by_cases habsent : expr.operator = "DoesNotExist"
  · rw [if_pos habsent] at h
    rw [← Option.some.inj h, if_neg (by simp [hkey.2, habsent]), if_neg hin, if_neg hnotIn,
      if_neg hexists, if_pos habsent]
    exact ⟨_, .absent hkey.1 hkey.2, rfl⟩
  · rw [if_neg habsent] at h
    cases h

/-- One step of the loop, for an expression that has none. -/
theorem expressionTerms_other {expr : MatchExpression} (hne : expr.key ≠ "")
    (h : expr.requirement = none) (terms : List String) (rest : List MatchExpression) :
    expressionTerms matchLabels terms (expr :: rest) =
      if expr.operator = "" then expressionTerms matchLabels terms rest
      else labelTerms matchLabels := by
  have hnone : expr.operator ≠ "In" ∧ expr.operator ≠ "NotIn" ∧ expr.operator ≠ "Exists" ∧
      expr.operator ≠ "DoesNotExist" := by
    unfold MatchExpression.requirement at h
    refine ⟨?_, ?_, ?_, ?_⟩ <;> intro hop <;> simp [hop] at h
  rw [expressionTerms]
  by_cases hop : expr.operator = ""
  · rw [if_pos (Or.inr hop), if_pos hop]
  · rw [if_neg (by simp [hne, hop]), if_neg hnone.1, if_neg hnone.2.1, if_neg hnone.2.2.1,
      if_neg hnone.2.2.2, if_neg hop]

/-- The loop, when no expression makes it start over. -/
theorem written_expressionTerms
    (hkeys : forall expr, expr ∈ exprs -> PlainText expr.key ∧ expr.key ≠ "")
    (hvalues : forall expr, expr ∈ exprs -> forall v, v ∈ expr.values -> PlainText v)
    (hsets : forall expr, expr ∈ exprs ->
      expr.operator = "In" ∨ expr.operator = "NotIn" -> expr.values ≠ [])
    (hnone : forall expr, expr ∈ exprs -> expr.requirement = none -> expr.operator = "")
    {terms : List String} {requirements : List SelectorRequirement}
    (hterms : List.Forall₂ Written terms requirements) :
    List.Forall₂ Written (expressionTerms matchLabels terms exprs)
      (requirements ++ exprs.filterMap MatchExpression.requirement) := by
  induction exprs generalizing terms requirements with
  | nil =>
      rw [List.filterMap_nil, List.append_nil]
      exact hterms
  | cons expr rest ih =>
      have hrest {terms : List String} {requirements : List SelectorRequirement} :=
        @ih (fun e he => hkeys e (List.mem_cons_of_mem expr he))
          (fun e he => hvalues e (List.mem_cons_of_mem expr he))
          (fun e he => hsets e (List.mem_cons_of_mem expr he))
          (fun e he => hnone e (List.mem_cons_of_mem expr he)) terms requirements
      cases hreq : expr.requirement with
      | none =>
          rw [expressionTerms_other (hkeys expr List.mem_cons_self).2 hreq,
            if_pos (hnone expr List.mem_cons_self hreq), List.filterMap_cons_none hreq]
          exact hrest hterms
      | some requirement =>
          rcases @expressionTerms_cons matchLabels _ _
            (hkeys expr List.mem_cons_self) (hvalues expr List.mem_cons_self)
            (hsets expr List.mem_cons_self) hreq terms rest with ⟨term, hwritten, hstep⟩
          have hnext : List.Forall₂ Written (terms ++ [term]) (requirements ++ [requirement]) :=
            List.rel_append hterms (.cons hwritten .nil)
          rw [hstep, List.filterMap_cons_some hreq, List.append_cons requirements]
          exact hrest hnext

/-- The loop, when some expression makes it start over. -/
theorem expressionTerms_of_other
    (hkeys : forall expr, expr ∈ exprs -> PlainText expr.key ∧ expr.key ≠ "")
    (hvalues : forall expr, expr ∈ exprs -> forall v, v ∈ expr.values -> PlainText v)
    (hsets : forall expr, expr ∈ exprs ->
      expr.operator = "In" ∨ expr.operator = "NotIn" -> expr.values ≠ [])
    (hother : exists expr, expr ∈ exprs ∧ expr.operator ≠ "" ∧ expr.requirement = none)
    (terms : List String) :
    expressionTerms matchLabels terms exprs = labelTerms matchLabels := by
  induction exprs generalizing terms with
  | nil =>
      rcases hother with ⟨expr, hexpr, -⟩
      cases hexpr
  | cons expr rest ih =>
      have hrest (hother' : exists e, e ∈ rest ∧ e.operator ≠ "" ∧ e.requirement = none) :=
        ih (fun e he => hkeys e (List.mem_cons_of_mem expr he))
          (fun e he => hvalues e (List.mem_cons_of_mem expr he))
          (fun e he => hsets e (List.mem_cons_of_mem expr he)) hother'
      rcases hother with ⟨found, hfound, hop, hnone⟩
      cases hreq : expr.requirement with
      | some requirement =>
          rcases @expressionTerms_cons matchLabels _ _
            (hkeys expr List.mem_cons_self) (hvalues expr List.mem_cons_self)
            (hsets expr List.mem_cons_self) hreq terms rest with ⟨term, -, hstep⟩
          rw [hstep]
          rcases List.mem_cons.mp hfound with heq | hin
          · rw [heq, hreq] at hnone
            cases hnone
          · exact hrest ⟨found, hin, hop, hnone⟩ _
      | none =>
          rw [expressionTerms_other (hkeys expr List.mem_cons_self).2 hreq]
          by_cases hempty : expr.operator = ""
          · rw [if_pos hempty]
            rcases List.mem_cons.mp hfound with heq | hin
            · rw [heq] at hop
              exact absurd hempty hop
            · exact hrest ⟨found, hin, hop, hnone⟩ _
          · rw [if_neg hempty]

end Terms

section Selection

variable {selector : Selector} {text : String}

theorem all_labelRequirement (labels : Labels) :
    ((sortOn toLex selector.matchLabels).map labelRequirement).all
        (fun requirement => requirement.accepts labels) = selector.carried labels := by
  unfold Selector.carried
  rw [List.all_map, Bool.eq_iff_iff, List.all_eq_true, List.all_eq_true]
  have haccepts (label : String × String) :
      (labelRequirement label).accepts labels = true <->
        labels.lookup label.1 = some label.2 := by
    unfold labelRequirement SelectorRequirement.accepts
    cases labels.lookup label.1 with
    | none => simp
    | some value => simp
  simp only [Function.comp_apply, haccepts, decide_eq_true_eq,
    (sortOn_perm toLex selector.matchLabels).mem_iff]

/-- What the text selects. -/
theorem selects_iff (h : WellFormed selector)
    (htext : deploymentLabelSelector selector = some text)
    (other : MatchExpression -> Labels -> Bool) (labels : Labels) :
    selects text labels = true <->
      selector.carried labels = true ∧
        (HasOther selector ∨ forall expr, expr ∈ selector.matchExpressions ->
          expr.requirement.isSome = true -> expr.accepts other labels = true) := by
  unfold deploymentLabelSelector at htext
  have hlabels := written_labelTerms h.labels
  have hselects {requirements : List SelectorRequirement}
      (hwritten : List.Forall₂ Written (expressionTerms selector.matchLabels
        (labelTerms selector.matchLabels) selector.matchExpressions) requirements) :
      selects text labels = requirements.all fun requirement => requirement.accepts labels := by
    simp only at htext
    split at htext
    · cases htext
    · rename_i hne
      have hparsed := parseSelector_intercalate hwritten
        fun hnil => hne (List.isEmpty_iff.mpr hnil)
      rw [Option.some.inj htext] at hparsed
      unfold selects
      rw [hparsed]
  by_cases hother : HasOther selector
  · rw [← expressionTerms_of_other h.keys h.values h.sets hother
      (labelTerms selector.matchLabels)] at hlabels
    rw [hselects hlabels, all_labelRequirement]
    exact (and_iff_left (Or.inl hother)).symm
  · have hnone : forall expr, expr ∈ selector.matchExpressions -> expr.requirement = none ->
        expr.operator = "" := by
      intro expr hexpr hreq
      by_contra hop
      exact hother ⟨expr, hexpr, hop, hreq⟩
    have hwritten := @written_expressionTerms selector.matchLabels _ h.keys
      h.values h.sets hnone _ _ hlabels
    rw [hselects hwritten, List.all_append, all_labelRequirement, Bool.and_eq_true,
      or_iff_right hother, List.all_eq_true]
    refine and_congr_right fun _ => ?_
    constructor
    · intro hall expr hexpr hsome
      rcases Option.isSome_iff_exists.mp hsome with ⟨requirement, hreq⟩
      unfold MatchExpression.accepts
      rw [hreq]
      exact hall requirement (List.mem_filterMap.mpr ⟨expr, hexpr, hreq⟩)
    · intro hall requirement hrequirement
      rcases List.mem_filterMap.mp hrequirement with ⟨expr, hexpr, hreq⟩
      have haccepts := hall expr hexpr (by rw [hreq]; rfl)
      unfold MatchExpression.accepts at haccepts
      rw [hreq] at haccepts
      exact haccepts

end Selection

/-- The text translates the selector exactly when what it leaves out follows
from what it keeps. -/
theorem deployment_label_selector_iff (other : MatchExpression -> Labels -> Bool)
    (selector : Selector) (h : WellFormed selector) (text : String)
    (htext : deploymentLabelSelector selector = some text) :
    Translates other selector text <-> Implied other selector := by
  have haccepts (labels : Labels) : selector.accepts other labels = true <->
      selector.carried labels = true ∧ forall expr, expr ∈ selector.matchExpressions ->
        expr.accepts other labels = true := by
    unfold Selector.accepts
    rw [Bool.and_eq_true, List.all_eq_true]
  constructor
  · intro htranslates labels hcarried hkept
    exact ((haccepts labels).mp (htranslates.narrower labels
      ((selects_iff h htext other labels).mpr ⟨hcarried, hkept⟩))).2
  · intro himplied
    constructor
    · intro labels hselects
      rcases (selects_iff h htext other labels).mp hselects with ⟨hcarried, hkept⟩
      exact (haccepts labels).mpr ⟨hcarried, himplied labels hcarried hkept⟩
    · intro _ labels hlabels
      rcases (haccepts labels).mp hlabels with ⟨hcarried, hall⟩
      exact (selects_iff h htext other labels).mpr
        ⟨hcarried, Or.inr fun expr hexpr _ => hall expr hexpr⟩

/-!
### Two selectors
-/

/-- The four operators. -/
def fourOperators : Selector where
  matchLabels := [("app", "worker")]
  matchExpressions := [⟨"tier", "In", ["a", "b"]⟩, ⟨"zone", "NotIn", ["x"]⟩,
    ⟨"queue", "Exists", []⟩, ⟨"gpu", "DoesNotExist", []⟩]

/-- A comparison after a set. -/
def withComparison : Selector where
  matchLabels := [("app", "worker")]
  matchExpressions := [⟨"tier", "In", ["simulations"]⟩, ⟨"gpus", "Gt", ["0"]⟩]

theorem wellFormed_fourOperators : WellFormed fourOperators where
  labels := by decide +kernel
  keys := by decide +kernel
  values := by decide +kernel
  sets := by decide +kernel

/-- The four operators translate exactly. -/
theorem deployment_label_selector_four :
    deploymentLabelSelector fourOperators =
        some "app=worker,tier in (a,b),zone notin (x),queue,!gpu" ∧
      Translates (fun _ _ => false) fourOperators
        "app=worker,tier in (a,b),zone notin (x),queue,!gpu" := by
  have htext : deploymentLabelSelector fourOperators =
      some "app=worker,tier in (a,b),zone notin (x),queue,!gpu" := by decide +kernel
  refine ⟨htext, (deployment_label_selector_iff (fun _ _ => false) fourOperators
    wellFormed_fourOperators _ htext).mpr ?_⟩
  intro labels _ hkept
  have hnone : ¬ HasOther fourOperators := by
    intro hother
    rcases hother with ⟨expr, hexpr, -, hreq⟩
    revert expr
    decide
  intro expr hexpr
  have hsome : forall expr, expr ∈ fourOperators.matchExpressions ->
      expr.requirement.isSome = true := by decide
  exact hkept.resolve_left hnone expr hexpr (hsome expr hexpr)

/-- A comparison drops the set before it, whatever comparisons mean. -/
theorem deployment_label_selector_counterexample :
    deploymentLabelSelector withComparison = some "app=worker" ∧
      selects "app=worker" [("app", "worker"), ("tier", "web"), ("gpus", "1")] = true ∧
      forall other, withComparison.accepts other
          [("app", "worker"), ("tier", "web"), ("gpus", "1")] = false ∧
        ¬ Translates other withComparison "app=worker" := by
  have hselects : selects "app=worker" [("app", "worker"), ("tier", "web"), ("gpus", "1")] =
      true := by decide +kernel
  have hoff (other : MatchExpression -> Labels -> Bool) : withComparison.accepts other
      [("app", "worker"), ("tier", "web"), ("gpus", "1")] = false := rfl
  refine ⟨by decide +kernel, hselects, ?_⟩
  intro other
  refine ⟨hoff other, ?_⟩
  intro htranslates
  have haccepts := htranslates.narrower _ hselects
  rw [hoff other] at haccepts
  cases haccepts

end DeploymentSelector
end OpenStudioOperator
