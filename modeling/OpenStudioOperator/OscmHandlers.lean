import Mathlib.Data.Finset.Card
import Mathlib.Data.String.Basic
import OpenStudioOperator.Foundation.Dict
import OpenStudioOperator.Foundation.History
import OpenStudioOperator.Foundation.SortOn
import OpenStudioOperator.Status

/-!
# Outages across handler modules

A tick of a handler module that raises an expected exception is skipped and
counted.  When two modules have failed within a minute, the failures are taken
for one outage of something that they share.
-/

namespace OpenStudioOperator
namespace OscmHandlers

open Foundation

/-- `_OUTAGE_WINDOW_SECONDS`. -/
def outageWindow : Duration := seconds 60

/-- An exception of `SKIP_TICK_EXCEPTIONS`: its type, and whether it is a
`RedisClientError`. -/
structure SkipException where
  errorType : String
  redisClientError : Bool := false
deriving DecidableEq, Repr

/-- One invocation of `run_oscm_tick`: for which resource and module, the time that
its clock shows, and what the guarded part raised. -/
structure HandlerTick where
  crNamespace : String
  name : String
  module : String
  time : Instant
  raised : Option SkipException
deriving DecidableEq, Repr

/-- The counters, each by its labels. -/
structure Metrics where
  tickFailures : Dict (String × String × String × String) Nat := .empty
  crossHandlerOutage : Dict String Nat := .empty
  redisUnreachable : Dict (String × String) Nat := .empty

/-- The memory of the operator process. -/
structure Process where
  crossHandlerFailures : Dict String Instant := .empty
  metrics : Metrics := {}

/-- The modules whose last failure is after `cutoff`. -/
def recentModules (failures : Dict String Instant) (cutoff : Instant) : List String :=
  (failures.filter fun _ ts => decide (cutoff < ts)).keys

def moduleSet (modules : List String) : String :=
  String.intercalate "-" (sortOn id modules)

/-- The skip branch of `run_oscm_tick`. -/
def skipTick (tick : HandlerTick) (exc : SkipException) (p : Process) : Process :=
  let failures := p.crossHandlerFailures.set tick.module tick.time
  let cutoff := tick.time - outageWindow
  let recent := recentModules failures cutoff
  { crossHandlerFailures := failures.filter fun _ ts => decide (cutoff < ts)
    metrics :=
      { tickFailures := p.metrics.tickFailures.increment
          (tick.crNamespace, tick.name, tick.module, exc.errorType)
        crossHandlerOutage :=
          if 2 <= recent.length then
            p.metrics.crossHandlerOutage.increment (moduleSet recent)
          else p.metrics.crossHandlerOutage
        redisUnreachable :=
          if exc.redisClientError then
            p.metrics.redisUnreachable.increment (tick.crNamespace, tick.name)
          else p.metrics.redisUnreachable } }

/-- `run_oscm_tick`, as far as failures go. -/
def runOscmTick (tick : HandlerTick) (p : Process) : Process :=
  match tick.raised with
  | none => p
  | some exc => skipTick tick exc p

/-- The process after a history of ticks, the newest first. -/
def run : List HandlerTick -> Process
  | [] => {}
  | tick :: older => runOscmTick tick (run older)

/-- The increments of `HANDLER_CROSS_HANDLER_OUTAGE_TOTAL`, over all labels. -/
def outageTotal (history : List HandlerTick) : Nat :=
  (run history).metrics.crossHandlerOutage.total

/-!
## Outages
-/

/-- The modules with a failure in the window that ends at `now`. -/
def failing (history : List HandlerTick) (now : Instant) : Finset String :=
  ((history.filter fun tick => tick.raised.isSome && decide (now - outageWindow < tick.time)).map
    fun tick => tick.module).toFinset

/-- At least two modules have a failure in the window. -/
def Outage (history : List HandlerTick) (now : Instant) : Prop :=
  2 <= (failing history now).card

instance (history : List HandlerTick) (now : Instant) : Decidable (Outage history now) :=
  inferInstanceAs (Decidable (2 <= (failing history now).card))

/-- How often an outage begins: there is none at the time of a tick before it, and
one after it. -/
def onsets : List HandlerTick -> Nat
  | [] => 0
  | tick :: older =>
      onsets older +
        if Outage (tick :: older) tick.time ∧ ¬ Outage older tick.time then 1 else 0

/-- The clock does not go back. -/
def Ordered (history : List HandlerTick) : Prop :=
  history.Pairwise fun later earlier => earlier.time <= later.time

instance (history : List HandlerTick) : Decidable (Ordered history) :=
  inferInstanceAs (Decidable (history.Pairwise _))

section Outages

variable {history older : List HandlerTick} {tick : HandlerTick} {now : Instant}

theorem mem_failing_iff {m : String} :
    m ∈ failing history now <-> exists tick, tick ∈ history ∧ tick.module = m ∧
      tick.raised.isSome = true ∧ now - outageWindow < tick.time := by
  simp only [failing, List.mem_toFinset, List.mem_map, List.mem_filter, Bool.and_eq_true,
    decide_eq_true_eq]
  constructor
  · rintro ⟨tick, ⟨hmem, hraised, htime⟩, hmodule⟩
    exact ⟨tick, hmem, hmodule, hraised, htime⟩
  · rintro ⟨tick, hmem, hmodule, hraised, htime⟩
    exact ⟨tick, ⟨hmem, hraised, htime⟩, hmodule⟩

/-- Between two ticks an outage can end and not begin, so every outage begins at a
tick. -/
theorem Outage.of_later {later : Instant} (h : Outage history later) (hle : now <= later) :
    Outage history now := by
  refine Nat.le_trans h (Finset.card_le_card ?_)
  intro m hm
  rcases mem_failing_iff.mp hm with ⟨tick, hmem, hmodule, hraised, htime⟩
  exact mem_failing_iff.mpr ⟨tick, hmem, hmodule, hraised,
    Int.lt_of_le_of_lt (Int.sub_le_sub_right hle _) htime⟩

theorem failing_subset_cons : failing older now ⊆ failing (tick :: older) now := by
  intro m hm
  rcases mem_failing_iff.mp hm with ⟨t, hmem, hrest⟩
  exact mem_failing_iff.mpr ⟨t, List.mem_cons_of_mem _ hmem, hrest⟩

theorem failing_cons_of_none (h : tick.raised = none) :
    failing (tick :: older) now = failing older now := by
  unfold failing
  rw [List.filter_cons_of_neg (by rw [h]; exact Bool.false_ne_true)]

end Outages

/-!
## What the process remembers
-/

/-- No tick of the history is after `now`. -/
def Until (history : List HandlerTick) (now : Instant) : Prop :=
  forall tick, tick ∈ history -> tick.time <= now

/-- The table tells which modules have failed, from the last tick on. -/
def Remembers (failures : Dict String Instant) (history : List HandlerTick) : Prop :=
  forall now, Until history now -> forall m, m ∈ failing history now <->
    exists ts, failures.get? m = some ts ∧ now - outageWindow < ts

section Memory

variable {failures : Dict String Instant} {history older : List HandlerTick}
variable {tick : HandlerTick} {now : Instant}

theorem Until.of_cons (h : Until (tick :: older) now) : Until older now :=
  fun t ht => h t (List.mem_cons_of_mem _ ht)

theorem Ordered.until (h : Ordered (tick :: older)) : Until (tick :: older) tick.time := by
  intro t ht
  rcases List.mem_cons.mp ht with rfl | hold
  · exact Int.le_refl _
  · exact (List.pairwise_cons.mp h).1 t hold

theorem Remembers.set (h : Remembers failures older) (hraised : tick.raised.isSome = true)
    (htime : Until older tick.time) :
    Remembers (failures.set tick.module tick.time) (tick :: older) := by
  intro now hnow m
  by_cases hm : m = tick.module
  · subst hm
    rw [Dict.get?_set_self]
    constructor
    · intro hfailing
      rcases mem_failing_iff.mp hfailing with ⟨t, hmem, _, _, hlate⟩
      have hlast : t.time <= tick.time := by
        rcases List.mem_cons.mp hmem with rfl | hold
        · exact Int.le_refl _
        · exact htime t hold
      exact ⟨tick.time, rfl, Int.lt_of_lt_of_le hlate hlast⟩
    · rintro ⟨ts, hts, hlate⟩
      cases hts
      exact mem_failing_iff.mpr ⟨tick, List.mem_cons_self, rfl, hraised, hlate⟩
  · rw [Dict.get?_set_of_ne _ _ hm, ← h now hnow.of_cons m]
    constructor
    · intro hfailing
      rcases mem_failing_iff.mp hfailing with ⟨t, hmem, hmodule, hrest⟩
      rcases List.mem_cons.mp hmem with rfl | hold
      · exact absurd hmodule.symm hm
      · exact mem_failing_iff.mpr ⟨t, hold, hmodule, hrest⟩
    · exact fun hfailing => failing_subset_cons hfailing

/-- Pruning forgets only failures that no later window reaches. -/
theorem Remembers.prune (h : Remembers failures history) (hmem : tick ∈ history) :
    Remembers (failures.filter fun _ ts => decide (tick.time - outageWindow < ts)) history := by
  intro now hnow m
  rw [h now hnow m]
  have htime := hnow tick hmem
  constructor
  · rintro ⟨ts, hts, hlate⟩
    refine ⟨ts, (Dict.get?_filter_eq_some_iff _ _ _ _).mpr ⟨hts, ?_⟩, hlate⟩
    exact decide_eq_true (Int.lt_of_le_of_lt (Int.sub_le_sub_right htime _) hlate)
  · rintro ⟨ts, hts, hlate⟩
    exact ⟨ts, ((Dict.get?_filter_eq_some_iff _ _ _ _).mp hts).1, hlate⟩

/-- The number of recent modules of the table is that of the history. -/
theorem Remembers.length_recentModules (h : Remembers failures history)
    (hnow : Until history now) :
    (recentModules failures (now - outageWindow)).length = (failing history now).card := by
  have hset : (recentModules failures (now - outageWindow)).toFinset = failing history now := by
    ext m
    rw [List.mem_toFinset, recentModules, Dict.mem_keys_iff_get?, h now hnow m]
    simp only [Dict.get?_filter_eq_some_iff, decide_eq_true_eq]
  rw [← hset]
  exact (List.toFinset_card_of_nodup (Dict.nodupKeys _)).symm

theorem run_remembers (h : Ordered history) :
    Remembers (run history).crossHandlerFailures history := by
  induction history with
  | nil =>
      intro now _ m
      simp [failing, run]
  | cons tick older ih =>
      have holder := ih (List.Pairwise.of_cons h)
      cases hraised : tick.raised with
      | none =>
          simp only [run, runOscmTick, hraised]
          intro now hnow m
          rw [failing_cons_of_none hraised]
          exact holder now hnow.of_cons m
      | some exc =>
          simp only [run, runOscmTick, hraised]
          refine (holder.set ?_ h.until.of_cons).prune List.mem_cons_self
          rw [hraised]
          rfl

end Memory

/-!
## The counter
-/

section Counter

variable {history older : List HandlerTick} {tick : HandlerTick}

/-- The counter goes up at every failing tick that leaves an outage open. -/
theorem outageTotal_cons (h : Ordered (tick :: older)) :
    outageTotal (tick :: older) = outageTotal older +
      if tick.raised.isSome = true ∧ Outage (tick :: older) tick.time then 1 else 0 := by
  have holder := run_remembers (List.Pairwise.of_cons h)
  unfold outageTotal
  cases hraised : tick.raised with
  | none =>
      rw [if_neg (fun hfalse => Bool.false_ne_true hfalse.1)]
      simp only [run, runOscmTick, hraised]
      exact (Nat.add_zero _).symm
  | some exc =>
      have hsome : tick.raised.isSome = true := by
        rw [hraised]
        rfl
      have hlength := (holder.set hsome h.until.of_cons).length_recentModules h.until
      simp only [run, runOscmTick, hraised, skipTick, hlength]
      by_cases hopen : 2 <= (failing (tick :: older) tick.time).card
      · rw [if_pos hopen, if_pos ⟨rfl, hopen⟩, Dict.total_increment]
      · rw [if_neg hopen, if_neg (fun hand => hopen hand.2)]
        exact (Nat.add_zero _).symm

/-- An outage begins with a failure. -/
theorem raised_of_onset (hopen : Outage (tick :: older) tick.time)
    (hclosed : ¬ Outage older tick.time) : tick.raised.isSome = true := by
  cases hraised : tick.raised with
  | none =>
      unfold Outage at hopen
      rw [failing_cons_of_none hraised] at hopen
      exact absurd hopen hclosed
  | some exc => rfl

/-- An outage stays open at a tick. -/
theorem outage_cons (hopen : Outage older tick.time) : Outage (tick :: older) tick.time :=
  Nat.le_trans hopen (Finset.card_le_card failing_subset_cons)

theorem onsets_le_outageTotal (h : Ordered history) : onsets history <= outageTotal history := by
  induction history with
  | nil => exact Nat.zero_le _
  | cons tick older ih =>
      have holder := ih (List.Pairwise.of_cons h)
      rw [outageTotal_cons h, onsets]
      by_cases honset : Outage (tick :: older) tick.time ∧ ¬ Outage older tick.time
      · rw [if_pos honset, if_pos ⟨raised_of_onset honset.1 honset.2, honset.1⟩]
        omega
      · rw [if_neg honset]
        omega

/-- The counter counts outages exactly in the runs where no tick fails while an
outage is open. -/
theorem cross_handler_outage_iff (h : Ordered history) :
    outageTotal history = onsets history <->
      Throughout (fun tick older =>
        tick.raised.isSome = true -> ¬ Outage older tick.time) history := by
  induction history with
  | nil => exact ⟨fun _ => .nil, fun _ => rfl⟩
  | cons tick older ih =>
      have holder := List.Pairwise.of_cons h
      have hle := onsets_le_outageTotal holder
      rw [outageTotal_cons h, onsets]
      by_cases hopen : Outage older tick.time
      · -- no onset; a failure would be counted once more
        have hnone : ¬ (Outage (tick :: older) tick.time ∧ ¬ Outage older tick.time) :=
          fun hand => hand.2 hopen
        rw [if_neg hnone]
        by_cases hraised : tick.raised.isSome = true
        · rw [if_pos ⟨hraised, outage_cons hopen⟩]
          constructor
          · intro heq
            omega
          · intro hthroughout
            exact absurd hopen (hthroughout.head hraised)
        · rw [if_neg (fun hand => hraised hand.1), Nat.add_zero, Nat.add_zero, ih holder]
          exact ⟨.cons fun hfailed => absurd hfailed hraised, Throughout.tail⟩
      · -- counted when it is an onset
        have hsame : (tick.raised.isSome = true ∧ Outage (tick :: older) tick.time) <->
            (Outage (tick :: older) tick.time ∧ ¬ Outage older tick.time) :=
          ⟨fun hand => ⟨hand.2, hopen⟩, fun hand => ⟨raised_of_onset hand.1 hand.2, hand.1⟩⟩
        rw [if_congr hsame rfl rfl, Nat.add_right_cancel_iff, ih holder]
        exact ⟨.cons fun _ => hopen, Throughout.tail⟩

/-- A failure of a module of the resource `oscm`, in seconds. -/
def failureAt (module : String) (second : Nat) : HandlerTick where
  crNamespace := "energy"
  name := "oscm"
  module := module
  time := seconds second
  raised := some { errorType := "OpenStudioApiError" }

/-- Two modules fail in the window and one of them fails again: one outage, two
increments. -/
theorem cross_handler_outage_counterexample :
    Ordered [failureAt "analysis_sla" 31, failureAt "datapoint_watchdog" 1,
      failureAt "analysis_sla" 1] ∧
    outageTotal [failureAt "analysis_sla" 31, failureAt "datapoint_watchdog" 1,
      failureAt "analysis_sla" 1] = 2 ∧
    onsets [failureAt "analysis_sla" 31, failureAt "datapoint_watchdog" 1,
      failureAt "analysis_sla" 1] = 1 := by
  decide +kernel

/-- Two outages, the second after the window of the first. -/
theorem cross_handler_outage_twice :
    onsets [failureAt "worker_recycler" 92, failureAt "analysis_sla" 91,
      failureAt "datapoint_watchdog" 1, failureAt "analysis_sla" 1] = 2 ∧
    (outageTotal [failureAt "worker_recycler" 92, failureAt "analysis_sla" 91,
        failureAt "datapoint_watchdog" 1, failureAt "analysis_sla" 1] =
      onsets [failureAt "worker_recycler" 92, failureAt "analysis_sla" 91,
        failureAt "datapoint_watchdog" 1, failureAt "analysis_sla" 1]) := by
  refine ⟨by decide +kernel, (cross_handler_outage_iff (by decide +kernel)).mpr ?_⟩
  decide +kernel

end Counter

end OscmHandlers
end OpenStudioOperator
