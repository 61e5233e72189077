import Mathlib.Data.List.Forall2
import PegTrace.Proofs.Matching.Parts

/-!
# Outcomes without records

The outcome of an attempt is where it stopped if it succeeded, and nothing if it failed: neither the stop of a failed
attempt nor any reach, key or part is told. The outcome of an operator on matchers depends on the outcomes of its parts
alone; there is one equation for each operator, by recursion on the list of parts or on the repetitions that are left.
-/

namespace PegTrace

/-- Where the attempt stopped, if it succeeded. -/
def Attempt.outcome (a : Attempt) : Option Nat :=
  if a.success then some a.stop else none

lemma Attempt.outcome_of_success {a : Attempt} (h : a.success) : a.outcome = some a.stop :=
  if_pos h

lemma Attempt.outcome_of_failure {a : Attempt} (h : ¬ a.success) : a.outcome = none :=
  if_neg h

lemma Attempt.covers_iff {a : Attempt} {place : Nat} : a.covers place ↔ a.outcome = some place := by
  by_cases h : a.success <;> simp [covers, outcome, h]

lemma Attempt.covers_eq_decide (a : Attempt) (place : Nat) :
    a.covers place = decide (a.outcome = some place) := by
  rw [Bool.eq_iff_iff, covers_iff, decide_eq_true_eq]

/-! The stops of attempts that are put together. -/

@[simp] lemma Attempt.stop_choice (success : Bool) (start stop reach : Nat) (index : Option Nat)
    (key : Option Key) (child : Option Record) (trace : Trace) :
    Attempt.stop ⟨success, .choice (.covering start stop reach) index key child, trace⟩ = stop := rfl

@[simp] lemma Attempt.stop_all (success : Bool) (start stop reach : Nat) (roster : Roster Record)
    (trace : Trace) : Attempt.stop ⟨success, .all (.covering start stop reach) roster, trace⟩ = stop := rfl

@[simp] lemma Attempt.stop_series (success : Bool) (start stop reach : Nat) (items : List Record)
    (trace : Trace) : Attempt.stop ⟨success, .series (.covering start stop reach) items, trace⟩ = stop := rfl

@[simp] lemma Attempt.stop_pair (success : Bool) (start stop reach : Nat) (first second : Record)
    (trace : Trace) : Attempt.stop ⟨success, .pair (.covering start stop reach) first second, trace⟩ = stop := rfl

namespace Matcher

/-- The outcome of the attempt of a matcher, if it gives an answer. -/
def outcome (m : Matcher) (start bound : Nat) : Option (Option Nat) :=
  (m start bound).map Attempt.outcome

lemma outcome_eq_some_iff {m : Matcher} {start bound : Nat} {v : Option Nat} :
    m.outcome start bound = some v ↔ ∃ a, m start bound = some a ∧ a.outcome = v :=
  Option.map_eq_some_iff

lemma outcome_eq_some {m : Matcher} {start bound : Nat} {a : Attempt} (h : m start bound = some a) :
    m.outcome start bound = some a.outcome :=
  outcome_eq_some_iff.2 ⟨a, h, rfl⟩

variable {start bound : Nat}

/-! ### Choice -/

lemma outcome_choice (items : List (Keyed Matcher)) : (choice items).outcome start bound =
    (tryInTurn start bound items).map fun tried => tried.getLast?.bind (·.value.outcome) := by
  unfold outcome choice
  cases tryInTurn start bound items with
  | none => rfl
  | some tried =>
    simp only [Option.bind_eq_bind, Option.bind_some, Option.map_some]
    split
    · rename_i hlast
      simp [hlast, Attempt.outcome]
    · rename_i key a hlast
      by_cases hs : a.success
      · simp [hlast, hs, Attempt.outcome]
      · simp [hlast, hs, Attempt.outcome]

lemma outcome_choice_cons (m : Keyed Matcher) (items : List (Keyed Matcher)) :
    (choice (m :: items)).outcome start bound =
      (m.value.outcome start bound).bind fun
        | some stop => some (some stop)
        | none => (choice items).outcome start bound := by
  rw [outcome_choice, outcome_choice, tryInTurn, outcome]
  cases m.value start bound with
  | none => rfl
  | some a =>
    simp only [Option.bind_eq_bind, Option.bind_some, Option.map_some]
    by_cases hs : a.success
    · simp [hs, Attempt.outcome]
    · simp only [hs, Attempt.outcome_of_failure hs]
      cases tryInTurn start bound items with
      | none => rfl
      | some tried =>
        -- a failure is that of the last item tried, which is this one only if there are no others
        cases tried with
        | nil => simp [Attempt.outcome_of_failure hs]
        | cons b tried => simp [List.getLast?_cons_cons]

/-! ### Concatenation -/

lemma outcome_concat (items : List (Keyed Matcher)) : (concat items).outcome start bound =
    (tryInSequence bound start items).map fun tried =>
      if tried.all (·.value.success) then some (lastStop start tried) else none := by
  unfold outcome concat
  cases tryInSequence bound start items with
  | none => rfl
  | some tried => rfl

lemma lastStop_cons (a : Keyed Attempt) (tried : List (Keyed Attempt)) :
    lastStop start (a :: tried) = lastStop a.value.stop tried := by
  cases tried with
  | nil => rfl
  | cons b tried => simp [lastStop, List.getLast?_cons]

lemma outcome_concat_cons (m : Keyed Matcher) (items : List (Keyed Matcher)) :
    (concat (m :: items)).outcome start bound =
      (m.value.outcome start bound).bind fun
        | some stop => (concat items).outcome stop bound
        | none => some none := by
  rw [outcome_concat, tryInSequence, outcome]
  cases m.value start bound with
  | none => rfl
  | some a =>
    simp only [Option.bind_eq_bind, Option.bind_some, Option.map_some]
    by_cases hs : a.success
    · -- the items after it start where it stopped
      simp only [hs, Attempt.outcome_of_success hs, outcome_concat]
      cases tryInSequence bound a.stop items with
      | none => rfl
      | some tried => simp [hs, lastStop_cons]
    · simp [hs, Attempt.outcome_of_failure hs]

/-! ### Intersection -/

/-- Whether the items agree on where to stop, if there is an answer. -/
def agreeOn (stop start bound : Nat) (items : List (Keyed Matcher)) : Option Bool :=
  (tryInAgreement start bound (some stop) items).map fun tried => tried.all (·.value.covers stop)

lemma agreeOn_nil (stop : Nat) : agreeOn stop start bound [] = some true := rfl

lemma agreeOn_cons (stop : Nat) (m : Keyed Matcher) (items : List (Keyed Matcher)) :
    agreeOn stop start bound (m :: items) =
      (m.value.outcome start bound).bind fun v =>
        if v = some stop then agreeOn stop start bound items else some false := by
  rw [agreeOn, tryInAgreement, outcome]
  cases m.value start bound with
  | none => rfl
  | some a =>
    simp only [Option.bind_eq_bind, Option.bind_some, Option.map_some]
    by_cases hv : a.outcome = some stop
    · -- the item agrees, so that those after it are tried too
      have hcovers : a.covers stop := Attempt.covers_iff.2 hv
      have hparts := hcovers
      simp only [Attempt.covers, Bool.and_eq_true, decide_eq_true_eq] at hparts
      simp only [hparts.1, hparts.2, hv, Option.all_some, decide_true, Bool.and_self, if_true, agreeOn]
      cases tryInAgreement start bound (some stop) items with
      | none => rfl
      | some tried => simp [hcovers]
    · -- it does not, and nothing after it is tried
      have hcovers : ¬ a.covers stop := fun h => hv (Attempt.covers_iff.1 h)
      have hstay : ¬ (a.success && (some stop).all (· = a.stop)) := by
        intro hstay
        rw [Bool.and_eq_true, Option.all_some, decide_eq_true_eq] at hstay
        rw [Attempt.outcome_of_success hstay.1, hstay.2] at hv
        exact hv rfl
      rw [if_neg hstay, if_neg hv]
      simp [hcovers]

lemma outcome_intersection_cons (m : Keyed Matcher) (items : List (Keyed Matcher)) :
    (intersection (m :: items)).outcome start bound =
      (m.value.outcome start bound).bind fun
        | some stop => (agreeOn stop start bound items).map fun agree => if agree then some stop else none
        | none => some none := by
  unfold outcome intersection
  rw [tryInAgreement]
  cases m.value start bound with
  | none => rfl
  | some a =>
    simp only [Option.bind_eq_bind, Option.bind_some, Option.map_some, Option.all_none, Bool.and_true]
    by_cases hs : a.success
    · -- where the first item stopped is where the others have to stop
      simp only [hs, Attempt.outcome_of_success hs, agreeOn]
      have hcovers : a.covers a.stop := by simp [Attempt.covers, hs]
      cases tryInAgreement start bound (some a.stop) items with
      | none => rfl
      | some tried =>
        simp [Attempt.outcome, firstStop, hcovers]
    · simp [hs, Attempt.outcome, firstStop, Attempt.covers]

lemma agreeOn_eq_true_iff {stop : Nat} {items : List (Keyed Matcher)} :
    agreeOn stop start bound items = some true ↔ ∀ m ∈ items, m.value.outcome start bound = some (some stop) := by
  induction items with
  | nil => simp [agreeOn_nil]
  | cons m items ih =>
    rw [agreeOn_cons, List.forall_mem_cons, ← ih, Option.bind_eq_some_iff]
    constructor
    · rintro ⟨v, hv, h⟩
      split at h
      · rename_i heq
        exact ⟨heq ▸ hv, h⟩
      · cases h
    · rintro ⟨hv, h⟩
      exact ⟨some stop, hv, by rwa [if_pos rfl]⟩

/-- The items disagree if there is a first one that does not stop where it should. -/
lemma agreeOn_eq_false_iff {stop : Nat} {items : List (Keyed Matcher)} :
    agreeOn stop start bound items = some false ↔ ∃ agreed m rest v, items = agreed ++ m :: rest ∧
      (∀ m ∈ agreed, m.value.outcome start bound = some (some stop)) ∧
      m.value.outcome start bound = some v ∧ v ≠ some stop := by
  induction items with
  | nil => simp [agreeOn_nil]
  | cons m items ih =>
    rw [agreeOn_cons, Option.bind_eq_some_iff]
    constructor
    · rintro ⟨v, hv, h⟩
      split at h
      · rename_i heq
        obtain ⟨agreed, m', rest, v', rfl, hagreed, hv', hne⟩ := ih.1 h
        -- this item agrees and another one after it does not
        refine ⟨m :: agreed, m', rest, v', rfl, ?_, hv', hne⟩
        rw [List.forall_mem_cons]
        exact ⟨heq ▸ hv, hagreed⟩
      · rename_i hne
        -- this item is the one that does not agree
        exact ⟨[], m, items, v, rfl, by simp, hv, hne⟩
    · rintro ⟨agreed, m', rest, v, heq, hagreed, hv, hne⟩
      cases agreed with
      | nil =>
        cases heq
        exact ⟨v, hv, if_neg hne⟩
      | cons m'' agreed =>
        cases heq
        rw [List.forall_mem_cons] at hagreed
        refine ⟨some stop, hagreed.1, ?_⟩
        rw [if_pos rfl]
        exact ih.2 ⟨agreed, m', rest, v, rfl, hagreed.2, hv, hne⟩

/-! ### Difference -/

/-- The outcomes of all items, which are attempted last to first, if there is an answer for each. -/
def verdictsOf (start bound : Nat) (items : List (Keyed Matcher)) : Option (List (Option Nat)) :=
  (tryEach start bound items.reverse).map fun tried => tried.reverse.map (·.value.outcome)

lemma map_tryEach_eq_some_iff {items : List (Keyed Matcher)} {verdicts : List (Option Nat)} :
    ((tryEach start bound items).map fun tried => tried.map (·.value.outcome)) = some verdicts ↔
      List.Forall₂ (fun m v => m.value.outcome start bound = some v) items verdicts := by
  induction items generalizing verdicts with
  | nil => simp [tryEach, eq_comm]
  | cons m items ih =>
    simp only [tryEach, Option.bind_eq_bind, Option.map_eq_some_iff, Option.bind_eq_some_iff,
      List.forall₂_cons_left_iff] at ih ⊢
    constructor
    · rintro ⟨_, ⟨a, ha, later, hlater, h⟩, rfl⟩
      cases h
      exact ⟨a.outcome, _, outcome_eq_some ha, ih.1 ⟨later, hlater, rfl⟩, rfl⟩
    · rintro ⟨_, _, hv, hverdicts, rfl⟩
      obtain ⟨a, ha, rfl⟩ := outcome_eq_some_iff.1 hv
      obtain ⟨later, hlater, rfl⟩ := ih.2 hverdicts
      exact ⟨_, ⟨a, ha, later, hlater, rfl⟩, rfl⟩

lemma verdictsOf_eq_some_iff {items : List (Keyed Matcher)} {verdicts : List (Option Nat)} :
    verdictsOf start bound items = some verdicts ↔
      List.Forall₂ (fun m v => m.value.outcome start bound = some v) items verdicts := by
  rw [← List.forall₂_reverse_iff, ← map_tryEach_eq_some_iff, verdictsOf, Option.map_eq_some_iff,
    Option.map_eq_some_iff]
  simp only [List.map_reverse, List.reverse_eq_iff]

/-- The first item decides where to stop; the verdict of another one counts if it is to stop there too. -/
lemma outcome_difference_cons (m : Keyed Matcher) (others : List (Keyed Matcher)) (exclude : Bool) :
    (difference (m :: others) exclude).outcome start bound =
      (m.value.outcome start bound).bind fun
        | some stop => (verdictsOf start stop others).map fun verdicts =>
            if exclude != alternating (verdicts.map fun v => v = some stop) then some stop else none
        | none => some none := by
  cases hbase : m.value start bound with
  | none => simp [outcome, difference, hbase]
  | some base =>
    rw [outcome_eq_some hbase, Option.bind_some]
    by_cases hs : base.success
    · rw [Attempt.outcome_of_success hs, outcome, difference_of_success hbase hs]
      simp only [verdictsOf, Option.map_map]
      congr 1
      funext tried
      -- the others are tried last to first, and their verdicts are put back in order
      have hverdicts : tried.reverse.map (·.value.covers base.stop) =
          (tried.reverse.map (·.value.outcome)).map fun v => decide (v = some base.stop) := by
        rw [List.map_map]
        exact List.map_congr_left fun a _ => a.value.covers_eq_decide base.stop
      rw [Function.comp_apply, Function.comp_apply, ← hverdicts]
      rfl
    · rw [outcome, difference_of_failure hbase hs, Option.map_some, Attempt.outcome_of_failure hs]

/-! ### Repetition -/

lemma Run.cursor_cons (a : Attempt) (run : Run) :
    Run.cursor start { run with accepted := a :: run.accepted } = run.cursor a.stop := by
  obtain ⟨accepted, ending⟩ := run
  cases accepted with
  | nil => rfl
  | cons b accepted => simp [Run.cursor, List.getLast?_cons]

/-- One more repetition, and one less that is asked for. -/
lemma Run.satisfies_cons (a : Attempt) (run : Run) (least : Nat) :
    Run.satisfies least { run with accepted := a :: run.accepted } = run.satisfies (least - 1) := by
  obtain ⟨accepted, ending⟩ := run
  have hcount : decide (least ≤ (a :: accepted).length) = decide (least - 1 ≤ accepted.length) := by
    rw [decide_eq_decide, List.length_cons]
    omega
  cases ending with
  | idle b => rfl
  | full => exact hcount
  | refused b => exact hcount

/-- The outcome of a run of repetitions of which at least `least` are asked for. -/
def runOutcome (m : Matcher) (bound : Nat) (bounded : Bool) (limit least start : Nat) : Option (Option Nat) :=
  (repeatFrom m bound bounded limit start).map fun run =>
    if run.satisfies least then some (run.cursor start) else none

lemma runOutcome_succ (m : Matcher) (bounded : Bool) (limit least : Nat) :
    runOutcome m bound bounded (limit + 1) least start =
      (m.outcome start bound).bind fun
        | some stop =>
          if stop ≤ start then some (some start) else runOutcome m bound bounded limit (least - 1) stop
        | none => some (if least = 0 then some start else none) := by
  rw [runOutcome, repeatFrom, outcome]
  cases m start bound with
  | none => rfl
  | some a =>
    simp only [Option.bind_eq_bind, Option.bind_some, Option.map_some]
    by_cases hs : a.success
    · simp only [hs, Attempt.outcome_of_success hs, Bool.not_true, Bool.false_eq_true, if_false]
      -- a success that does not move on ends the run and would meet any lower bound
      by_cases hidle : a.stop ≤ start
      · simp [hidle, Run.satisfies, Run.cursor]
      · simp only [hidle, if_false, runOutcome]
        cases repeatFrom m bound bounded limit a.stop with
        | none => rfl
        | some run =>
          simp only [Option.bind_some, Option.pure_def, Option.map_some, Run.satisfies_cons, Run.cursor_cons]
    · simp [hs, Attempt.outcome_of_failure hs, Run.satisfies, Run.cursor]

/-- A run that satisfies its lower bound stops after the accepted repetitions. -/
lemma Run.stop_of_satisfies {least : Nat} {run : Run} (h : run.satisfies least) :
    run.stop start least = run.cursor start := by
  unfold Run.stop
  split
  · rw [if_pos h]
  · rfl

lemma outcome_repetition (m : Matcher) (least : Nat) (most : Option Nat) (steps : Nat) :
    (repetition m least most steps).outcome start bound =
      runOutcome m bound most.isSome (most.elim steps (max least)) least start := by
  -- what the record of a run is made of does not matter, only whether the run satisfies
  have hmain : (repetition m least most steps).outcome start bound =
      (repeatWithin m bound start (most.map (max least)) steps).map fun run =>
        if run.satisfies least then some (run.cursor start) else none := by
    rw [outcome, repetition]
    cases repeatWithin m bound start (most.map (max least)) steps with
    | none => rfl
    | some run =>
      simp only [Option.bind_eq_bind, Option.bind_some, Option.pure_def, Option.map_some, Attempt.outcome,
        Attempt.stop_series]
      by_cases h : run.satisfies least
      · rw [if_pos h, if_pos h, Run.stop_of_satisfies h]
      · rw [if_neg h, if_neg h]
  rw [hmain]
  cases most with
  | none => rfl
  | some most => rfl

/-- Steps are of no account if there is an upper bound. -/
lemma outcome_repetition_bounded (m : Matcher) (least most steps steps' : Nat) :
    (repetition m least (some most) steps).outcome start bound =
      (repetition m least (some most) steps').outcome start bound := rfl

/-- The first repetition, and the others after it: there is one less to come and one less that may come. -/
lemma outcome_repetition_succ (m : Matcher) {least : Nat} {most : Option Nat} (steps : Nat)
    (hroom : 0 < least ∨ most ≠ some 0) :
    (repetition m least most (steps + 1)).outcome start bound =
      (m.outcome start bound).bind fun
        | some stop =>
          if stop ≤ start then some (some start)
          else (repetition m (least - 1) (most.map (· - 1)) steps).outcome stop bound
        | none => some (if least = 0 then some start else none) := by
  -- with a round made, one less is left, whether there is a bound or only the steps
  have hlimit : most.elim (steps + 1) (max least) =
      (most.map (· - 1)).elim steps (max (least - 1)) + 1 := by
    cases most with
    | none => rfl
    | some most =>
      have : 0 < least ∨ most ≠ 0 := by simpa using hroom
      simp only [Option.elim_some, Option.map_some]
      omega
  rw [outcome_repetition, hlimit, runOutcome_succ]
  simp only [outcome_repetition, Option.isSome_map]

/-! ### Conditions, wrappers and leaves -/

lemma outcome_conditional (first second : Matcher) (require : Bool) :
    (conditional first second require).outcome start bound =
      (first.outcome start bound).bind fun
        | some stop => (second.outcome start stop).map fun v =>
            if decide (v = some stop) = require then some stop else none
        | none => some none := by
  cases hbase : first start bound with
  | none => simp [outcome, conditional, hbase]
  | some base =>
    rw [outcome_eq_some hbase, Option.bind_some]
    by_cases hs : base.success
    · rw [Attempt.outcome_of_success hs, outcome, conditional_of_success hbase hs]
      simp only [outcome, Option.map_map]
      congr 1
      funext b
      rw [Function.comp_apply, Function.comp_apply, ← Attempt.covers_eq_decide, Attempt.outcome, Attempt.stop_pair]
      simp only [decide_eq_true_eq]
    · rw [Attempt.outcome_of_failure hs, outcome, conditional_of_failure hbase hs, Option.map_some,
        Attempt.outcome_of_failure hs]

lemma outcome_collapse (m : Matcher) : (collapse m).outcome start bound = m.outcome start bound := by
  rw [outcome, collapse, outcome]
  cases m start bound with
  | none => rfl
  | some a => rfl

lemma outcome_literal {α : Type} [DecidableEq α] [LE α] [DecidableLE α] (input : Array α) (test : CharTest α) :
    (literal input test).outcome start bound =
      some (if (charAt? input start bound).any test.accepts then some (start + 1) else none) := by
  rw [outcome, literal]
  cases charAt? input start bound with
  | none => rfl
  | some c => rfl

end Matcher

end PegTrace
