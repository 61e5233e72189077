import Mathlib.Order.Filter.AtTopBot.Basic
import Mathlib.Order.Filter.Finite
import PegTrace.Proofs.Matching.Replay
import PegTrace.Proofs.Recognition.Outcome

/-!
# What a pattern recognises

`Grammar.Parses` says what a pattern recognises, by rules that know of no record: a judgement tells where a pattern
stops from a start with a bound, or that it does not match there. Nothing is said of how far a failed pattern came,
of keys, or of a number of steps. A run comes to the outcome that the rules give, and gives an answer with enough steps
if the rules give one at all (`run_iff_parses`).
-/

namespace PegTrace

open Filter

variable {α : Type} [DecidableEq α] [LE α] [DecidableLE α]

/-- From a start and with a bound, the pattern matches up to `some stop` or, with `none`, does not match. -/
inductive Grammar.Parses (g : Grammar α) (input : Array α) : Pattern α → Nat → Nat → Option Nat → Prop
  | empty {start bound : Nat} : Parses g input .empty start bound (some start)
  | literal {test : CharTest α} {start bound : Nat} {c : α} (hbound : start < bound)
      (hc : input[start]? = some c) (haccepts : test.accepts c) :
      Parses g input (.literal test) start bound (some (start + 1))
  | literal_refuse {test : CharTest α} {start bound : Nat}
      (h : ∀ c, start < bound → input[start]? = some c → ¬ test.accepts c) :
      Parses g input (.literal test) start bound none
  | choice_nil {start bound : Nat} : Parses g input (.choice []) start bound none
  | choice_here {item : Keyed (Pattern α)} {items : List (Keyed (Pattern α))} {start bound stop : Nat}
      (h : Parses g input item.value start bound (some stop)) :
      Parses g input (.choice (item :: items)) start bound (some stop)
  | choice_there {item : Keyed (Pattern α)} {items : List (Keyed (Pattern α))} {start bound : Nat}
      {v : Option Nat} (h : Parses g input item.value start bound none)
      (hitems : Parses g input (.choice items) start bound v) :
      Parses g input (.choice (item :: items)) start bound v
  | concat_nil {start bound : Nat} : Parses g input (.concat []) start bound (some start)
  | concat_refuse {item : Keyed (Pattern α)} {items : List (Keyed (Pattern α))} {start bound : Nat}
      (h : Parses g input item.value start bound none) :
      Parses g input (.concat (item :: items)) start bound none
  | concat_cons {item : Keyed (Pattern α)} {items : List (Keyed (Pattern α))} {start bound stop : Nat}
      {v : Option Nat} (h : Parses g input item.value start bound (some stop))
      (hitems : Parses g input (.concat items) stop bound v) :
      Parses g input (.concat (item :: items)) start bound v
  | intersection_nil {start bound : Nat} : Parses g input (.intersection []) start bound (some start)
  | intersection_refuse {item : Keyed (Pattern α)} {items : List (Keyed (Pattern α))} {start bound : Nat}
      (h : Parses g input item.value start bound none) :
      Parses g input (.intersection (item :: items)) start bound none
  | intersection_agree {item : Keyed (Pattern α)} {items : List (Keyed (Pattern α))} {start bound stop : Nat}
      (h : Parses g input item.value start bound (some stop))
      (hitems : ∀ i ∈ items, Parses g input i.value start bound (some stop)) :
      Parses g input (.intersection (item :: items)) start bound (some stop)
  | intersection_differ {item other : Keyed (Pattern α)} {agreed rest : List (Keyed (Pattern α))}
      {start bound stop : Nat} {v : Option Nat} (h : Parses g input item.value start bound (some stop))
      (hagreed : ∀ i ∈ agreed, Parses g input i.value start bound (some stop))
      (hother : Parses g input other.value start bound v) (hv : v ≠ some stop) :
      Parses g input (.intersection (item :: (agreed ++ other :: rest))) start bound none
  | difference_nil {exclude : Bool} {start bound : Nat} :
      Parses g input (.difference [] exclude) start bound none
  | difference_refuse {item : Keyed (Pattern α)} {others : List (Keyed (Pattern α))} {exclude : Bool}
      {start bound : Nat} (h : Parses g input item.value start bound none) :
      Parses g input (.difference (item :: others) exclude) start bound none
  /-- The other items are tried on the stretch of the first, and the verdict of each counts unless those after it veto
  it. -/
  | difference_cons {item : Keyed (Pattern α)} {others : List (Keyed (Pattern α))} {exclude : Bool}
      {start bound stop : Nat} {verdicts : List (Option Nat)}
      (h : Parses g input item.value start bound (some stop)) (hlength : others.length = verdicts.length)
      (hothers : ∀ x ∈ others.zip verdicts, Parses g input x.1.value start stop x.2) :
      Parses g input (.difference (item :: others) exclude) start bound
        (if exclude != verdicts.foldr (fun v vetoed => decide (v = some stop) && !vetoed) false
          then some stop else none)
  | repetition_full {inner : Pattern α} {start bound : Nat} :
      Parses g input (.repetition inner 0 (some 0)) start bound (some start)
  | repetition_refuse {inner : Pattern α} {least : Nat} {most : Option Nat} {start bound : Nat}
      (hroom : 0 < least ∨ most ≠ some 0) (h : Parses g input inner start bound none) :
      Parses g input (.repetition inner least most) start bound (if least = 0 then some start else none)
  /-- A repetition that does not move on would meet every lower bound. -/
  | repetition_idle {inner : Pattern α} {least : Nat} {most : Option Nat} {start bound stop : Nat}
      (hroom : 0 < least ∨ most ≠ some 0) (h : Parses g input inner start bound (some stop))
      (hidle : stop ≤ start) : Parses g input (.repetition inner least most) start bound (some start)
  | repetition_go {inner : Pattern α} {least : Nat} {most : Option Nat} {start bound stop : Nat} {v : Option Nat}
      (hroom : 0 < least ∨ most ≠ some 0) (h : Parses g input inner start bound (some stop))
      (hmove : start < stop)
      (hrest : Parses g input (.repetition inner (least - 1) (most.map (· - 1))) stop bound v) :
      Parses g input (.repetition inner least most) start bound v
  | conditional_refuse {first second : Pattern α} {require : Bool} {start bound : Nat}
      (h : Parses g input first start bound none) :
      Parses g input (.conditional first second require) start bound none
  | conditional {first second : Pattern α} {require : Bool} {start bound stop : Nat} {v : Option Nat}
      (h₁ : Parses g input first start bound (some stop)) (h₂ : Parses g input second start stop v) :
      Parses g input (.conditional first second require) start bound
        (if decide (v = some stop) = require then some stop else none)
  | hole {id : Nat} {body : Pattern α} {start bound : Nat} {v : Option Nat} (hbody : g.body? id = some body)
      (h : Parses g input body start bound v) : Parses g input (.hole id) start bound v
  | unbound {id start bound : Nat} (hbody : g.body? id = none) : Parses g input (.hole id) start bound none
  | collapse {inner : Pattern α} {start bound : Nat} {v : Option Nat} (h : Parses g input inner start bound v) :
      Parses g input (.collapse inner) start bound v

/-! ### Runs of each kind of pattern -/

namespace Grammar

variable {g : Grammar α} {input : Array α} {steps start bound : Nat} {item : Keyed (Pattern α)}
  {items : List (Keyed (Pattern α))} {first second inner : Pattern α}

lemma outcome_run_choice_cons : (g.run input steps (.choice (item :: items))).outcome start bound =
    ((g.run input steps item.value).outcome start bound).bind fun
      | some stop => some (some stop)
      | none => (g.run input steps (.choice items)).outcome start bound :=
  Matcher.outcome_choice_cons _ _

lemma outcome_run_concat_cons : (g.run input steps (.concat (item :: items))).outcome start bound =
    ((g.run input steps item.value).outcome start bound).bind fun
      | some stop => (g.run input steps (.concat items)).outcome stop bound
      | none => some none :=
  Matcher.outcome_concat_cons _ _

lemma outcome_run_intersection_cons : (g.run input steps (.intersection (item :: items))).outcome start bound =
    ((g.run input steps item.value).outcome start bound).bind fun
      | some stop => (Matcher.agreeOn stop start bound (items.map (·.map (g.run input steps)))).map fun agree =>
          if agree then some stop else none
      | none => some none := by
  have hmatchers := Pattern.matchers_eq_map input (g.holes input steps) steps items
  exact (Matcher.outcome_intersection_cons _ _).trans (by rw [hmatchers]; rfl)

lemma outcome_run_difference_cons {exclude : Bool} :
    (g.run input steps (.difference (item :: items) exclude)).outcome start bound =
      ((g.run input steps item.value).outcome start bound).bind fun
        | some stop => (Matcher.verdictsOf start stop (items.map (·.map (g.run input steps)))).map fun verdicts =>
            if exclude != alternating (verdicts.map fun v => v = some stop) then some stop else none
        | none => some none := by
  have hmatchers := Pattern.matchers_eq_map input (g.holes input steps) steps items
  exact (Matcher.outcome_difference_cons _ _ _).trans (by rw [hmatchers]; rfl)

lemma outcome_run_repetition {least : Nat} {most : Option Nat} :
    (g.run input steps (.repetition inner least most)).outcome start bound =
      (Matcher.repetition (g.run input steps inner) least most steps).outcome start bound := rfl

lemma outcome_run_conditional {require : Bool} :
    (g.run input steps (.conditional first second require)).outcome start bound =
      ((g.run input steps first).outcome start bound).bind fun
        | some stop => ((g.run input steps second).outcome start stop).map fun v =>
            if decide (v = some stop) = require then some stop else none
        | none => some none :=
  Matcher.outcome_conditional _ _ _

lemma outcome_run_collapse : (g.run input steps (.collapse inner)).outcome start bound =
    (g.run input steps inner).outcome start bound :=
  Matcher.outcome_collapse _

lemma outcome_run_literal {test : CharTest α} : (g.run input steps (.literal test)).outcome start bound =
    some (if (Matcher.charAt? input start bound).any test.accepts then some (start + 1) else none) :=
  Matcher.outcome_literal _ _

/-! ### Every outcome is given by the rules -/

/-- What a run comes to with the given steps follows from the rules. -/
def Sound (g : Grammar α) (input : Array α) (steps : Nat) (p : Pattern α) : Prop :=
  ∀ ⦃start bound v⦄, (g.run input steps p).outcome start bound = some v → g.Parses input p start bound v

lemma literal_sound (test : CharTest α) : g.Sound input steps (.literal test) := by
  intro start bound v h
  rw [outcome_run_literal] at h
  cases h
  split
  · rename_i haccepts
    obtain ⟨c, hc, haccepts⟩ := (Option.any_eq_true _ _).1 haccepts
    obtain ⟨hbound, hc⟩ := Matcher.charAt?_eq_some_iff.1 hc
    exact .literal hbound hc haccepts
  · rename_i hrefuses
    refine .literal_refuse fun c hbound hc haccepts => hrefuses ?_
    rw [Matcher.charAt?_eq_some_iff.2 ⟨hbound, hc⟩]
    exact haccepts

lemma choice_sound (h : ∀ item ∈ items, g.Sound input steps item.value) :
    g.Sound input steps (.choice items) := by
  induction items with
  | nil =>
    intro start bound v hv
    cases hv
    exact .choice_nil
  | cons item items ih =>
    intro start bound v hv
    rw [List.forall_mem_cons] at h
    rw [outcome_run_choice_cons] at hv
    obtain ⟨w, hw, hv⟩ := Option.bind_eq_some_iff.1 hv
    cases w with
    | some stop =>
      cases hv
      exact .choice_here (h.1 hw)
    | none => exact .choice_there (h.1 hw) (ih h.2 hv)

lemma concat_sound (h : ∀ item ∈ items, g.Sound input steps item.value) :
    g.Sound input steps (.concat items) := by
  induction items with
  | nil =>
    intro start bound v hv
    cases hv
    exact .concat_nil
  | cons item items ih =>
    intro start bound v hv
    rw [List.forall_mem_cons] at h
    rw [outcome_run_concat_cons] at hv
    obtain ⟨w, hw, hv⟩ := Option.bind_eq_some_iff.1 hv
    cases w with
    | some stop =>
      exact .concat_cons (h.1 hw) (ih h.2 hv)
    | none =>
      cases hv
      exact .concat_refuse (h.1 hw)

lemma intersection_sound (h : ∀ item ∈ items, g.Sound input steps item.value) :
    g.Sound input steps (.intersection items) := by
  intro start bound v hv
  cases items with
  | nil =>
    cases hv
    exact .intersection_nil
  | cons item items =>
    rw [List.forall_mem_cons] at h
    rw [outcome_run_intersection_cons] at hv
    obtain ⟨w, hw, hv⟩ := Option.bind_eq_some_iff.1 hv
    cases w with
    | none =>
      cases hv
      exact .intersection_refuse (h.1 hw)
    | some stop =>
      obtain ⟨agree, hagree, rfl⟩ := Option.map_eq_some_iff.1 hv
      cases agree with
      | true =>
        rw [Matcher.agreeOn_eq_true_iff, List.forall_mem_map] at hagree
        exact .intersection_agree (h.1 hw) fun i hi => h.2 i hi (hagree i hi)
      | false =>
        -- the first item that differs is found among the outcomes, and then among the items
        obtain ⟨agreed, other, rest, w, heq, hagreed, hother, hne⟩ := Matcher.agreeOn_eq_false_iff.1 hagree
        obtain ⟨agreed, later, rfl, rfl, hlater⟩ := List.map_eq_append_iff.1 heq
        obtain ⟨other, rest, rfl, rfl, rfl⟩ := List.map_eq_cons_iff.1 hlater
        rw [List.forall_mem_map] at hagreed
        rw [List.forall_mem_append, List.forall_mem_cons] at h
        exact .intersection_differ (h.1 hw) (fun i hi => h.2.1 i hi (hagreed i hi)) (h.2.2.1 hother) hne

lemma difference_sound {exclude : Bool} (h : ∀ item ∈ items, g.Sound input steps item.value) :
    g.Sound input steps (.difference items exclude) := by
  intro start bound v hv
  cases items with
  | nil =>
    cases hv
    exact .difference_nil
  | cons item others =>
    rw [List.forall_mem_cons] at h
    rw [outcome_run_difference_cons] at hv
    obtain ⟨w, hw, hv⟩ := Option.bind_eq_some_iff.1 hv
    cases w with
    | none =>
      cases hv
      exact .difference_refuse (h.1 hw)
    | some stop =>
      obtain ⟨verdicts, hverdicts, rfl⟩ := Option.map_eq_some_iff.1 hv
      rw [Matcher.verdictsOf_eq_some_iff, List.forall₂_map_left_iff, List.forall₂_iff_zip] at hverdicts
      rw [alternating, List.foldr_map]
      refine .difference_cons (h.1 hw) hverdicts.1 fun x hx => ?_
      exact h.2 x.1 (List.of_mem_zip hx).1 (hverdicts.2 hx)

lemma rounds_sound (h : g.Sound input steps inner) {rounds least : Nat} {most : Option Nat} {v : Option Nat}
    (hmost : ∀ k ∈ most, max least k ≤ rounds)
    (hv : (Matcher.repetition (g.run input steps inner) least most rounds).outcome start bound = some v) :
    g.Parses input (.repetition inner least most) start bound v := by
  induction rounds generalizing least most start with
  | zero =>
    cases most with
    | none => cases hv
    | some k =>
      have hmost := hmost k rfl
      -- no rounds are left, so none is asked for and none is allowed
      obtain ⟨rfl, rfl⟩ : least = 0 ∧ k = 0 := by omega
      cases hv
      exact .repetition_full
  | succ rounds ih =>
    by_cases hroom : 0 < least ∨ most ≠ some 0
    · rw [Matcher.outcome_repetition_succ _ _ hroom] at hv
      obtain ⟨w, hw, hv⟩ := Option.bind_eq_some_iff.1 hv
      cases w with
      | none =>
        cases hv
        exact .repetition_refuse hroom (h hw)
      | some stop =>
        dsimp only at hv
        split at hv
        · rename_i hidle
          cases hv
          exact .repetition_idle hroom (h hw) hidle
        · rename_i hmove
          refine .repetition_go hroom (h hw) (Nat.lt_of_not_le hmove) (ih ?_ hv)
          intro k hk
          obtain ⟨k, hmem, rfl⟩ := Option.map_eq_some_iff.1 hk
          have := hmost k hmem
          omega
    · obtain ⟨hleast, hfull⟩ := not_or.1 hroom
      obtain rfl : least = 0 := by omega
      obtain rfl : most = some 0 := not_not.1 hfull
      cases hv
      exact .repetition_full

lemma repetition_sound (h : g.Sound input steps inner) (least : Nat) (most : Option Nat) :
    g.Sound input steps (.repetition inner least most) := by
  intro start bound v hv
  cases most with
  | none => exact rounds_sound h (by simp) hv
  | some k =>
    -- with an upper bound, any number of rounds may be allowed
    rw [outcome_run_repetition, Matcher.outcome_repetition_bounded _ _ _ _ (max least k)] at hv
    refine rounds_sound h (fun l hl => ?_) hv
    cases hl
    exact Nat.le_refl _

lemma conditional_sound {require : Bool} (h₁ : g.Sound input steps first)
    (h₂ : g.Sound input steps second) : g.Sound input steps (.conditional first second require) := by
  intro start bound v hv
  rw [outcome_run_conditional] at hv
  obtain ⟨w, hw, hv⟩ := Option.bind_eq_some_iff.1 hv
  cases w with
  | none =>
    cases hv
    exact .conditional_refuse (h₁ hw)
  | some stop =>
    obtain ⟨w, hw', rfl⟩ := Option.map_eq_some_iff.1 hv
    exact .conditional (h₁ hw) (h₂ hw')

lemma sound_of_holes (hh : ∀ id, g.Sound input steps (.hole id)) {p : Pattern α} (hp : p.EditFree) :
    g.Sound input steps p := by
  induction hp with
  | empty =>
    intro start bound v hv
    cases hv
    exact .empty
  | literal test => exact literal_sound test
  | choice _ ih => exact choice_sound ih
  | concat _ ih => exact concat_sound ih
  | intersection _ ih => exact intersection_sound ih
  | difference exclude _ ih => exact difference_sound ih
  | repetition least most _ ih => exact repetition_sound ih least most
  | conditional require _ _ ih₁ ih₂ => exact conditional_sound ih₁ ih₂
  | hole id => exact hh id
  | collapse _ ih =>
    intro start bound v hv
    rw [outcome_run_collapse] at hv
    exact .collapse (ih hv)
  | custom he => exact he.elim

/-- The outcome of every run follows from the rules, by induction on the steps that may be spent on holes. -/
theorem EditFree.sound (hg : g.EditFree) (input : Array α) (steps : Nat) {p : Pattern α} (hp : p.EditFree) :
    g.Sound input steps p := by
  induction steps generalizing p with
  | zero =>
    refine sound_of_holes (fun id start bound v hv => ?_) hp
    cases hv
  | succ steps ih =>
    refine sound_of_holes (fun id start bound v hv => ?_) hp
    cases hbody : g.body? id with
    | none =>
      rw [run_hole_of_unbound g input steps hbody] at hv
      cases hv
      exact .unbound hbody
    | some body =>
      rw [run_hole_of_body? g input steps hbody] at hv
      exact .hole hbody (ih (hg hbody) hv)

/-! ### Every judgement is met by a run -/

lemma outcome_mono {steps' start bound : Nat} {p : Pattern α} {v : Option Nat} (hsteps : steps ≤ steps')
    (h : (g.run input steps p).outcome start bound = some v) :
    (g.run input steps' p).outcome start bound = some v := by
  obtain ⟨a, ha, rfl⟩ := Matcher.outcome_eq_some_iff.1 h
  exact Matcher.outcome_eq_some (g.run_mono input p hsteps ha)

/-- Rounds that are made with some steps are made with more. -/
lemma outcome_repetition_mono {steps' rounds rounds' : Nat} {inner : Pattern α} {least : Nat} {most : Option Nat}
    {start bound : Nat} {v : Option Nat} (hsteps : steps ≤ steps') (hrounds : rounds ≤ rounds')
    (h : (Matcher.repetition (g.run input steps inner) least most rounds).outcome start bound = some v) :
    (Matcher.repetition (g.run input steps' inner) least most rounds').outcome start bound = some v := by
  obtain ⟨a, ha, rfl⟩ := Matcher.outcome_eq_some_iff.1 h
  exact Matcher.outcome_eq_some (g.repetition_mono input inner hsteps hrounds ha)

/-- From some number of steps on, a run comes to the outcome. -/
def Settles (g : Grammar α) (input : Array α) (p : Pattern α) (start bound : Nat) (v : Option Nat) : Prop :=
  ∀ᶠ steps in atTop, (g.run input steps p).outcome start bound = some v

section Settles

variable {p : Pattern α} {least : Nat} {most v w : Option Nat} {stop : Nat}

lemma settles_of_outcome (h : (g.run input steps p).outcome start bound = some v) : g.Settles input p start bound v :=
  eventually_atTop.2 ⟨steps, fun _ hsteps => outcome_mono hsteps h⟩

lemma literal_settles {test : CharTest α} {c : α} (hbound : start < bound) (hc : input[start]? = some c)
    (haccepts : test.accepts c) : g.Settles input (.literal test) start bound (some (start + 1)) := by
  refine .of_forall fun steps => ?_
  rw [outcome_run_literal, Matcher.charAt?_eq_some_iff.2 ⟨hbound, hc⟩, Option.any_some, if_pos haccepts]

lemma literal_settles_refused {test : CharTest α}
    (h : ∀ c, start < bound → input[start]? = some c → ¬ test.accepts c) :
    g.Settles input (.literal test) start bound none := by
  refine .of_forall fun steps => ?_
  rw [outcome_run_literal, if_neg]
  intro haccepts
  obtain ⟨c, hc, haccepts⟩ := (Option.any_eq_true _ _).1 haccepts
  obtain ⟨hbound, hc⟩ := Matcher.charAt?_eq_some_iff.1 hc
  exact h c hbound hc haccepts

lemma choice_settles (h : g.Settles input item.value start bound w)
    (hlater : match w with
      | some stop => v = some stop
      | none => g.Settles input (.choice items) start bound v) :
    g.Settles input (.choice (item :: items)) start bound v := by
  cases w with
  | some stop =>
    filter_upwards [h] with steps h
    rw [outcome_run_choice_cons, h, hlater]
    rfl
  | none =>
    filter_upwards [h, hlater] with steps h hlater
    rw [outcome_run_choice_cons, h]
    exact hlater

lemma concat_settles (h : g.Settles input item.value start bound w)
    (hlater : match w with
      | some stop => g.Settles input (.concat items) stop bound v
      | none => v = none) :
    g.Settles input (.concat (item :: items)) start bound v := by
  cases w with
  | some stop =>
    filter_upwards [h, hlater] with steps h hlater
    rw [outcome_run_concat_cons, h]
    exact hlater
  | none =>
    filter_upwards [h] with steps h
    rw [outcome_run_concat_cons, h, hlater]
    rfl

/-- Steps that are enough for each of some patterns are enough for all together. -/
lemma settles_forall {β : Type} {f : β → Pattern α} {verdict : β → Option Nat} {l : List β}
    (h : ∀ x ∈ l, g.Settles input (f x) start bound (verdict x)) :
    ∀ᶠ steps in atTop, ∀ x ∈ l, (g.run input steps (f x)).outcome start bound = some (verdict x) :=
  (eventually_all_finite l.finite_toSet).2 h

lemma intersection_settles_refused (h : g.Settles input item.value start bound none) :
    g.Settles input (.intersection (item :: items)) start bound none := by
  filter_upwards [h] with steps h
  rw [outcome_run_intersection_cons, h]
  rfl

lemma intersection_settles_agreed (h : g.Settles input item.value start bound (some stop))
    (hitems : ∀ i ∈ items, g.Settles input i.value start bound (some stop)) :
    g.Settles input (.intersection (item :: items)) start bound (some stop) := by
  filter_upwards [h, settles_forall hitems] with steps h hitems
  rw [outcome_run_intersection_cons, h]
  refine Option.map_eq_some_iff.2 ⟨true, Matcher.agreeOn_eq_true_iff.2 ?_, rfl⟩
  exact List.forall_mem_map.2 hitems

/-- The first item that comes to something else settles the matter, so that nothing need be known of those after it. -/
lemma intersection_settles_differed {other : Keyed (Pattern α)} {agreed rest : List (Keyed (Pattern α))}
    (h : g.Settles input item.value start bound (some stop))
    (hagreed : ∀ i ∈ agreed, g.Settles input i.value start bound (some stop))
    (hother : g.Settles input other.value start bound w) (hw : w ≠ some stop) :
    g.Settles input (.intersection (item :: (agreed ++ other :: rest))) start bound none := by
  filter_upwards [h, settles_forall hagreed, hother] with steps h hagreed hother
  rw [outcome_run_intersection_cons, h]
  refine Option.map_eq_some_iff.2 ⟨false, Matcher.agreeOn_eq_false_iff.2 ?_, rfl⟩
  exact ⟨_, _, _, _, List.map_append, List.forall_mem_map.2 hagreed, hother, hw⟩

lemma difference_settles_refused {exclude : Bool} (h : g.Settles input item.value start bound none) :
    g.Settles input (.difference (item :: items) exclude) start bound none := by
  filter_upwards [h] with steps h
  rw [outcome_run_difference_cons, h]
  rfl

lemma difference_settles {exclude : Bool} {verdicts : List (Option Nat)}
    (h : g.Settles input item.value start bound (some stop)) (hlength : items.length = verdicts.length)
    (hitems : ∀ x ∈ items.zip verdicts, g.Settles input x.1.value start stop x.2) :
    g.Settles input (.difference (item :: items) exclude) start bound
      (if exclude != verdicts.foldr (fun v vetoed => decide (v = some stop) && !vetoed) false
        then some stop else none) := by
  filter_upwards [h, settles_forall hitems] with steps h hitems
  rw [outcome_run_difference_cons, h]
  refine Option.map_eq_some_iff.2 ⟨verdicts, Matcher.verdictsOf_eq_some_iff.2 ?_, by rw [alternating, List.foldr_map]⟩
  rw [List.forall₂_map_left_iff, List.forall₂_iff_zip]
  exact ⟨hlength, fun hx => hitems _ hx⟩

/-- What a repetition comes to with one step more than its first round needs. -/
lemma outcome_run_repetition_succ (hroom : 0 < least ∨ most ≠ some 0)
    (h : (g.run input steps inner).outcome start bound = some w) :
    (g.run input (steps + 1) (.repetition inner least most)).outcome start bound =
      match w with
      | some stop =>
        if stop ≤ start then some (some start)
        else
          (Matcher.repetition (g.run input (steps + 1) inner) (least - 1) (most.map (· - 1)) steps).outcome stop bound
      | none => some (if least = 0 then some start else none) := by
  rw [outcome_run_repetition, Matcher.outcome_repetition_succ _ steps hroom, outcome_mono (Nat.le_succ steps) h]
  cases w with
  | none => rfl
  | some stop => rfl

lemma repetition_settles_refused (hroom : 0 < least ∨ most ≠ some 0) (h : g.Settles input inner start bound none) :
    g.Settles input (.repetition inner least most) start bound (if least = 0 then some start else none) := by
  obtain ⟨steps, h⟩ := h.exists
  exact settles_of_outcome (outcome_run_repetition_succ hroom h)

lemma repetition_settles_idle (hroom : 0 < least ∨ most ≠ some 0) (h : g.Settles input inner start bound (some stop))
    (hidle : stop ≤ start) : g.Settles input (.repetition inner least most) start bound (some start) := by
  obtain ⟨steps, h⟩ := h.exists
  exact settles_of_outcome ((outcome_run_repetition_succ hroom h).trans (if_pos hidle))

lemma repetition_settles (hroom : 0 < least ∨ most ≠ some 0) (h : g.Settles input inner start bound (some stop))
    (hmove : start < stop)
    (hlater : g.Settles input (.repetition inner (least - 1) (most.map (· - 1))) stop bound v) :
    g.Settles input (.repetition inner least most) start bound v := by
  obtain ⟨steps, h, hlater⟩ := (h.and hlater).exists
  have hround := (outcome_run_repetition_succ hroom h).trans (if_neg (Nat.not_le.2 hmove))
  -- the rounds that are left are made with one step less, and what is repeated with as many as the first
  have hrest := outcome_repetition_mono (Nat.le_succ steps) (Nat.le_refl steps) hlater
  exact settles_of_outcome (hround.trans hrest)

lemma conditional_settles_refused {require : Bool} (h : g.Settles input first start bound none) :
    g.Settles input (.conditional first second require) start bound none := by
  filter_upwards [h] with steps h
  rw [outcome_run_conditional, h]
  rfl

lemma conditional_settles {require : Bool} (h : g.Settles input first start bound (some stop))
    (hsecond : g.Settles input second start stop w) :
    g.Settles input (.conditional first second require) start bound
      (if decide (w = some stop) = require then some stop else none) := by
  filter_upwards [h, hsecond] with steps h hsecond
  rw [outcome_run_conditional, h]
  exact Option.map_eq_some_iff.2 ⟨w, hsecond, rfl⟩

/-- Looking up a body takes a step of its own. -/
lemma hole_settles {id : Nat} {body : Pattern α} (hbody : g.body? id = some body)
    (h : g.Settles input body start bound v) : g.Settles input (.hole id) start bound v := by
  obtain ⟨steps, h⟩ := h.exists
  rw [← run_hole_of_body? g input steps hbody] at h
  exact settles_of_outcome h

lemma hole_settles_unbound {id : Nat} (hbody : g.body? id = none) : g.Settles input (.hole id) start bound none := by
  have h : (g.run input 1 (.hole id)).outcome start bound = some none := by
    rw [run_hole_of_unbound g input 0 hbody]
    rfl
  exact settles_of_outcome h

end Settles

/-- What follows from the rules is what runs settle on, by induction on the derivation. -/
theorem Parses.settles {p : Pattern α} {v : Option Nat} (h : g.Parses input p start bound v) :
    g.Settles input p start bound v := by
  induction h with
  | empty | choice_nil | concat_nil | intersection_nil | difference_nil => exact .of_forall fun _ => rfl
  | repetition_full => exact .of_forall fun _ => rfl
  | literal hbound hc haccepts => exact literal_settles hbound hc haccepts
  | literal_refuse h => exact literal_settles_refused h
  | choice_here _ ih => exact choice_settles ih rfl
  | choice_there _ _ ih₁ ih₂ => exact choice_settles ih₁ ih₂
  | concat_refuse _ ih => exact concat_settles ih rfl
  | concat_cons _ _ ih₁ ih₂ => exact concat_settles ih₁ ih₂
  | intersection_refuse _ ih => exact intersection_settles_refused ih
  | intersection_agree _ _ ih ihs => exact intersection_settles_agreed ih ihs
  | intersection_differ _ _ _ hv ih ihs ih' => exact intersection_settles_differed ih ihs ih' hv
  | difference_refuse _ ih => exact difference_settles_refused ih
  | difference_cons _ hlength _ ih ihs => exact difference_settles ih hlength ihs
  | repetition_refuse hroom _ ih => exact repetition_settles_refused hroom ih
  | repetition_idle hroom _ hidle ih => exact repetition_settles_idle hroom ih hidle
  | repetition_go hroom _ hmove _ ih ih' => exact repetition_settles hroom ih hmove ih'
  | conditional_refuse _ ih => exact conditional_settles_refused ih
  | conditional _ _ ih₁ ih₂ => exact conditional_settles ih₁ ih₂
  | hole hbody _ ih => exact hole_settles hbody ih
  | unbound hbody => exact hole_settles_unbound hbody
  | collapse _ ih =>
    filter_upwards [ih] with steps ih
    rwa [outcome_run_collapse]

end Grammar

/-- The runs of a pattern without edits come to what the rules give: there is an answer with enough steps if and only
if the rules give one, and then the rules give nothing but the stop of the attempt if it succeeded, and failure
otherwise. -/
theorem run_iff_parses {g : Grammar α} {p : Pattern α} (hg : g.EditFree) (hp : p.EditFree) (input : Array α)
    (start bound : Nat) :
    ((∃ steps, (g.run input steps p start bound).isSome) ↔ ∃ v, g.Parses input p start bound v) ∧
    ∀ steps a, g.run input steps p start bound = some a →
      ∀ v, g.Parses input p start bound v ↔ v = if a.success then some a.record.stop else none := by
  have hexact : ∀ steps a, g.run input steps p start bound = some a →
      ∀ v, g.Parses input p start bound v ↔ v = a.outcome := by
    intro steps a ha v
    constructor
    · intro hv
      obtain ⟨n, hn⟩ := hv.settles.exists
      obtain ⟨b, hb, rfl⟩ := Matcher.outcome_eq_some_iff.1 hn
      rw [g.run_unique input p ha hb]
    · rintro rfl
      exact hg.sound input steps hp (Matcher.outcome_eq_some ha)
  refine ⟨⟨?_, ?_⟩, hexact⟩
  · rintro ⟨steps, hsome⟩
    obtain ⟨a, ha⟩ := Option.isSome_iff_exists.1 hsome
    exact ⟨a.outcome, (hexact steps a ha _).2 rfl⟩
  · rintro ⟨v, hv⟩
    obtain ⟨n, hn⟩ := hv.settles.exists
    obtain ⟨a, ha, _⟩ := Matcher.outcome_eq_some_iff.1 hn
    exact ⟨n, by rw [ha]; rfl⟩

/-- A pair of parentheses is not followed by what should follow it: the attempt came to the end of the input, and by the
rules it fails and nothing else. -/
theorem parens_iff_parses :
    ∃ a, Grammar.parens.run #['(', ')', 'y'] 3 (.concat [.plain (.hole 0), .plain (.one 'x')]) 0 3 = some a ∧
      a.record.stop = 3 ∧ ∀ v, Grammar.parens.Parses #['(', ')', 'y']
        (.concat [.plain (.hole 0), .plain (.one 'x')]) 0 3 v ↔ v = none := by
  have hrun : (Grammar.parens.run #['(', ')', 'y'] 3 (.concat [.plain (.hole 0), .plain (.one 'x')]) 0 3).any
      (fun a => !a.success && a.record.stop = 3) := by decide +kernel
  obtain ⟨a, ha, hstop⟩ := (Option.any_eq_true _ _).1 hrun
  simp only [Bool.and_eq_true, Bool.not_eq_true', decide_eq_true_eq] at hstop
  have hp : (Pattern.concat [.plain (.hole 0), .plain (.one 'x')]).EditFree := by
    simp [Pattern.EditFree, Pattern.one, Keyed.plain]
  have hmain := (run_iff_parses Grammar.editFree_parens hp _ 0 3).2 3 a ha
  simp only [hstop.1, Bool.false_eq_true, if_false] at hmain
  exact ⟨a, ha, hstop.2, hmain⟩

end PegTrace
