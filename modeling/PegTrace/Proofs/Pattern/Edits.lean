import Mathlib.Tactic.Common
import PegTrace.Grammar
import PegTrace.Pattern.Derived

/-!
# The edits in a pattern

A pattern may edit the records that its parts leave, and what holds of all patterns without edits holds of those with
well-behaved ones too. `Pattern.AllEdits E p` says that every edit in `p` satisfies `E`. Its rules are the kinds of
patterns, so that an induction on it is an induction on the pattern that meets no other edits.
-/

namespace PegTrace

variable {α : Type} {E : (Record → Record) → Prop}

/-- Every edit in the pattern satisfies `E`. -/
inductive Pattern.AllEdits (E : (Record → Record) → Prop) : Pattern α → Prop
  | empty : AllEdits E .empty
  | literal (test : CharTest α) : AllEdits E (.literal test)
  | choice {items : List (Keyed (Pattern α))} (h : ∀ item ∈ items, AllEdits E item.value) :
      AllEdits E (.choice items)
  | concat {items : List (Keyed (Pattern α))} (h : ∀ item ∈ items, AllEdits E item.value) :
      AllEdits E (.concat items)
  | intersection {items : List (Keyed (Pattern α))} (h : ∀ item ∈ items, AllEdits E item.value) :
      AllEdits E (.intersection items)
  | difference {items : List (Keyed (Pattern α))} (exclude : Bool)
      (h : ∀ item ∈ items, AllEdits E item.value) : AllEdits E (.difference items exclude)
  | repetition {inner : Pattern α} (least : Nat) (most : Option Nat) (h : AllEdits E inner) :
      AllEdits E (.repetition inner least most)
  | conditional {first second : Pattern α} (require : Bool) (h₁ : AllEdits E first)
      (h₂ : AllEdits E second) : AllEdits E (.conditional first second require)
  | hole (id : Nat) : AllEdits E (.hole id)
  | collapse {inner : Pattern α} (h : AllEdits E inner) : AllEdits E (.collapse inner)
  | custom {base : Pattern α} {edit : Record → Record} (he : E edit) (h : AllEdits E base) :
      AllEdits E (.custom base edit)

/-- The pattern edits no records. -/
def Pattern.EditFree (p : Pattern α) : Prop :=
  p.AllEdits fun _ => False

/-- Every edit in the body of a hole satisfies `E`. -/
def Grammar.AllEdits (E : (Record → Record) → Prop) (g : Grammar α) : Prop :=
  ∀ ⦃id body⦄, g.body? id = some body → body.AllEdits E

/-- No body of a hole edits records. -/
def Grammar.EditFree (g : Grammar α) : Prop :=
  g.AllEdits fun _ => False

/-! ### The edits of each kind of pattern -/

namespace Pattern

variable {items : List (Keyed (Pattern α))} {inner first second : Pattern α}

@[simp] lemma allEdits_empty : (empty : Pattern α).AllEdits E := .empty

@[simp] lemma allEdits_literal (test : CharTest α) : (literal test).AllEdits E := .literal test

@[simp] lemma allEdits_hole (id : Nat) : (hole id : Pattern α).AllEdits E := .hole id

@[simp] lemma allEdits_choice_iff : (choice items).AllEdits E ↔ ∀ item ∈ items, item.value.AllEdits E := by
  constructor
  · intro h
    cases h
    assumption
  · exact .choice

@[simp] lemma allEdits_concat_iff : (concat items).AllEdits E ↔ ∀ item ∈ items, item.value.AllEdits E := by
  constructor
  · intro h
    cases h
    assumption
  · exact .concat

@[simp] lemma allEdits_intersection_iff :
    (intersection items).AllEdits E ↔ ∀ item ∈ items, item.value.AllEdits E := by
  constructor
  · intro h
    cases h
    assumption
  · exact .intersection

@[simp] lemma allEdits_difference_iff {exclude : Bool} :
    (difference items exclude).AllEdits E ↔ ∀ item ∈ items, item.value.AllEdits E := by
  constructor
  · intro h
    cases h
    assumption
  · exact .difference exclude

@[simp] lemma allEdits_repetition_iff {least : Nat} {most : Option Nat} :
    (repetition inner least most).AllEdits E ↔ inner.AllEdits E := by
  constructor
  · intro h
    cases h
    assumption
  · exact .repetition least most

@[simp] lemma allEdits_conditional_iff {require : Bool} :
    (conditional first second require).AllEdits E ↔ first.AllEdits E ∧ second.AllEdits E := by
  constructor
  · intro h
    cases h
    exact ⟨‹_›, ‹_›⟩
  · rintro ⟨h₁, h₂⟩
    exact .conditional require h₁ h₂

@[simp] lemma allEdits_collapse_iff : (collapse inner).AllEdits E ↔ inner.AllEdits E := by
  constructor
  · intro h
    cases h
    assumption
  · exact .collapse

@[simp] lemma allEdits_custom_iff {edit : Record → Record} :
    (custom inner edit).AllEdits E ↔ E edit ∧ inner.AllEdits E := by
  constructor
  · intro h
    cases h
    exact ⟨‹_›, ‹_›⟩
  · rintro ⟨he, h⟩
    exact .custom he h

end Pattern

/-! ### Weaker demands -/

lemma Pattern.AllEdits.mono {F : (Record → Record) → Prop} (hEF : ∀ edit, E edit → F edit)
    {p : Pattern α} (h : p.AllEdits E) : p.AllEdits F := by
  induction h with
  | empty => exact .empty
  | literal test => exact .literal test
  | choice _ ih => exact .choice ih
  | concat _ ih => exact .concat ih
  | intersection _ ih => exact .intersection ih
  | difference exclude _ ih => exact .difference exclude ih
  | repetition least most _ ih => exact .repetition least most ih
  | conditional require _ _ ih₁ ih₂ => exact .conditional require ih₁ ih₂
  | hole id => exact .hole id
  | collapse _ ih => exact .collapse ih
  | custom he _ ih => exact .custom (hEF _ he) ih

lemma Pattern.sizeOf_value_lt {item : Keyed (Pattern α)} {items : List (Keyed (Pattern α))}
    (h : item ∈ items) : sizeOf item.value < sizeOf items := by
  have := List.sizeOf_lt_of_mem h
  obtain ⟨key, value⟩ := item
  simp only [Keyed.mk.sizeOf_spec] at this ⊢
  omega

/-- Nothing is asked of a pattern if nothing is asked of edits. -/
lemma Pattern.allEdits_of_forall (hE : ∀ edit, E edit) (p : Pattern α) : p.AllEdits E := by
  match p with
  | .empty => exact .empty
  | .literal test => exact .literal test
  | .choice items =>
    -- the items stand in a list, so each call shows that its item is smaller
    refine .choice fun item hitem => ?_
    have := sizeOf_value_lt hitem
    exact allEdits_of_forall hE item.value
  | .concat items =>
    refine .concat fun item hitem => ?_
    have := sizeOf_value_lt hitem
    exact allEdits_of_forall hE item.value
  | .intersection items =>
    refine .intersection fun item hitem => ?_
    have := sizeOf_value_lt hitem
    exact allEdits_of_forall hE item.value
  | .difference items exclude =>
    refine .difference exclude fun item hitem => ?_
    have := sizeOf_value_lt hitem
    exact allEdits_of_forall hE item.value
  | .repetition inner least most => exact .repetition least most (allEdits_of_forall hE inner)
  | .conditional first second require =>
    exact .conditional require (allEdits_of_forall hE first) (allEdits_of_forall hE second)
  | .hole id => exact .hole id
  | .collapse inner => exact .collapse (allEdits_of_forall hE inner)
  | .custom base edit => exact .custom (hE edit) (allEdits_of_forall hE base)
termination_by sizeOf p
decreasing_by
  all_goals simp only [choice.sizeOf_spec, concat.sizeOf_spec, intersection.sizeOf_spec,
    difference.sizeOf_spec, repetition.sizeOf_spec, conditional.sizeOf_spec, collapse.sizeOf_spec,
    custom.sizeOf_spec]
  all_goals omega

/-! ### A grammar without edits -/

/-- Parentheses in parentheses, or nothing. -/
def Grammar.parens : Grammar Char where
  bodies := #[some (.optional (.concat [.plain (.one '('), .named "inner" (.hole 0), .plain (.one ')')]))]

lemma Grammar.editFree_parens : parens.EditFree := by
  intro id body h
  match id with
  | 0 =>
    cases h
    simp [Pattern.optional, Pattern.one, Keyed.plain, Keyed.named]
  | id + 1 => simp [body?, parens] at h

end PegTrace
