import Mathlib.Tactic.Common
import PegTrace.Text.Lines

/-!
# Lines without their endings

How a text is broken into lines can be said without going through it: `Broken` puts a line in front of a text that is
broken already, with an ending between them. A carriage return with a line feed after it is one ending and not two. The
lines of a text without their endings are those that it is broken into (`broken_lines`).
-/

namespace PegTrace.Text

/-- A line feed or a carriage return. -/
def IsBreak (c : Char) : Prop :=
  c = '\n' ∨ c = '\r'

/-- What ends a line in front of the rest of a text. -/
def Ending (ending rest : List Char) : Prop :=
  ending = ['\n'] ∨ ending = ['\r', '\n'] ∨ ending = ['\r'] ∧ rest.head? ≠ some '\n'

/-- A text and its lines without their endings. -/
inductive Broken : List Char → List (List Char) → Prop
  | last {content : List Char} (hcontent : ∀ c ∈ content, ¬ IsBreak c) : Broken content [content]
  | line {content ending rest : List Char} {later : List (List Char)} (hcontent : ∀ c ∈ content, ¬ IsBreak c)
      (hending : Ending ending rest) (hrest : Broken rest later) :
      Broken (content ++ ending ++ rest) (content :: later)

/-- An ending right in front of a text ends an empty line. -/
lemma Broken.ending {ending rest : List Char} {later : List (List Char)} (hending : Ending ending rest)
    (hrest : Broken rest later) : Broken (ending ++ rest) ([] :: later) :=
  .line (List.forall_mem_nil _) hending hrest

/-- A character that is no break belongs to the first line. -/
lemma Broken.cons {c : Char} {text content : List Char} {later : List (List Char)} (hc : ¬ IsBreak c)
    (h : Broken text (content :: later)) : Broken (c :: text) ((c :: content) :: later) := by
  cases h with
  | last hcontent => exact .last (List.forall_mem_cons.2 ⟨hc, hcontent⟩)
  | line hcontent hending hrest => exact .line (List.forall_mem_cons.2 ⟨hc, hcontent⟩) hending hrest

lemma trimEnding_cons {c : Char} (hc : ¬ IsBreak c) (line : List Char) :
    trimEnding (c :: line) = c :: trimEnding line := by
  have hkeep : ¬ (c = '\n' ∨ c = '\r') := hc
  simp only [trimEnding, List.reverse_cons, List.dropWhile_append]
  split
  · rename_i hempty
    rw [List.isEmpty_iff.1 hempty, List.dropWhile_cons, decide_eq_false hkeep]
    rfl
  · exact List.reverse_concat ..

lemma trimEnding_singleton {c : Char} (hc : IsBreak c) : trimEnding [c] = [] := by
  rcases hc with rfl | rfl
  · rfl
  · rfl

/-- The lines of a text are those that it is broken into. -/
lemma broken_lines (text : List Char) : Broken text ((lines text).map trimEnding) := by
  fun_induction lines text with
  | case1 => exact .last (by simp)
  | case2 rest ih => exact .ending (.inr (.inl rfl)) ih
  | case3 c rest hpair hbreak ih =>
    rw [List.map_cons, trimEnding_singleton hbreak]
    refine .ending (show Ending [c] rest from ?_) ih
    -- a return ends a line only where no feed follows, and a pair was the case before
    rcases hbreak with rfl | rfl
    · exact .inl rfl
    · refine .inr (.inr ⟨rfl, ?_⟩)
      intro hhead
      obtain ⟨later, rfl⟩ := List.head?_eq_some_iff.1 hhead
      exact hpair later rfl rfl
  | case4 c rest _ hbreak ih =>
    -- every text has a first line, and the character joins it
    cases hlines : lines rest with
    | nil =>
      rw [hlines] at ih
      cases ih
    | cons line later =>
      rw [hlines] at ih
      rw [consFirst, List.map_cons, trimEnding_cons hbreak]
      exact ih.cons hbreak

end PegTrace.Text
