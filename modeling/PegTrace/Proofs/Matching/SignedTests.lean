import PegTrace.Proofs.Matching.Ends
import PegTrace.Proofs.Matching.Exclusion

/-!
# Exclusions of characters

The nested exclusion "the first, but not (the second, but not …)" is read of the tests of one character and of the items
of a difference. For a difference of single characters it comes to the same ends whether the tests are put together
or the patterns are, also where a character is refused and where there is none (`run_signed_eq_difference`).
-/

namespace PegTrace

variable {α : Type} [DecidableEq α] [LE α] [DecidableLE α]

/-- The tests that accept the character, up to the first that does not, decide by their number. -/
lemma CharTest.accepts_signed (tests : List (CharTest α)) (negate : Bool) (c : α) :
    (signed tests negate).accepts c = (decide (Odd (tests.takeWhile (·.accepts c)).length) != negate) := by
  rw [accepts, verdicts_eq_map, alternating_eq, List.takeWhile_map, List.length_map]
  rfl

/-- The attempt at a single character that was there to be read. -/
def Attempt.reading (start : Nat) (verdict : Bool) : Attempt :=
  ⟨verdict, .span ⟨start, start + 1, start + 1⟩, .event (.read start)⟩

lemma Attempt.covers_reading (start : Nat) (verdict : Bool) : (reading start verdict).covers (start + 1) = verdict := by
  simp [covers, reading, stop, Record.stop, Record.extent]

namespace Matcher

variable {input : Array α} {start bound : Nat} {c : α}

/-! ### Single characters -/

lemma literal_of_charAt? (h : charAt? input start bound = some c) (test : CharTest α) :
    literal input test start bound = some (.reading start (test.accepts c)) := by
  rw [literal, h]
  rfl

lemma literal_of_charAt?_eq_none (h : charAt? input start bound = none) (test : CharTest α) :
    literal input test start bound = some ⟨false, .empty start, .event (.exhausted start)⟩ := by
  rw [literal, h]

/-- The attempts at the character that some tests are made of. -/
def readings (start : Nat) (c : α) (tests : List (Keyed (CharTest α))) : List (Keyed Attempt) :=
  tests.map (·.map fun test => .reading start (test.accepts c))

lemma tryEach_literals (h : charAt? input start bound = some c) (tests : List (Keyed (CharTest α))) :
    tryEach start bound (tests.map (·.map (literal input))) = some (readings start c tests) := by
  induction tests with
  | nil => rfl
  | cons test tests ih =>
    rw [List.map_cons, tryEach, ih]
    simp only [Keyed.map, literal_of_charAt? h]
    rfl

lemma map_covers_readings (start : Nat) (c : α) (tests : List (Keyed (CharTest α))) :
    (readings start c tests).map (·.value.covers (start + 1)) = (tests.map Keyed.value).map (CharTest.accepts c) := by
  rw [readings, List.map_map, List.map_map]
  exact List.map_congr_left fun test _ => Attempt.covers_reading start (test.value.accepts c)

/-- Characters that are read at one place reach one past it. -/
lemma reachOf_readings_le (start : Nat) (c : α) (tests : List (Keyed (CharTest α))) :
    reachOf start (readings start c tests) ≤ start + 1 := by
  rw [reachOf, Record.farthest_le_iff, readings, List.map_map, List.forall_mem_map]
  exact ⟨Nat.le_succ start, fun _ _ => Nat.le_refl _⟩

/-! ### Difference -/

variable {first : Keyed (CharTest α)} {others : List (Keyed (CharTest α))}

/-- A difference of single characters reads the character once for each of them, the last one first. -/
lemma ends_difference_of_accepted (h : charAt? input start bound = some c) (hs : first.value.accepts c) :
    (difference ((first :: others).map (·.map (literal input))) true).ends start bound =
      some (!alternating ((others.map Keyed.value).map (CharTest.accepts c)), start + 1, start + 1) := by
  have hbase : (first.map (literal input)).value start bound = some (.reading start true) := by
    rw [← hs]
    exact literal_of_charAt? h first.value
  -- the base stops right after its character, so the others find it before their bound
  have hagain : charAt? input start (start + 1) = some c :=
    charAt?_eq_some_iff.2 ⟨Nat.lt_succ_self start, (charAt?_eq_some_iff.1 h).2⟩
  have htried : tryEach start (Attempt.reading start true).stop (others.map (·.map (literal input))).reverse =
      some (readings start c others).reverse := by
    rw [readings, ← List.map_reverse, ← List.map_reverse]
    exact tryEach_literals hagain others.reverse
  -- no other test reaches farther
  have hreach : reachOf start (⟨first.key, .reading start true⟩ :: readings start c others) ≤ start + 1 := by
    rw [← hs]
    exact reachOf_readings_le start c (first :: others)
  have hstop : (Attempt.reading start true).stop = start + 1 := rfl
  rw [List.map_cons, ends, difference_of_success hbase rfl, htried, Option.map_some, Option.map_some,
    List.reverse_reverse, hstop, map_covers_readings, Bool.true_bne]
  exact congrArg (fun reach => some (_, start + 1, reach)) (Nat.max_eq_right hreach)

/-- Where there is no character both fail in the same way, and otherwise both take the nested exclusion of the verdicts
on it. -/
lemma ends_signed_eq_difference (input : Array α) (start bound : Nat) (first : Keyed (CharTest α))
    (others : List (Keyed (CharTest α))) :
    (literal input (.signed ((first :: others).map Keyed.value) false)).ends start bound =
      (difference ((first :: others).map (·.map (literal input))) true).ends start bound := by
  cases h : charAt? input start bound with
  | none =>
    have hnone := literal_of_charAt?_eq_none h
    rw [ends_eq_some (hnone _), List.map_cons]
    exact (ends_eq_some (difference_of_failure (hnone first.value) (by simp) _ true)).symm
  | some c =>
    have haccepts : (CharTest.signed ((first :: others).map Keyed.value) false).accepts c =
        (first.value.accepts c && !alternating ((others.map Keyed.value).map (CharTest.accepts c))) := by
      rw [CharTest.accepts, CharTest.verdicts_eq_map, List.map_cons, List.map_cons, alternating_cons, Bool.bne_false]
    rw [ends_eq_some (literal_of_charAt? h _), haccepts]
    have hbase := literal_of_charAt? h first.value
    cases hs : first.value.accepts c with
    | true =>
      rw [ends_difference_of_accepted h hs]
      rfl
    | false =>
      rw [hs] at hbase
      -- the first test refuses the character, and the others are not asked
      exact (ends_eq_some (difference_of_failure hbase Bool.false_ne_true _ true)).symm

end Matcher

/-- A character that passes the nested exclusion of some tests is matched with the same ends as the difference of the
characters that pass each of them, and both give an answer with any number of steps. A nested exclusion of tests accepts
a character if the number of tests that accept it before one of them does not is odd or, negated, even. -/
theorem run_signed_eq_difference (g : Grammar α) (first : Keyed (CharTest α)) (others : List (Keyed (CharTest α)))
    (input : Array α) (steps start bound : Nat) :
    (∃ a b, g.run input steps (.signed ((first :: others).map Keyed.value) false) start bound = some a ∧
      g.run input steps (.difference ((first :: others).map (·.map .literal)) true) start bound = some b ∧
      a.ends = b.ends) ∧
    ∀ (tests : List (CharTest α)) (negate : Bool) (c : α), (CharTest.signed tests negate).accepts c =
      (decide (Odd (tests.takeWhile (·.accepts c)).length) != negate) := by
  refine ⟨?_, CharTest.accepts_signed⟩
  obtain ⟨a, ha⟩ := Matcher.literal_answersFrom input (.signed ((first :: others).map Keyed.value) false) start
    (Nat.le_refl start) bound
  have hmatchers : Pattern.matchers input (g.holes input steps) steps ((first :: others).map (·.map .literal)) =
      (first :: others).map (·.map (Matcher.literal input)) := by
    rw [Pattern.matchers_eq_map, List.map_map]
    rfl
  have hends := Matcher.ends_signed_eq_difference input start bound first others
  rw [← hmatchers, Matcher.ends, ha] at hends
  obtain ⟨b, hb, hsame⟩ := Option.map_eq_some_iff.1 hends.symm
  exact ⟨a, b, ha, hb, hsame.symm⟩

end PegTrace
