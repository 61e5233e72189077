/-!
# Tests of a single character

A test accepts or refuses one character of any ordered alphabet. Tests combine: any of several, all of several, and
the nested exclusion "the first, but not (the second, but not (the third …))".
-/

namespace PegTrace

/-- Reads a list of verdicts as a nested exclusion, "the first, but not (the second, but not …)". -/
def alternating (verdicts : List Bool) : Bool :=
  verdicts.foldr (fun verdict rest => verdict && !rest) false

/-- A test of one character. -/
inductive CharTest (α : Type) where
  /-- The character itself. -/
  | equals (c : α)
  /-- The characters from the first to the last, both included. -/
  | range (first last : α)
  /-- One of the listed characters. -/
  | set (chars : List α)
  /-- The characters of which a labelled property holds. -/
  | predicate (label : String) (holds : α → Bool)
  /-- What one of the tests accepts. -/
  | any (tests : List (CharTest α))
  /-- What every test accepts. -/
  | all (tests : List (CharTest α))
  /-- What the nested exclusion of the tests accepts or, negated, refuses. -/
  | signed (tests : List (CharTest α)) (negate : Bool)

namespace CharTest

variable {α : Type}

/-- Accepts what the test refuses. -/
def negated (t : CharTest α) : CharTest α :=
  signed [t] true

variable [DecidableEq α] [LE α] [DecidableLE α]

mutual

/-- Whether the test accepts the character. -/
def accepts (c : α) : CharTest α → Bool
  | equals d => d = c
  | range first last => first ≤ c && c ≤ last
  | set chars => chars.contains c
  | predicate _ holds => holds c
  | any tests => (verdicts c tests).any id
  | all tests => (verdicts c tests).all id
  | signed tests negate => alternating (verdicts c tests) != negate

/-- What each of the tests says of the character. -/
def verdicts (c : α) : List (CharTest α) → List Bool
  | [] => []
  | t :: tests => t.accepts c :: verdicts c tests

end

/-- The verdicts are those of the single tests. -/
@[simp] theorem verdicts_eq_map (c : α) (tests : List (CharTest α)) :
    verdicts c tests = tests.map (accepts c) := by
  induction tests with
  | nil => rfl
  | cons t tests ih => simp [verdicts, ih]

end CharTest

end PegTrace
