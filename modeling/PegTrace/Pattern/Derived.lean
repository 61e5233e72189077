import PegTrace.CharClass
import PegTrace.Pattern.Basic

/-!
# Derived patterns

The patterns that grammars are made of, in terms of the basic ones.
-/

namespace PegTrace

namespace Pattern

variable {α : Type}

/-! ### One character -/

/-- The character `c`. -/
def one (c : α) : Pattern α :=
  literal (.equals c)

/-- One of the given characters. -/
def oneOf (chars : List α) : Pattern α :=
  literal (.set chars)

/-- A character from the first to the last. -/
def range (first last : α) : Pattern α :=
  literal (.range first last)

/-- A character of which a labelled property holds. -/
def predicate (label : String) (holds : α → Bool) : Pattern α :=
  literal (.predicate label holds)

/-- A character that one of the tests accepts. -/
def any (tests : List (CharTest α)) : Pattern α :=
  literal (.any tests)

/-- A character that every test accepts. -/
def all (tests : List (CharTest α)) : Pattern α :=
  literal (.all tests)

/-- A character that the nested exclusion of the tests accepts or, negated, refuses. -/
def signed (tests : List (CharTest α)) (negate : Bool) : Pattern α :=
  literal (.signed tests negate)

/-- A character of the class of the given name. -/
def ofClassName (name : String) : Except UnknownClass (Pattern Char) :=
  literal <$> CharTest.ofClassName name

/-! ### Several characters -/

/-- The given characters, one after the other. -/
def sequence (chars : List α) : Pattern α :=
  concat (chars.map fun c => .plain (one c))

/-- The given text. -/
def text (s : String) : Pattern Char :=
  sequence s.toList

/-- The character `c` in either case, where case is that of the plain Latin letters. -/
def oneIgnoringCase (c : Char) : Pattern Char :=
  if c.toLower = c.toUpper then one c else oneOf [c.toLower, c.toUpper]

/-- The given text, each plain Latin letter in either case. -/
def textIgnoringCase (s : String) : Pattern Char :=
  concat (s.toList.map fun c => .plain (oneIgnoringCase c))

/-! ### Repetition -/

/-- Between `least` and `most` repetitions; an upper bound below the lower one is raised to it. -/
def times (p : Pattern α) (least : Nat) (most : Option Nat) : Pattern α :=
  repetition p least (most.map (max least))

/-- Any number of repetitions. -/
def star (p : Pattern α) : Pattern α :=
  repetition p 0 none

/-- The pattern or nothing. -/
def optional (p : Pattern α) : Pattern α :=
  choice [.plain p, .plain empty]

/-- One repetition or more. -/
def oneOrMore (p : Pattern α) : Pattern α :=
  concat [.plain p, .plain p.star]

/-! ### Conditions -/

/-- The first pattern, provided that the second covers the same stretch. -/
def provided (first second : Pattern α) : Pattern α :=
  conditional first second true

/-- The first pattern, provided that the second does not cover the same stretch. -/
def excluding (first second : Pattern α) : Pattern α :=
  conditional first second false

end Pattern

end PegTrace
