import PegTrace.Grammar
import PegTrace.Text.Quoted

/-!
# Patterns as text

A pattern is shown on one line, from the outside in, with the name of each kind of pattern and its fields. Of a property
only the label is shown, of a hole only whether it is bound, and of an edit nothing.
-/

namespace PegTrace

/-- An alphabet whose characters can be shown. -/
class ShowSymbol (α : Type) where
  /-- How a character is shown. -/
  showSymbol : α → String

instance : ShowSymbol Char where
  showSymbol := Text.quoteChar

instance : ShowSymbol Int where
  showSymbol := toString

open ShowSymbol

namespace Outline

/-- Names a value with fields in braces. -/
def fields (name : String) (parts : List String) : String :=
  name ++ " \x7b " ++ ", ".intercalate parts ++ " \x7d"

/-- Shows values between square brackets. -/
def bracketed (parts : List String) : String :=
  "[" ++ ", ".intercalate parts ++ "]"

/-- Shows a truth value. -/
def truth (b : Bool) : String :=
  if b then "true" else "false"

/-- Shows a value that may be absent. -/
def perhaps (value : Option String) : String :=
  match value with
  | none => "None"
  | some value => "Some(" ++ value ++ ")"

end Outline

open Outline

variable {α : Type} [ShowSymbol α]

namespace CharTest

mutual

/-- The test on one line. -/
def outline : CharTest α → String
  | equals c => "Equals(" ++ showSymbol c ++ ")"
  | range first last => "Range(" ++ showSymbol first ++ ", " ++ showSymbol last ++ ")"
  | set chars => "Set(" ++ bracketed (chars.map showSymbol) ++ ")"
  | predicate label _ => "Predicate(Predicate(" ++ label ++ "))"
  | any tests => "Any(" ++ bracketed (outlines tests) ++ ")"
  | all tests => "All(" ++ bracketed (outlines tests) ++ ")"
  | signed tests negate =>
    fields "Signed" ["tests: " ++ bracketed (outlines tests), "negate: " ++ truth negate]

/-- Each of the tests on one line. -/
def outlines : List (CharTest α) → List String
  | [] => []
  | t :: tests => t.outline :: outlines tests

end

end CharTest

namespace Pattern

mutual

/-- The pattern on one line, where `bound` says which holes have a body. -/
def outline (bound : Nat → Bool) : Pattern α → String
  | empty => "Empty"
  | literal test => fields "Literal" ["test: " ++ test.outline]
  | choice items => fields "Choice" ["items: " ++ bracketed (outlines bound items)]
  | concat items => fields "Concat" ["items: " ++ bracketed (outlines bound items)]
  | intersection items => fields "Intersection" ["items: " ++ bracketed (outlines bound items)]
  | difference items exclude =>
    fields "Difference" ["items: " ++ bracketed (outlines bound items), "exclude: " ++ truth exclude]
  | repetition inner least most =>
    fields "Kleene" ["inner: " ++ inner.outline bound, "min: " ++ toString least,
      "max: " ++ perhaps (most.map toString)]
  | conditional first second require =>
    fields "Operation" ["first: " ++ first.outline bound, "second: " ++ second.outline bound,
      "require: " ++ truth require]
  | hole id => "Placeholder(" ++ (if bound id then "bound" else "unbound") ++ ")"
  | collapse inner => fields "Collapse" ["inner: " ++ inner.outline bound]
  | custom base _ => fields "Custom" ["base: " ++ base.outline bound, ".."]

/-- Each of the items on one line. -/
def outlines (bound : Nat → Bool) : List (Keyed (Pattern α)) → List String
  | [] => []
  | ⟨key, p⟩ :: items =>
    fields "Item" ["key: " ++ perhaps (key.map Text.quoteString), "pattern: " ++ p.outline bound] ::
      outlines bound items

end

end Pattern

/-- A pattern on one line, with the state of its holes in the grammar. -/
def Grammar.outline (g : Grammar α) (p : Pattern α) : String :=
  p.outline g.isBound

end PegTrace
