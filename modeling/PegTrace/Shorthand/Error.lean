import PegTrace.Text.Quoted

/-!
# Faults in shorthand

The ways in which a pattern written in shorthand can be wrong.
-/

namespace PegTrace.Shorthand

/-- Why a text is not a pattern in shorthand. -/
inductive Fault where
  /-- A character that cannot stand where it does. -/
  | unexpectedChar (c : Char)
  /-- Something is missing after a quantifier, a minus sign or the letter of a custom set. -/
  | unexpectedEnd
  /-- A number is missing or too large. -/
  | invalidNumber
  /-- A group is not closed. -/
  | unclosedGroup
  /-- A literal is not closed. -/
  | unclosedLiteral
  /-- A custom set is not closed, or a range in it has no last character. -/
  | unclosedSet
  /-- A pair of bounds is incomplete or in the wrong order. -/
  | invalidBounds
deriving DecidableEq, Repr

/-- What is said of a fault. -/
def Fault.message : Fault → String
  | unexpectedChar c => "Unexpected character in pattern: " ++ Text.quoteChar c
  | unexpectedEnd => "Unexpected end of pattern"
  | invalidNumber => "Invalid number in pattern"
  | unclosedGroup => "Unclosed group '(' in pattern"
  | unclosedLiteral => "Unclosed string literal in pattern"
  | unclosedSet => "Unclosed custom character set"
  | invalidBounds => "Invalid quantifier range [n,m]"

end PegTrace.Shorthand
