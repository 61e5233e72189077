import PegTrace.Pattern.Derived
import PegTrace.Shorthand.Reader

/-!
# The pattern of a shorthand expression

Shorthand stands for ordinary patterns: alternatives for a choice, sequences for a concatenation, quantifiers for
repetitions. A single alternative or a single item stands for itself.
-/

namespace PegTrace.Shorthand

/-- The test of a member of a set. -/
def Member.test : Member → CharTest Char
  | single c => .equals c
  | range first last => .range first last

/-- The test of a set. -/
def CharSet.test : CharSet → CharTest Char
  | named k => k.test
  | custom members => .any (members.map Member.test)

/-- The pattern for as many occurrences as the quantifier asks for. -/
def Quantifier.pattern (p : Pattern Char) : Quantifier → Pattern Char
  | once => p
  | optional => p.optional
  | zeroOrMore => p.star
  | oneOrMore => p.oneOrMore
  | exactly n => p.times n (some n)
  | atLeast n => p.times n none
  | between n m => p.times n (some m)

/-- The concatenation of patterns, of which a single one stands for itself. -/
def concatOf : List (Pattern Char) → Pattern Char
  | [p] => p
  | ps => .concat (ps.map .plain)

/-- The choice of patterns, of which a single one stands for itself and none for the empty text. -/
def choiceOf : List (Pattern Char) → Pattern Char
  | [] => .empty
  | [p] => p
  | ps => .choice (ps.map .plain)

mutual

/-- The pattern of an element. -/
def Element.pattern : Element → Pattern Char
  | .set chars negated => .literal (if negated then chars.test.negated else chars.test)
  | .group alternatives => choiceOf (alternativePatterns alternatives)
  | .literal text fold =>
    if fold then .textIgnoringCase (String.ofList text) else .text (String.ofList text)

/-- The patterns of the alternatives. -/
def alternativePatterns : List (List (Quantified Element)) → List (Pattern Char)
  | [] => []
  | items :: rest => concatOf (itemPatterns items) :: alternativePatterns rest

/-- The patterns of the items of a sequence. -/
def itemPatterns : List (Quantified Element) → List (Pattern Char)
  | [] => []
  | ⟨q, e⟩ :: rest => q.pattern e.pattern :: itemPatterns rest

end

/-- The pattern of some alternatives. -/
def Compound.pattern (compound : Compound) : Pattern Char :=
  choiceOf (alternativePatterns compound)

/-- The pattern written in shorthand. -/
def compile (text : List Char) : Except Fault (Pattern Char) :=
  Compound.pattern <$> parse text

end PegTrace.Shorthand
