import PegTrace.CharClass

/-!
# Shorthand expressions

What a pattern written in shorthand says: alternatives of sequences of quantified elements, where an element is a set
of characters, a literal text or a group of alternatives again.
-/

namespace PegTrace.Shorthand

/-- How often an element is to occur. -/
inductive Quantifier where
  | once
  | optional
  | zeroOrMore
  | oneOrMore
  | exactly (count : Nat)
  | atLeast (count : Nat)
  | between (least most : Nat)
deriving DecidableEq, Repr

/-- A member of a set of characters that is spelled out. -/
inductive Member where
  | single (c : Char)
  | range (first last : Char)
deriving DecidableEq, Repr

/-- A set of characters. -/
inductive CharSet where
  /-- The members of a class. -/
  | named (k : CharClass)
  /-- The characters that are spelled out. -/
  | custom (members : List Member)
deriving DecidableEq, Repr

/-- Something that is to occur a number of times. -/
structure Quantified (ε : Type) where
  /-- How often it is to occur. -/
  quantifier : Quantifier
  /-- What is to occur. -/
  element : ε
deriving DecidableEq, Repr

/-- An element of a sequence. -/
inductive Element where
  /-- One character in the set or, negated, outside it. -/
  | set (chars : CharSet) (negated : Bool)
  /-- One of several alternatives. -/
  | group (alternatives : List (List (Quantified Element)))
  /-- A text, letter by letter or, folded, in either case. -/
  | literal (text : List Char) (fold : Bool)

/-- An element with its quantifier. -/
abbrev Item := Quantified Element

/-- Items that follow one another. -/
abbrev Sequence := List Item

/-- Alternatives, the first that matches being taken; without any, the empty text is meant. -/
abbrev Compound := List Sequence

/-- The alternatives in canonical form: a single empty sequence is written as no alternative at all. -/
def Compound.ofAlternatives : List Sequence → Compound
  | [[]] => []
  | alternatives => alternatives

end PegTrace.Shorthand
