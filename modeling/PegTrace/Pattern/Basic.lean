import PegTrace.CharTest
import PegTrace.Record.Basic

/-!
# Patterns

A pattern describes stretches of a sequence of characters. Patterns are parsing expressions: a choice takes the first
alternative that matches, a repetition takes as much as it can and gives nothing back. A hole stands for a pattern that
a grammar supplies, so that a pattern can be defined by itself.
-/

namespace PegTrace

/-- A pattern over the alphabet `α`. -/
inductive Pattern (α : Type) where
  /-- Matches the empty stretch everywhere. -/
  | empty
  /-- Matches one character that passes the test. -/
  | literal (test : CharTest α)
  /-- Matches what the first alternative matches that matches at all. -/
  | choice (items : List (Keyed (Pattern α)))
  /-- Matches the items one after the other. -/
  | concat (items : List (Keyed (Pattern α)))
  /-- Matches a stretch that every item matches. -/
  | intersection (items : List (Keyed (Pattern α)))
  /-- Matches what the first item matches and the nested exclusion of the others does not cover or, without `exclude`,
  does cover. -/
  | difference (items : List (Keyed (Pattern α))) (exclude : Bool)
  /-- Matches at least `least` and at most `most` repetitions, as many as possible. -/
  | repetition (inner : Pattern α) (least : Nat) (most : Option Nat)
  /-- Matches what the first pattern matches and the second covers or, without `require`, does not cover. -/
  | conditional (first second : Pattern α) (require : Bool)
  /-- Matches what the grammar puts in the hole of this number. -/
  | hole (id : Nat)
  /-- Matches what the inner pattern matches and keeps no parts in the record. -/
  | collapse (inner : Pattern α)
  /-- Matches what the base matches and edits the record. -/
  | custom (base : Pattern α) (edit : Record → Record)

end PegTrace
