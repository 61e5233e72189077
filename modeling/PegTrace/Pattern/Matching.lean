import PegTrace.Matcher
import PegTrace.Pattern.Basic

/-!
# Matching patterns

What a pattern matches depends on what is put in its holes. Given matchers for the holes, the matcher of a pattern is
composed of the matchers of its parts, one operator for each kind of pattern.
-/

namespace PegTrace.Pattern

variable {α : Type} [DecidableEq α] [LE α] [DecidableLE α]

mutual

/-- Matches a pattern on an input with the given matchers in its holes; a repetition without an upper bound may go round
as often as `rounds` says. -/
def matcher (input : Array α) (holes : Nat → Matcher) (rounds : Nat) : Pattern α → Matcher
  | empty, start, bound => Matcher.empty start bound
  | literal test, start, bound => Matcher.literal input test start bound
  | choice items, start, bound => Matcher.choice (matchers input holes rounds items) start bound
  | concat items, start, bound => Matcher.concat (matchers input holes rounds items) start bound
  | intersection items, start, bound =>
    Matcher.intersection (matchers input holes rounds items) start bound
  | difference items exclude, start, bound =>
    Matcher.difference (matchers input holes rounds items) exclude start bound
  | repetition inner least most, start, bound =>
    Matcher.repetition (inner.matcher input holes rounds) least most rounds start bound
  | conditional first second require, start, bound =>
    Matcher.conditional (first.matcher input holes rounds) (second.matcher input holes rounds) require
      start bound
  | hole id, start, bound => holes id start bound
  | collapse inner, start, bound => Matcher.collapse (inner.matcher input holes rounds) start bound
  | custom base edit, start, bound =>
    Matcher.custom (base.matcher input holes rounds) edit start bound

/-- The matchers of some items, under their keys. -/
def matchers (input : Array α) (holes : Nat → Matcher) (rounds : Nat) :
    List (Keyed (Pattern α)) → List (Keyed Matcher)
  | [] => []
  | ⟨key, p⟩ :: items => ⟨key, p.matcher input holes rounds⟩ :: matchers input holes rounds items

end

/-- The items are matched one by one. -/
theorem matchers_eq_map (input : Array α) (holes : Nat → Matcher) (rounds : Nat)
    (items : List (Keyed (Pattern α))) :
    matchers input holes rounds items = items.map (·.map (matcher input holes rounds)) := by
  induction items with
  | nil => simp [matchers]
  | cons item items ih => simp [matchers, ih, Keyed.map]

end PegTrace.Pattern
