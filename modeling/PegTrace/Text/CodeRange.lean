/-!
# Tables of code point ranges

A property of characters is given as a list of inclusive ranges of code points in ascending order. Looking a
character up stops at the first range that begins beyond it, so that low code points are found at once. Nothing is
missed by that, since a table cannot be built but in order (`RangeTable.contains_iff`).
-/

namespace PegTrace.Text

/-- Whether the ranges follow one another from a code point on, each with its first code point before or at its last
and after the last of the one before. -/
def ascendsFrom (least : Nat) : List (Nat × Nat) → Bool
  | [] => true
  | (first, last) :: rest => least ≤ first && first ≤ last && ascendsFrom (last + 1) rest

/-- Inclusive ranges of code points, ascending and apart from each other. -/
structure RangeTable where
  /-- The ranges. -/
  ranges : List (Nat × Nat)
  /-- They are in order. -/
  ascends : ascendsFrom 0 ranges := by decide +kernel

namespace RangeTable

/-- Whether the code point `n` lies in one of the ranges. -/
def holds (n : Nat) : List (Nat × Nat) → Bool
  | [] => false
  | (first, last) :: rest => first ≤ n && (n ≤ last || holds n rest)

/-- Whether the character lies in one of the ranges. -/
def contains (t : RangeTable) (c : Char) : Bool :=
  holds c.toNat t.ranges

/-- Nothing lies before the first of ascending ranges. -/
theorem le_of_ascendsFrom {least : Nat} {ranges : List (Nat × Nat)} (h : ascendsFrom least ranges) :
    ∀ r ∈ ranges, least ≤ r.1 := by
  induction ranges generalizing least with
  | nil => exact fun r hr => absurd hr List.not_mem_nil
  | cons r rest ih =>
    simp only [ascendsFrom, Bool.and_eq_true, decide_eq_true_eq] at h
    obtain ⟨⟨hleast, hr⟩, hrest⟩ := h
    intro s hs
    rcases List.mem_cons.1 hs with rfl | hs
    · exact hleast
    · have := ih hrest s hs
      omega

/-- In ascending ranges, a code point is held exactly when some range includes it. -/
theorem holds_iff {least : Nat} {ranges : List (Nat × Nat)} (h : ascendsFrom least ranges) (n : Nat) :
    holds n ranges ↔ ∃ r ∈ ranges, r.1 ≤ n ∧ n ≤ r.2 := by
  induction ranges generalizing least with
  | nil => simp [holds]
  | cons r rest ih =>
    simp only [ascendsFrom, Bool.and_eq_true, decide_eq_true_eq] at h
    obtain ⟨⟨-, hr⟩, hrest⟩ := h
    simp only [holds, Bool.and_eq_true, Bool.or_eq_true, decide_eq_true_eq, ih hrest, List.mem_cons,
      exists_eq_or_imp]
    constructor
    · rintro ⟨hfirst, hlast | hlater⟩
      · exact .inl ⟨hfirst, hlast⟩
      · exact .inr hlater
    · rintro (⟨hfirst, hlast⟩ | ⟨s, hs, hfirst, hlast⟩)
      · exact ⟨hfirst, .inl hlast⟩
      · -- a later range begins beyond this one, so the search does not stop here
        have := le_of_ascendsFrom hrest s hs
        exact ⟨by omega, .inr ⟨s, hs, hfirst, hlast⟩⟩

/-- Looking a character up in a table finds the range that includes it, if there is one. -/
theorem contains_iff (t : RangeTable) (c : Char) :
    t.contains c ↔ ∃ r ∈ t.ranges, r.1 ≤ c.toNat ∧ c.toNat ≤ r.2 :=
  holds_iff t.ascends c.toNat

end RangeTable

end PegTrace.Text
