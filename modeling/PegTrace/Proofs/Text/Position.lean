import Mathlib.Data.List.TakeWhile
import Mathlib.Order.Basic
import PegTrace.Text.Lines

/-!
# Positions in order

Positions are ordered as a reader comes to them: by line, and on a line by column. The place of a later character is a
later position, also between a carriage return and its line feed (`Position.ofIndex_lt_ofIndex`).
-/

namespace PegTrace.Text.Position

/-- An earlier line, or the same line and no later column. -/
instance : LE Position where
  le p q := p.line < q.line ∨ p.line = q.line ∧ p.column ≤ q.column

/-- An earlier line, or the same line and an earlier column. -/
instance : LT Position where
  lt p q := p.line < q.line ∨ p.line = q.line ∧ p.column < q.column

/-- The breaks passed before a place are the first of those passed before a later one. -/
lemma takeWhile_le_prefix (starts : List Nat) {i j : Nat} (h : i ≤ j) :
    starts.takeWhile (· ≤ i) <+: starts.takeWhile (· ≤ j) := by
  induction starts with
  | nil => exact List.prefix_rfl
  | cons start starts ih =>
    by_cases hi : start ≤ i
    · have hj : start ≤ j := Nat.le_trans hi h
      simpa [hi, hj] using ih
    · simp [hi]

lemma getLastD_takeWhile_le (starts : List Nat) (i : Nat) : (starts.takeWhile (· ≤ i)).getLastD 0 ≤ i := by
  rw [List.getLastD_eq_getLast?]
  cases h : (starts.takeWhile (· ≤ i)).getLast? with
  | none => exact Nat.zero_le i
  | some start => simpa using List.mem_takeWhile_imp (List.mem_of_getLast? h)

/-- Up to the end of the text, a later place has a later position. -/
theorem ofIndex_lt_ofIndex {text : List Char} {i j : Nat} (hij : i < j) (hj : j ≤ text.length) :
    ofIndex text i < ofIndex text j := by
  have hpassed := takeWhile_le_prefix (lineStarts 0 text) hij.le
  have hstart := getLastD_takeWhile_le (lineStarts 0 text) i
  rw [ofIndex, ofIndex, Nat.min_eq_left hj, Nat.min_eq_left (hij.le.trans hj)]
  rcases Nat.lt_or_eq_of_le hpassed.length_le with hlt | heq
  · exact .inl hlt
  · -- no break in between, so both columns are counted from the same place
    refine .inr ⟨heq, ?_⟩
    rw [hpassed.eq_of_length heq] at hstart ⊢
    exact Nat.sub_lt_sub_right hstart hij

lemma le_of_lt {p q : Position} (h : p < q) : p ≤ q :=
  h.imp id (And.imp id Nat.le_of_lt)

/-- Beyond the end of the text, all places have the position of the end. -/
theorem ofIndex_mono (text : List Char) {i j : Nat} (h : i ≤ j) : ofIndex text i ≤ ofIndex text j := by
  have hclamp : ∀ k, ofIndex text k = ofIndex text (min k text.length) := by
    intro k
    rw [ofIndex, ofIndex, Nat.min_assoc, Nat.min_self]
  rw [hclamp i, hclamp j]
  have hmin : min i text.length ≤ min j text.length := by omega
  rcases Nat.lt_or_eq_of_le hmin with hlt | heq
  · exact le_of_lt (ofIndex_lt_ofIndex hlt (Nat.min_le_right ..))
  · rw [heq]
    exact .inr ⟨rfl, Nat.le_refl _⟩

end PegTrace.Text.Position
