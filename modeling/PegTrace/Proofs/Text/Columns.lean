import Mathlib.Data.Finset.Card
import Mathlib.Data.List.Chain
import Mathlib.Order.Bounds.Basic
import PegTrace.Proofs.Text.Lines
import PegTrace.Proofs.Text.Position

/-!
# Lines and columns

Where lines end can be said of each place by itself: after a line feed, and after a carriage return unless a line feed
follows (`EndsLine`). The line of a place is the number of breaks that end at or before it, and its column is counted
from the last of them, which is also where the lines before it end when they are put together (`ofIndex_exact`). A place
between a carriage return and its line feed is still on the line that they end.
-/

namespace PegTrace.Text

/-! ### Breaks -/

/-- A line break ends at the place: the character before it is a line feed, or a carriage return that no line feed
follows. -/
def EndsLine (text : List Char) : Nat → Prop
  | 0 => False
  | k + 1 => text[k]? = some '\n' ∨ text[k]? = some '\r' ∧ text[k + 1]? ≠ some '\n'

instance (text : List Char) : DecidablePred (EndsLine text)
  | 0 => inferInstanceAs (Decidable False)
  | k + 1 => inferInstanceAs (Decidable (text[k]? = some '\n' ∨ text[k]? = some '\r' ∧ text[k + 1]? ≠ some '\n'))

lemma endsLine_one_iff {c : Char} {rest : List Char} :
    EndsLine (c :: rest) 1 ↔ c = '\n' ∨ c = '\r' ∧ rest.head? ≠ some '\n' := by
  simp [EndsLine, List.head?_eq_getElem?]

/-- After the first character, breaks end where they do in the rest of the text. -/
lemma exists_endsLine_cons_iff {c : Char} {rest : List Char} {offset k : Nat} :
    (∃ j, k = offset + j ∧ EndsLine (c :: rest) j) ↔
      (k = offset + 1 ∧ EndsLine (c :: rest) 1) ∨ ∃ j, k = offset + 1 + j ∧ EndsLine rest j := by
  constructor
  · rintro ⟨j, rfl, hj⟩
    match j with
    | 0 => exact hj.elim
    | 1 => exact .inl ⟨rfl, hj⟩
    | j + 2 => exact .inr ⟨j + 1, by omega, hj⟩
  · rintro (⟨rfl, h⟩ | ⟨j, rfl, hj⟩)
    · exact ⟨1, rfl, h⟩
    · match j with
      | 0 => exact hj.elim
      | j + 1 => exact ⟨j + 2, by omega, hj⟩

lemma mem_lineStarts_iff {text : List Char} {offset k : Nat} :
    k ∈ lineStarts offset text ↔ ∃ j, k = offset + j ∧ EndsLine text j := by
  fun_induction lineStarts offset text with
  | case1 offset =>
    simp only [List.not_mem_nil, false_iff]
    rintro ⟨j, -, hj⟩
    cases j <;> simp [EndsLine] at hj
  | case2 offset rest ih =>
    -- no line ends between the two characters of a pair, one does behind them
    have hreturn : ¬ EndsLine ('\r' :: '\n' :: rest) 1 := by simp [endsLine_one_iff]
    have hfeed : EndsLine ('\n' :: rest) 1 := by simp [endsLine_one_iff]
    rw [exists_endsLine_cons_iff, exists_endsLine_cons_iff, List.mem_cons, ih]
    simp only [hreturn, hfeed, and_false, and_true, false_or]
  | case3 offset c rest hpair hbreak ih =>
    -- a break that does not begin a pair ends the line
    have hends : EndsLine (c :: rest) 1 := by
      rw [endsLine_one_iff]
      refine hbreak.imp_right fun hc => ⟨hc, fun hhead => ?_⟩
      obtain ⟨later, rfl⟩ := List.head?_eq_some_iff.1 hhead
      exact hpair later hc rfl
    rw [exists_endsLine_cons_iff, List.mem_cons, ih]
    simp only [hends, and_true]
  | case4 offset c rest _ hbreak ih =>
    have hgoesOn : ¬ EndsLine (c :: rest) 1 := by
      rw [endsLine_one_iff]
      exact fun hends => hbreak (hends.imp_right And.left)
    rw [exists_endsLine_cons_iff, ih]
    simp only [hgoesOn, and_false, false_or]

/-- The breaks are listed in order, and all of them end after the offset. -/
lemma sorted_lineStarts (text : List Char) (offset : Nat) : (offset :: lineStarts offset text).Pairwise (· < ·) := by
  rw [← List.isChain_iff_pairwise]
  fun_induction lineStarts offset text with
  | case1 offset => exact .singleton offset
  | case2 offset rest ih => exact .cons_cons (by omega) ih
  | case3 offset c rest _ _ ih => exact .cons_cons (Nat.lt_succ_self offset) ih
  | case4 offset c rest _ _ ih => exact ih.imp_head fun hlt => (Nat.lt_succ_self offset).trans hlt

/-! ### The breaks up to a place -/

/-- The breaks that end at or before the place. -/
def breaksUpTo (text : List Char) (i : Nat) : List Nat :=
  (lineStarts 0 text).takeWhile (· ≤ i)

lemma mem_takeWhile_le_iff {l : List Nat} (hl : l.Pairwise (· < ·)) {i k : Nat} :
    k ∈ l.takeWhile (· ≤ i) ↔ k ∈ l ∧ k ≤ i := by
  induction hl with
  | nil => simp
  | @cons a l ha _ ih =>
    by_cases hi : a ≤ i
    · have htake : (a :: l).takeWhile (· ≤ i) = a :: l.takeWhile (· ≤ i) :=
        List.takeWhile_cons_of_pos (by simpa using hi)
      rw [htake, List.mem_cons, List.mem_cons, ih, or_and_right]
      exact or_congr_left ⟨fun hk => ⟨hk, hk ▸ hi⟩, And.left⟩
    · have htake : (a :: l).takeWhile (· ≤ i) = [] := List.takeWhile_cons_of_neg (by simpa using hi)
      rw [htake, List.mem_cons]
      refine iff_of_false (List.not_mem_nil) ?_
      rintro ⟨rfl | hk, hle⟩
      · exact hi hle
      · exact hi ((ha k hk).le.trans hle)

lemma mem_breaksUpTo_iff {text : List Char} {i k : Nat} : k ∈ breaksUpTo text i ↔ EndsLine text k ∧ k ≤ i := by
  rw [breaksUpTo, mem_takeWhile_le_iff (sorted_lineStarts text 0).of_cons, mem_lineStarts_iff]
  simp

lemma sorted_breaksUpTo (text : List Char) (i : Nat) : (0 :: breaksUpTo text i).Pairwise (· < ·) :=
  (sorted_lineStarts text 0).sublist ((List.takeWhile_sublist _).cons_cons 0)

lemma length_breaksUpTo (text : List Char) (i : Nat) :
    (breaksUpTo text i).length = {k ∈ Finset.range (i + 1) | EndsLine text k}.card := by
  have hnodup : (breaksUpTo text i).Nodup := (sorted_breaksUpTo text i).of_cons.imp fun hlt => hlt.ne
  rw [← List.toFinset_card_of_nodup hnodup]
  congr 1
  ext k
  rw [List.mem_toFinset, mem_breaksUpTo_iff, Finset.mem_filter, Finset.mem_range, Nat.lt_succ_iff, and_comm]

/-- The last break up to a place, or the beginning of the text, is where the line of the place starts. -/
lemma isGreatest_lastBreak (text : List Char) (i : Nat) :
    IsGreatest {k | k ≤ i ∧ (k = 0 ∨ EndsLine text k)} ((breaksUpTo text i).getLastD 0) := by
  have hmem : ∀ k, k ≤ i ∧ (k = 0 ∨ EndsLine text k) ↔ k ∈ 0 :: breaksUpTo text i := by
    intro k
    rw [List.mem_cons, mem_breaksUpTo_iff]
    grind
  have hsorted : (0 :: breaksUpTo text i).Pairwise (· ≤ ·) := (sorted_breaksUpTo text i).imp fun hlt => hlt.le
  simp only [hmem]
  refine ⟨List.getLastD_mem_cons, fun k hk => ?_⟩
  rw [← List.getLast_eq_getLastD (List.cons_ne_nil _ _)]
  exact hsorted.rel_getLast hk

/-! ### Lines -/

lemma flatten_consFirst (c : Char) (lines : List (List Char)) : (consFirst c lines).flatten = c :: lines.flatten := by
  cases lines with
  | nil => rfl
  | cons line lines => rfl

lemma take_succ_consFirst (c : Char) (lines : List (List Char)) (n : Nat) :
    (consFirst c lines).take (n + 1) = consFirst c (lines.take (n + 1)) := by
  cases lines with
  | nil => cases n <;> rfl
  | cons line lines => rfl

/-- The lines with their endings are the text. -/
lemma flatten_lines (text : List Char) : (lines text).flatten = text := by
  fun_induction lines text with
  | case1 => rfl
  | case2 rest ih => simp [ih]
  | case3 c rest _ _ ih => simp [ih]
  | case4 c rest _ _ ih => rw [flatten_consFirst, ih]

lemma length_flatten_take_succ_cons (line : List Char) (lines : List (List Char)) (n : Nat) :
    ((line :: lines).take (n + 1)).flatten.length = line.length + (lines.take n).flatten.length := by
  rw [List.take_succ_cons, List.flatten_cons, List.length_append]

/-- The first lines together end at the last of as many breaks. -/
lemma getLastD_take_lineStarts {text : List Char} {offset n : Nat} (hn : n ≤ (lineStarts offset text).length) :
    ((lineStarts offset text).take n).getLastD offset = offset + ((lines text).take n).flatten.length := by
  fun_induction lineStarts offset text generalizing n with
  | case1 offset =>
    obtain rfl := Nat.le_zero.1 hn
    rfl
  | case2 offset rest ih =>
    cases n with
    | zero => rfl
    | succ n =>
      rw [lines, List.take_succ_cons, List.getLastD_cons, ih (Nat.le_of_succ_le_succ hn),
        length_flatten_take_succ_cons, Nat.add_assoc]
      rfl
  | case3 offset c rest hpair hbreak ih =>
    cases n with
    | zero => rfl
    | succ n =>
      have hlines : lines (c :: rest) = [c] :: lines rest := by
        rw [lines, if_pos hbreak]
        exact hpair
      rw [hlines, List.take_succ_cons, List.getLastD_cons, ih (Nat.le_of_succ_le_succ hn),
        length_flatten_take_succ_cons, Nat.add_assoc]
      rfl
  | case4 offset c rest hpair hbreak ih =>
    cases n with
    | zero => rfl
    | succ n =>
      have hlines : lines (c :: rest) = consFirst c (lines rest) := by
        rw [lines, if_neg hbreak]
        exact hpair
      -- at least one start is taken, so the default is not asked for
      have hoffset : ((lineStarts (offset + 1) rest).take (n + 1)).getLastD offset =
          ((lineStarts (offset + 1) rest).take (n + 1)).getLastD (offset + 1) := by
        cases hstarts : lineStarts (offset + 1) rest with
        | nil => simp [hstarts] at hn
        | cons start starts => rfl
      rw [hoffset, ih hn, hlines, take_succ_consFirst, flatten_consFirst, List.length_cons]
      omega

/-! ### Positions -/

namespace Position

/-- The lines before the line of a place are what the text holds up to the start of that line. -/
lemma flatten_take_lines (text : List Char) (i : Nat) :
    ((lines text).take (breaksUpTo text i).length).flatten = text.take ((breaksUpTo text i).getLastD 0) := by
  have hbreaks : breaksUpTo text i <+: lineStarts 0 text := List.takeWhile_prefix _
  have hlength := getLastD_take_lineStarts hbreaks.length_le
  rw [← List.prefix_iff_eq_take.1 hbreaks, Nat.zero_add] at hlength
  have hprefix := (List.take_prefix (breaksUpTo text i).length (lines text)).flatten
  rw [flatten_lines] at hprefix
  rw [hlength]
  exact List.prefix_iff_eq_take.1 hprefix

/-- The line of a place is the number of breaks that end at or before it. The last of them, or the beginning of the
text, is where its column is counted from, and the lines before it, each with its ending, are what the text holds up to
there. An index beyond the end is taken for the end, and up to there a later place has a later position. -/
theorem ofIndex_exact (text : List Char) :
    (∀ index, ∃ start, IsGreatest {k | k ≤ min index text.length ∧ (k = 0 ∨ EndsLine text k)} start ∧
      (ofIndex text index).line = {k ∈ Finset.range (min index text.length + 1) | EndsLine text k}.card ∧
      start + (ofIndex text index).column = min index text.length ∧
      ((lines text).take (ofIndex text index).line).flatten = text.take start ∧
      ((lines text).take (ofIndex text index).line).flatten.length + (ofIndex text index).column =
        min index text.length) ∧
    ∀ i j, i < j → j ≤ text.length → ofIndex text i < ofIndex text j := by
  refine ⟨fun index => ?_, fun i j hij hj => ofIndex_lt_ofIndex hij hj⟩
  have hstart := isGreatest_lastBreak text (min index text.length)
  have hlines := flatten_take_lines text (min index text.length)
  have hcolumn := Nat.add_sub_cancel' hstart.1.1
  refine ⟨_, hstart, length_breaksUpTo _ _, hcolumn, hlines, (congrArg (·.length + _) hlines).trans ?_⟩
  rw [List.length_take_of_le (hstart.1.1.trans (Nat.min_le_right _ _))]
  exact hcolumn

/-- A carriage return, one with its line feed, a letter and a line feed, with a place in the middle of the second break
and one after it. -/
theorem mixedEndings_exact :
    let text := ['\r', '\r', '\n', 'a', '\n']
    ofIndex text 2 = ⟨1, 1⟩ ∧ ofIndex text 3 = ⟨2, 0⟩ ∧ ofIndex text 2 < ofIndex text 3 :=
  ⟨by decide, by decide, (ofIndex_exact _).2 2 3 (by decide) (by decide)⟩

end Position

end PegTrace.Text
