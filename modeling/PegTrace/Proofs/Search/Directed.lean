import Mathlib.Order.Basic
import Mathlib.Order.Bounds.Defs
import PegTrace.Proofs.Search.Scan

/-!
# Searches find the extreme match

That a matcher succeeds at one place says nothing about the places next to it, so a search can only try one place after
the other. Going forward it finds the first place at or after its start where the matcher succeeds, and going backward
the last one at or before it (`directed_extreme`). The place after the last character counts in both directions, and
beyond it they part: forward there is nothing to try, backward the search begins at the end of the input.
-/

namespace PegTrace.Search

variable {m : Matcher} {length start : Nat} {outcome : Logged (Option Found)} {f : Found}

lemma Genuine.hits (h : Genuine m length f) : Hits m length f.start := by
  obtain ⟨a, ha, hs, -⟩ := h
  exact ⟨a, ha, hs⟩

/-- Something is found if there is a place to be found at. -/
lemma isSome_iff_exists {P : Nat → Prop} (hnone : outcome.value = none → ∀ q, ¬ P q)
    (hsome : ∀ f, outcome.value = some f → P f.start) : outcome.value.isSome ↔ ∃ q, P q := by
  cases hvalue : outcome.value with
  | none => exact iff_of_false nofun (not_exists.2 (hnone hvalue))
  | some f => exact iff_of_true rfl ⟨f.start, hsome f hvalue⟩

/-! ### Forward -/

lemma forward_isLeast (h : forward m length start = some outcome) (hf : outcome.value = some f) :
    IsLeast {q | start ≤ q ∧ q ≤ length ∧ Hits m length q} f.start := by
  obtain ⟨hstart, hlength, hgenuine, hfirst⟩ := forward_of_some h hf
  refine ⟨⟨hstart, hlength, hgenuine.hits⟩, ?_⟩
  rintro q ⟨hq, -, hhits⟩
  exact Nat.le_of_not_lt fun hlt => hfirst q hq hlt hhits

lemma forward_isSome_iff (h : forward m length start = some outcome) :
    outcome.value.isSome ↔ ∃ q, start ≤ q ∧ q ≤ length ∧ Hits m length q := by
  refine isSome_iff_exists ?_ fun f hf => (forward_isLeast h hf).1
  rintro hnone q ⟨hstart, hlength, hhits⟩
  exact forward_of_none h hnone q hstart hlength hhits

/-! ### Backward -/

lemma exists_backward (hm : ∀ q ≤ length, ∃ a, m q length = some a) (start : Nat) :
    ∃ outcome, backward m length start = some outcome := by
  have hplaces : ∀ i < min start length + 1, ∃ a, m (min start length - (0 + i)) length = some a := by
    intro i _
    exact hm _ (Nat.le_trans (Nat.sub_le _ _) (Nat.min_le_right _ _))
  obtain ⟨outcome, houtcome⟩ := exists_firstAlong hplaces
  exact ⟨_, congrArg (Option.map (report "find_backward" start)) houtcome⟩

lemma backward_of_none (h : backward m length start = some outcome) (hnone : outcome.value = none) :
    ∀ q ≤ min start length, ¬ Hits m length q := by
  obtain ⟨outcome, houtcome, rfl⟩ := Option.map_eq_some_iff.1 h
  intro q hq
  have hmain := firstAlong_of_none houtcome hnone (min start length - q) (by omega)
  rwa [Nat.zero_add, Nat.sub_sub_self hq] at hmain

lemma backward_of_some (h : backward m length start = some outcome) (hsome : outcome.value = some f) :
    f.start ≤ min start length ∧ Genuine m length f ∧
      ∀ q, f.start < q → q ≤ min start length → ¬ Hits m length q := by
  obtain ⟨outcome, houtcome, rfl⟩ := Option.map_eq_some_iff.1 h
  obtain ⟨i, hi, hplace, hgenuine, hfirst⟩ := firstAlong_of_some houtcome hsome
  refine ⟨hplace.trans_le (Nat.sub_le _ _), hgenuine, ?_⟩
  intro q hlt hq
  -- the places come in falling order, so a later place was tried before
  have hmain := hfirst (min start length - q) (by omega)
  rwa [Nat.zero_add, Nat.sub_sub_self hq] at hmain

lemma backward_isGreatest (h : backward m length start = some outcome) (hf : outcome.value = some f) :
    IsGreatest {q | q ≤ min start length ∧ Hits m length q} f.start := by
  obtain ⟨hstart, hgenuine, hlast⟩ := backward_of_some h hf
  refine ⟨⟨hstart, hgenuine.hits⟩, ?_⟩
  rintro q ⟨hq, hhits⟩
  exact Nat.le_of_not_lt fun hlt => hlast q hlt hq hhits

lemma backward_isSome_iff (h : backward m length start = some outcome) :
    outcome.value.isSome ↔ ∃ q ≤ min start length, Hits m length q := by
  refine isSome_iff_exists ?_ fun f hf => (backward_isGreatest h hf).1
  rintro hnone q ⟨hq, hhits⟩
  exact backward_of_none h hnone q hq hhits

/-- A search backward from beyond the end begins at the end. -/
lemma map_value_backward (m : Matcher) (h : length ≤ start) :
    (backward m length start).map Logged.value = (backward m length length).map Logged.value := by
  simp only [backward, Nat.min_eq_right h, Nat.min_self, Option.map_eq_map, Option.map_map]
  rfl

/-! ### Both directions -/

/-- A matcher that gives an answer everywhere is found at the first place at or after the start where it succeeds, and
at the last one at or before it, with the record that it leaves there, if there is such a place. From beyond the end
nothing is found forward, and backward what is found from the end. -/
theorem directed_extreme (hm : ∀ q ≤ length, ∃ a, m q length = some a) (start : Nat) :
    ∃ ahead behind, forward m length start = some ahead ∧ backward m length start = some behind ∧
      (ahead.value.isSome ↔ ∃ q, start ≤ q ∧ q ≤ length ∧ Hits m length q) ∧
      (∀ f, ahead.value = some f → Genuine m length f ∧
        IsLeast {q | start ≤ q ∧ q ≤ length ∧ Hits m length q} f.start) ∧
      (behind.value.isSome ↔ ∃ q ≤ min start length, Hits m length q) ∧
      (∀ f, behind.value = some f → Genuine m length f ∧
        IsGreatest {q | q ≤ min start length ∧ Hits m length q} f.start) ∧
      (length < start → ahead.value = none ∧
        ∃ last, backward m length length = some last ∧ last.value = behind.value) := by
  obtain ⟨ahead, hahead⟩ := exists_forward hm start
  obtain ⟨behind, hbehind⟩ := exists_backward hm start
  refine ⟨ahead, behind, hahead, hbehind, forward_isSome_iff hahead, ?_, backward_isSome_iff hbehind, ?_, ?_⟩
  · intro f hf
    obtain ⟨-, -, hgenuine, -⟩ := forward_of_some hahead hf
    exact ⟨hgenuine, forward_isLeast hahead hf⟩
  · intro f hf
    obtain ⟨-, hgenuine, -⟩ := backward_of_some hbehind hf
    exact ⟨hgenuine, backward_isGreatest hbehind hf⟩
  · -- beyond the end there is nothing ahead, and what is behind is seen from the end
    intro hbeyond
    constructor
    · rw [← Option.not_isSome_iff_eq_none, forward_isSome_iff hahead]
      rintro ⟨q, hstart, hlength, -⟩
      omega
    · have hsame := map_value_backward m (Nat.le_of_lt hbeyond)
      rw [hbehind, eq_comm] at hsame
      exact Option.map_eq_some_iff.1 hsame

/-- Two of the letter a or one b, with an end that lies too far. -/
def stretchedLetters : Pattern Char :=
  .custom (.choice [.plain (.text "aa"), .plain (.one 'b')]) (Record.moved 0 5 0)

/-- They are found before and after a place where they do not match. -/
theorem stretchedLetters_extreme :
    let m := ({} : Grammar Char).matcher #['b', 'a', 'a', 'b'] stretchedLetters
    (∀ q ≤ 4, ∃ a, m q 4 = some a) ∧ ∃ ahead behind, forward m 4 2 = some ahead ∧ backward m 4 2 = some behind ∧
      ahead.value.map Found.start = some 3 ∧ behind.value.map Found.start = some 1 ∧
      IsLeast {q | 2 ≤ q ∧ q ≤ 4 ∧ Hits m 4 q} 3 ∧ IsGreatest {q | q ≤ min 2 4 ∧ Hits m 4 q} 1 := by
  intro m
  have hm : ∀ q ≤ 4, ∃ a, m q 4 = some a := by
    simp only [← Option.isSome_iff_exists]
    decide +kernel
  obtain ⟨ahead, behind, hahead, hbehind, -, hleast, -, hgreatest, -⟩ := directed_extreme hm 2
  have hstart : (forward m 4 2).map (·.value.map Found.start) = some (some 3) := by decide +kernel
  have hlast : (backward m 4 2).map (·.value.map Found.start) = some (some 1) := by decide +kernel
  rw [hahead, Option.map_some, Option.some_inj] at hstart
  rw [hbehind, Option.map_some, Option.some_inj] at hlast
  refine ⟨hm, ahead, behind, hahead, hbehind, hstart, hlast, ?_, ?_⟩
  · obtain ⟨f, hf, hplace⟩ := Option.map_eq_some_iff.1 hstart
    exact hplace ▸ (hleast f hf).2
  · obtain ⟨f, hf, hplace⟩ := Option.map_eq_some_iff.1 hlast
    exact hplace ▸ (hgreatest f hf).2

end PegTrace.Search
