import Mathlib.Data.List.Basic
import Mathlib.Tactic.Common
import PegTrace.Grammar
import PegTrace.Pattern.Derived
import PegTrace.Record.Edit
import PegTrace.Search

/-!
# Scans find all matches that do not overlap

A search along a line of places comes upon the first of them where the matcher succeeds (`firstAlong_of_some`). A scan
goes on from one match to the next until there is none (`Yields`), and so finds the leftmost matches that do not
overlap: those that it passes over lie within one that it found (`scan_leftmost`). Nothing is asked of the matcher but
that it gives an answer everywhere, so that edits may put the end of a match where they like.
-/

namespace PegTrace

/-- The next match is looked for after this one, and at least one place farther. -/
lemma Found.next_eq_max (f : Found) : f.next = max f.stop (f.start + 1) := by
  simp only [next, isEmpty, decide_eq_true_eq]
  split
  · omega
  · omega

namespace Search

/-! ### The first success -/

/-- The matcher succeeds at the place. -/
def Hits (m : Matcher) (length place : Nat) : Prop :=
  ∃ a, m place length = some a ∧ a.success

/-- The match is what the matcher comes to where the match starts. -/
def Genuine (m : Matcher) (length : Nat) (f : Found) : Prop :=
  ∃ a, m f.start length = some a ∧ a.success ∧ a.record = f.record

variable {m : Matcher} {length : Nat}

lemma not_hits {place : Nat} {a : Attempt} (ha : m place length = some a) (hs : ¬ a.success) :
    ¬ Hits m length place := by
  rintro ⟨b, hb, hsuccess⟩
  rw [ha] at hb
  cases hb
  exact hs hsuccess

section Along

variable {place : Nat → Nat} {count index : Nat} {outcome : Logged (Option Found)}

lemma exists_firstAlong (h : ∀ i < count, ∃ a, m (place (index + i)) length = some a) :
    ∃ outcome, firstAlong m length place count index = some outcome := by
  induction count generalizing index with
  | zero => exact ⟨_, rfl⟩
  | succ count ih =>
    obtain ⟨a, ha⟩ := h 0 (Nat.succ_pos count)
    -- the places that are left, counted from the next index
    have hnext : ∀ i < count, ∃ a, m (place (index + 1 + i)) length = some a := by
      intro i hi
      rw [Nat.add_assoc, Nat.add_comm 1]
      exact h (i + 1) (Nat.succ_lt_succ hi)
    obtain ⟨later, hlater⟩ := ih hnext
    rw [Nat.add_zero] at ha
    rw [firstAlong, ha, hlater]
    by_cases hs : a.success
    · exact ⟨_, if_pos hs⟩
    · exact ⟨_, if_neg hs⟩

/-- A search that does not end at the first place goes on from the next. -/
lemma firstAlong_succ (h : firstAlong m length place (count + 1) index = some outcome) :
    ∃ a, m (place index) length = some a ∧
      (a.success ∧ outcome.value = some ⟨place index, a.record⟩ ∨
        ¬ a.success ∧ ∃ later, firstAlong m length place count (index + 1) = some later ∧
          outcome.value = later.value) := by
  simp only [firstAlong, Option.bind_eq_bind, Option.bind_eq_some_iff] at h
  obtain ⟨a, ha, h⟩ := h
  refine ⟨a, ha, ?_⟩
  split at h
  · rename_i hs
    cases h
    exact .inl ⟨hs, rfl⟩
  · rename_i hs
    obtain ⟨later, hlater, h⟩ := Option.bind_eq_some_iff.1 h
    cases h
    exact .inr ⟨hs, later, hlater, rfl⟩

lemma firstAlong_of_none (h : firstAlong m length place count index = some outcome) (hnone : outcome.value = none) :
    ∀ i < count, ¬ Hits m length (place (index + i)) := by
  induction count generalizing index outcome with
  | zero => exact fun i hi => absurd hi (Nat.not_lt_zero i)
  | succ count ih =>
    obtain ⟨a, ha, ⟨-, hvalue⟩ | ⟨hs, later, hlater, hvalue⟩⟩ := firstAlong_succ h
    · rw [hnone] at hvalue
      cases hvalue
    · intro i hi
      cases i with
      | zero => exact not_hits ha hs
      | succ i =>
        rw [Nat.add_comm i, ← Nat.add_assoc]
        exact ih hlater (hvalue.symm.trans hnone) i (Nat.lt_of_succ_lt_succ hi)

/-- What is found is a genuine match at the first place along the way where there is one. -/
lemma firstAlong_of_some {f : Found} (h : firstAlong m length place count index = some outcome)
    (hsome : outcome.value = some f) : ∃ i < count, f.start = place (index + i) ∧ Genuine m length f ∧
      ∀ j < i, ¬ Hits m length (place (index + j)) := by
  induction count generalizing index outcome with
  | zero =>
    cases h
    cases hsome
  | succ count ih =>
    obtain ⟨a, ha, ⟨hs, hvalue⟩ | ⟨hs, later, hlater, hvalue⟩⟩ := firstAlong_succ h
    · rw [hsome] at hvalue
      cases hvalue
      -- the first place is a match, and there is none before it
      exact ⟨0, Nat.succ_pos count, rfl, ⟨a, ha, hs, rfl⟩, fun j hj => absurd hj (Nat.not_lt_zero j)⟩
    · obtain ⟨i, hi, hstart, hgenuine, hfirst⟩ := ih hlater (hvalue.symm.trans hsome)
      -- the first place is none, and the match is the first of those after it
      refine ⟨i + 1, Nat.succ_lt_succ hi, ?_, hgenuine, ?_⟩
      · rw [hstart, Nat.add_assoc, Nat.add_comm 1]
      · intro j hj
        cases j with
        | zero => exact not_hits ha hs
        | succ j =>
          rw [Nat.add_comm j, ← Nat.add_assoc]
          exact hfirst j (Nat.lt_of_succ_lt_succ hj)

end Along

section Forward

variable {start : Nat} {outcome : Logged (Option Found)}

lemma exists_forward (hm : ∀ q ≤ length, ∃ a, m q length = some a) (start : Nat) :
    ∃ outcome, forward m length start = some outcome := by
  have hplaces : ∀ i < length + 1 - start, ∃ a, m (id (start + i)) length = some a := by
    intro i hi
    exact hm (start + i) (by omega)
  obtain ⟨outcome, houtcome⟩ := exists_firstAlong hplaces
  rw [forward, houtcome]
  exact ⟨_, rfl⟩

lemma forward_of_none (h : forward m length start = some outcome) (hnone : outcome.value = none) :
    ∀ q, start ≤ q → q ≤ length → ¬ Hits m length q := by
  obtain ⟨outcome, houtcome, rfl⟩ := Option.map_eq_some_iff.1 h
  intro q hstart hlength
  have hmain := firstAlong_of_none houtcome hnone (q - start) (by omega)
  rwa [Nat.add_sub_cancel' hstart] at hmain

lemma forward_of_some {f : Found} (h : forward m length start = some outcome) (hsome : outcome.value = some f) :
    start ≤ f.start ∧ f.start ≤ length ∧ Genuine m length f ∧ ∀ q, start ≤ q → q < f.start → ¬ Hits m length q := by
  obtain ⟨outcome, houtcome, rfl⟩ := Option.map_eq_some_iff.1 h
  obtain ⟨i, hi, hplace, hgenuine, hfirst⟩ := firstAlong_of_some houtcome hsome
  have hplace : f.start = start + i := hplace
  refine ⟨by omega, by omega, hgenuine, ?_⟩
  intro q hstart hq
  have hmain := hfirst (q - start) (by omega)
  rwa [Nat.add_sub_cancel' hstart] at hmain

end Forward

/-! ### Steps of a scan -/

section Step

variable {place after : Nat} {outcome : Logged (Option Found)}

lemma next_of_length_lt (m : Matcher) (h : length < place) : next m length place = some (⟨none, []⟩, place) :=
  if_pos h

lemma next_of_le_length (m : Matcher) (h : place ≤ length) :
    next m length place = (forward m length place).map fun outcome =>
      (outcome, outcome.value.elim (length + 1) Found.next) := by
  rw [next, if_neg (Nat.not_lt.2 h)]
  cases forward m length place with
  | none => rfl
  | some outcome =>
    obtain ⟨value, log⟩ := outcome
    cases value with
    | none => rfl
    | some f => rfl

lemma exists_next (hm : ∀ q ≤ length, ∃ a, m q length = some a) (place : Nat) :
    ∃ outcome after, next m length place = some (outcome, after) := by
  rcases Nat.lt_or_ge length place with hlt | hle
  · exact ⟨_, _, next_of_length_lt m hlt⟩
  · obtain ⟨outcome, houtcome⟩ := exists_forward hm place
    rw [next_of_le_length m hle, houtcome]
    exact ⟨_, _, rfl⟩

/-- A scan that finds nothing has left the input behind, and there was nothing to be found. -/
lemma next_of_none (h : next m length place = some (outcome, after)) (hnone : outcome.value = none) :
    length < after ∧ ∀ q, place ≤ q → q ≤ length → ¬ Hits m length q := by
  rcases Nat.lt_or_ge length place with hlt | hle
  · rw [next_of_length_lt m hlt] at h
    cases h
    exact ⟨hlt, fun q hplace hlength => by omega⟩
  · rw [next_of_le_length m hle] at h
    obtain ⟨outcome, houtcome, h⟩ := Option.map_eq_some_iff.1 h
    cases h
    rw [hnone]
    exact ⟨Nat.lt_succ_self length, forward_of_none houtcome hnone⟩

lemma next_of_some {f : Found} (h : next m length place = some (outcome, after)) (hsome : outcome.value = some f) :
    after = f.next ∧ place ≤ f.start ∧ f.start ≤ length ∧ Genuine m length f ∧
      ∀ q, place ≤ q → q < f.start → ¬ Hits m length q := by
  rcases Nat.lt_or_ge length place with hlt | hle
  · rw [next_of_length_lt m hlt] at h
    cases h
    cases hsome
  · rw [next_of_le_length m hle] at h
    obtain ⟨outcome, houtcome, h⟩ := Option.map_eq_some_iff.1 h
    cases h
    rw [hsome]
    exact ⟨rfl, forward_of_some houtcome hsome⟩

end Step

/-! ### Whole scans -/

/-- From a place on, the scan finds these matches one after the other and then no more. -/
inductive Yields (m : Matcher) (length : Nat) : Nat → List Found → Prop
  | done {place after : Nat} {outcome : Logged (Option Found)} (h : next m length place = some (outcome, after))
      (hnone : outcome.value = none) : Yields m length place []
  | found {place after : Nat} {outcome : Logged (Option Found)} {f : Found} {later : List Found}
      (h : next m length place = some (outcome, after)) (hsome : outcome.value = some f)
      (hlater : Yields m length after later) : Yields m length place (f :: later)

/-- What each of so many steps of a scan finds, one after the other. -/
def calls (m : Matcher) (length : Nat) : (count place : Nat) → Option (List (Option Found))
  | 0, _ => some []
  | count + 1, place => do
    let (outcome, after) ← next m length place
    let later ← calls m length count after
    return outcome.value :: later

/-- The matches are genuine, each begins after the end and after the start of those before it, and wherever the matcher
succeeds a match starts or one is under way. -/
structure Leftmost (m : Matcher) (length : Nat) (found : List Found) : Prop where
  genuine : ∀ f ∈ found, f.start ≤ length ∧ Genuine m length f
  apart : found.Pairwise fun f f' => max f.stop (f.start + 1) ≤ f'.start
  complete : ∀ place ≤ length, Hits m length place →
    ∃ f ∈ found, place = f.start ∨ f.start < place ∧ place < f.stop
  length_le : found.length ≤ length + 1

section Yields

variable {place : Nat} {found : List Found}

lemma scanFrom_yields (hm : ∀ q ≤ length, ∃ a, m q length = some a) {steps : Nat} (hsteps : length < place + steps) :
    ∃ outcome, scanFrom m length steps place = some outcome ∧ Yields m length place outcome.value := by
  induction steps generalizing place with
  | zero => exact ⟨_, rfl, .done (next_of_length_lt m hsteps) rfl⟩
  | succ steps ih =>
    obtain ⟨outcome, after, hnext⟩ := exists_next hm place
    rw [scanFrom, hnext]
    cases hvalue : outcome.value with
    | none => exact ⟨⟨[], outcome.log⟩, by simp [hvalue], .done hnext hvalue⟩
    | some f =>
      obtain ⟨rfl, hplace, -⟩ := next_of_some hnext hvalue
      -- also after an empty match the next place is a later one
      have hmove : f.start < f.next := by
        rw [f.next_eq_max]
        omega
      obtain ⟨later, hlater, hyields⟩ := ih (show length < f.next + steps by omega)
      exact ⟨⟨f :: later.value, outcome.log ++ later.log⟩, by simp [hvalue, hlater], .found hnext hvalue hyields⟩

/-- A scan takes no more steps than there are places. -/
lemma scan_yields (hm : ∀ q ≤ length, ∃ a, m q length = some a) :
    ∃ outcome, scan m length = some outcome ∧ Yields m length 0 outcome.value := by
  have hsteps : length < 0 + (length + 1) := by omega
  exact scanFrom_yields hm hsteps

/-- Beyond the end of the input every step finds nothing. -/
lemma calls_of_length_lt (h : length < place) (count : Nat) :
    calls m length count place = some (List.replicate count none) := by
  induction count with
  | zero => rfl
  | succ count ih =>
    rw [calls, next_of_length_lt m h]
    simp [ih, List.replicate_succ]

lemma Yields.calls_eq (h : Yields m length place found) (count : Nat) :
    calls m length count place = some ((List.range count).map (found[·]?)) := by
  induction h generalizing count with
  | done h hnone =>
    cases count with
    | zero => rfl
    | succ count =>
      rw [calls, h]
      simp [hnone, calls_of_length_lt (next_of_none h hnone).1, List.map_const', List.replicate_succ]
  | found h hsome _ ih =>
    cases count with
    | zero => rfl
    | succ count =>
      rw [calls, h]
      simp [hsome, ih count, List.range_succ_eq_map]

lemma Yields.place_le (h : Yields m length place found) : ∀ f ∈ found, place ≤ f.start := by
  induction h with
  | done => simp
  | @found place after outcome f later h hsome _ ih =>
    obtain ⟨rfl, hplace, -⟩ := next_of_some h hsome
    rw [List.forall_mem_cons]
    refine ⟨hplace, fun f' hf' => ?_⟩
    have hstart := ih f' hf'
    rw [f.next_eq_max] at hstart
    omega

lemma Yields.genuine (h : Yields m length place found) : ∀ f ∈ found, f.start ≤ length ∧ Genuine m length f := by
  induction h with
  | done => simp
  | found h hsome _ ih =>
    obtain ⟨-, -, hlength, hgenuine, -⟩ := next_of_some h hsome
    rw [List.forall_mem_cons]
    exact ⟨⟨hlength, hgenuine⟩, ih⟩

lemma Yields.apart (h : Yields m length place found) :
    found.Pairwise fun f f' => max f.stop (f.start + 1) ≤ f'.start := by
  induction h with
  | done => exact .nil
  | @found place after outcome f later h hsome hlater ih =>
    obtain ⟨rfl, -⟩ := next_of_some h hsome
    refine .cons (fun f' hf' => ?_) ih
    rw [← f.next_eq_max]
    exact hlater.place_le f' hf'

lemma Yields.complete (h : Yields m length place found) {q : Nat} (hplace : place ≤ q) (hlength : q ≤ length)
    (hhits : Hits m length q) : ∃ f ∈ found, q = f.start ∨ f.start < q ∧ q < f.stop := by
  induction h with
  | done h hnone => exact absurd hhits ((next_of_none h hnone).2 q hplace hlength)
  | @found place after outcome f later h hsome _ ih =>
    obtain ⟨rfl, -, -, -, hfirst⟩ := next_of_some h hsome
    -- the place is before the next match, at it or behind it
    rcases Nat.lt_trichotomy q f.start with hlt | heq | hgt
    · exact absurd hhits (hfirst q hplace hlt)
    · exact ⟨f, List.mem_cons_self, .inl heq⟩
    · rcases Nat.lt_or_ge q f.next with hwithin | hbeyond
      · -- the next place is that of the scan, so the match must have characters that cover this one
        have hstop : q < f.stop := by
          rw [f.next_eq_max] at hwithin
          omega
        exact ⟨f, List.mem_cons_self, .inr ⟨hgt, hstop⟩⟩
      · obtain ⟨f', hf', hmain⟩ := ih hbeyond
        exact ⟨f', List.mem_cons_of_mem _ hf', hmain⟩

lemma Yields.length_le (h : Yields m length place found) : found.length ≤ length + 1 - place := by
  induction h with
  | done => simp
  | @found place after outcome f later h hsome _ ih =>
    obtain ⟨rfl, hplace, hlength, -⟩ := next_of_some h hsome
    rw [f.next_eq_max] at ih
    rw [List.length_cons]
    omega

lemma Yields.leftmost (h : Yields m length 0 found) : Leftmost m length found where
  genuine := h.genuine
  apart := h.apart
  complete place hlength hhits := h.complete (Nat.zero_le place) hlength hhits
  length_le := h.length_le

end Yields

/-- A matcher that gives an answer everywhere is scanned for its leftmost matches that do not overlap: no more than
there are places. The steps of the scan find them one after the other, and nothing after that. -/
theorem scan_leftmost (hm : ∀ q ≤ length, ∃ a, m q length = some a) :
    ∃ outcome, scan m length = some outcome ∧ Leftmost m length outcome.value ∧
      ∀ count, calls m length count 0 = some ((List.range count).map (outcome.value[·]?)) := by
  obtain ⟨outcome, hscan, hyields⟩ := scan_yields hm
  exact ⟨outcome, hscan, hyields.leftmost, hyields.calls_eq⟩

/-- Digits, with one place more than there are. -/
def stretchedDigits : Pattern Char :=
  .custom (Pattern.literal (.range '0' '9')).star (Record.moved 0 1 0)

/-- The last of these matches ends beyond the input. -/
theorem stretchedDigits_leftmost :
    let m := ({} : Grammar Char).matcher #['a', '1'] stretchedDigits
    (∀ q ≤ 2, ∃ a, m q 2 = some a) ∧
      ∃ outcome, scan m 2 = some outcome ∧ Leftmost m 2 outcome.value ∧
        ∀ count, calls m 2 count 0 = some ((List.range count).map (outcome.value[·]?)) := by
  intro m
  have hm : ∀ q ≤ 2, ∃ a, m q 2 = some a := by
    simp only [← Option.isSome_iff_exists]
    decide +kernel
  exact ⟨hm, scan_leftmost hm⟩

/-- Nothing is found at the end of the input, which the second match has passed. -/
example : (scan (({} : Grammar Char).matcher #['a', '1'] stretchedDigits) 2).map
    (fun outcome => outcome.value.map fun f => (f.start, f.stop)) = some [(0, 1), (1, 3)] := by
  decide +kernel

end Search

end PegTrace
