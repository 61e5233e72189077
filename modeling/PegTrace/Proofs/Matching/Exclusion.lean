import Mathlib.Algebra.Ring.Parity
import Mathlib.Data.List.TakeWhile
import PegTrace.Proofs.Matching.Answers
import PegTrace.Proofs.Matching.Replay

/-!
# Nested exclusions

A difference of several items is the nested exclusion "the first, but not (the second, but not (the third …))", although
it matches all items on the stretch of the first, and the nested exclusion matches each of them on the stretch of the
one before it (`difference_eq_nestedExclusion`). What counts is how many items cover the stretch of the first before one
of them does not.
-/

namespace PegTrace

/-! ### Alternating verdicts -/

lemma alternating_cons (verdict : Bool) (verdicts : List Bool) :
    alternating (verdict :: verdicts) = (verdict && !alternating verdicts) := rfl

/-- The verdicts up to the first refusal decide, and they do so by their number. -/
lemma alternating_eq (verdicts : List Bool) :
    alternating verdicts = decide (Odd (verdicts.takeWhile id).length) := by
  induction verdicts with
  | nil => rfl
  | cons verdict verdicts ih =>
    cases verdict with
    | false => rfl
    | true =>
      rw [alternating_cons, ih, Bool.true_and, List.takeWhile_cons_of_pos rfl, List.length_cons, ← decide_not]
      simp only [Nat.odd_add_one]

variable {α : Type}

/-- "The first, but not (the second, but not …)". -/
def Pattern.nestedExclusion (first : Pattern α) : List (Keyed (Pattern α)) → Pattern α
  | [] => first
  | second :: others => first.excluding (second.value.nestedExclusion others)

variable [DecidableEq α] [LE α] [DecidableLE α]

namespace Grammar

/-- The pattern, bounded by the end of the stretch, matches all of it. -/
def Covers (g : Grammar α) (input : Array α) (p : Pattern α) (start stop : Nat) : Prop :=
  ∃ steps a, g.run input steps p start stop = some a ∧ a.covers stop

variable {g : Grammar α} {input : Array α} {p : Pattern α} {steps start stop bound : Nat} {a : Attempt}
  {item : Keyed (Pattern α)} {others : List (Keyed (Pattern α))} {exclude : Bool}

lemma covers_iff (h : g.run input steps p start stop = some a) : g.Covers input p start stop ↔ a.covers stop := by
  constructor
  · rintro ⟨steps', b, hb, hcovers⟩
    rw [g.run_unique input p h hb]
    exact hcovers
  · exact fun hcovers => ⟨steps, a, h, hcovers⟩

/-! ### Verdicts -/

open Classical in
/-- Whether each of the items covers the stretch. No run decides that, since it may have too few steps. -/
noncomputable def verdicts (g : Grammar α) (input : Array α) (start stop : Nat) (items : List (Keyed (Pattern α))) :
    List Bool :=
  items.map fun item => decide (g.Covers input item.value start stop)

lemma verdicts_cons (h : g.run input steps item.value start stop = some a) :
    g.verdicts input start stop (item :: others) = a.covers stop :: g.verdicts input start stop others := by
  classical
  have hcovers : decide (g.Covers input item.value start stop) = a.covers stop := by
    rw [Bool.eq_iff_iff, decide_eq_true_eq]
    exact covers_iff h
  rw [← hcovers]
  simp only [verdicts, List.map_cons]

lemma covers_eq_verdicts {items : List (Keyed (Pattern α))} {tried : List (Keyed Attempt)}
    (h : Matcher.tryEach start stop (items.map (·.map (g.run input steps))) = some tried) :
    tried.map (·.value.covers stop) = g.verdicts input start stop items := by
  induction items generalizing tried with
  | nil =>
    cases h
    rfl
  | cons item items ih =>
    obtain ⟨a, ha, h⟩ := Option.bind_eq_some_iff.1 h
    obtain ⟨later, hlater, h⟩ := Option.bind_eq_some_iff.1 h
    cases h
    rw [List.map_cons, ih hlater, verdicts_cons ha]

/-! ### Difference and nested exclusion -/

/-- A difference stops where its first item does. If that succeeds, the verdicts on the others decide. -/
lemma run_difference_told (h : g.run input steps (.difference (item :: others) exclude) start bound = some a) :
    ∃ base, g.run input steps item.value start bound = some base ∧ a.stop = base.stop ∧
      a.success = (base.success && (exclude != alternating (g.verdicts input start base.stop others))) := by
  obtain ⟨base, hbase, _⟩ := Option.bind_eq_some_iff.1 h
  refine ⟨base, hbase, ?_⟩
  by_cases hs : base.success
  · have hmatchers := Pattern.matchers_eq_map input (g.holes input steps) steps others
    have h := (Matcher.difference_of_success hbase hs _ exclude).symm.trans h
    obtain ⟨tried, htried, rfl⟩ := Option.map_eq_some_iff.1 h
    rw [hmatchers, ← List.map_reverse] at htried
    have hverdicts : tried.reverse.map (·.value.covers base.stop) = g.verdicts input start base.stop others := by
      rw [List.map_reverse, covers_eq_verdicts htried, verdicts, List.map_reverse, List.reverse_reverse, verdicts]
    refine ⟨rfl, ?_⟩
    rw [hs, Bool.true_and, ← hverdicts]
  · have h := (Matcher.difference_of_failure hbase hs _ exclude).symm.trans h
    cases h
    exact ⟨rfl, by simp [hs]⟩

/-- So does a nested exclusion, and it comes to the same as a difference. -/
lemma run_nestedExclusion_told (h : g.run input steps (p.nestedExclusion others) start bound = some a) :
    ∃ base, g.run input steps p start bound = some base ∧ a.stop = base.stop ∧
      a.success = (base.success && !alternating (g.verdicts input start base.stop others)) := by
  induction others generalizing p bound a with
  | nil => exact ⟨a, h, rfl, by simp [verdicts, alternating]⟩
  | cons second others ih =>
    obtain ⟨base, hbase, _⟩ := Option.bind_eq_some_iff.1 h
    refine ⟨base, hbase, ?_⟩
    by_cases hs : base.success
    · have h := (Matcher.conditional_of_success hbase hs _ false).symm.trans h
      obtain ⟨b, hb, rfl⟩ := Option.map_eq_some_iff.1 h
      obtain ⟨base', hbase', hstop, hsuccess⟩ := ih hb
      refine ⟨rfl, ?_⟩
      -- The bounds of the others differ only if the second item does not cover the stretch anyway.
      have hcovers : b.covers base.stop = alternating (g.verdicts input start base.stop (second :: others)) := by
        rw [verdicts_cons hbase', alternating_cons, Attempt.covers, Attempt.covers, hstop, hsuccess]
        by_cases heq : base'.stop = base.stop
        · simp [heq]
        · simp [heq]
      rw [← hcovers, hs, Bool.true_and]
      cases b.covers base.stop <;> rfl
    · have h := (Matcher.conditional_of_failure hbase hs _ false).symm.trans h
      cases h
      exact ⟨rfl, by simp [hs]⟩

/-! ### Answers -/

lemma exists_run_difference (hanswers : ∀ i ∈ item :: others, ∀ bound, ∃ steps a,
    g.run input steps i.value start bound = some a) (bound : Nat) :
    ∃ steps, ∀ exclude, ∃ a, g.run input steps (.difference (item :: others) exclude) start bound = some a := by
  rw [List.forall_mem_cons] at hanswers
  obtain ⟨m, base, hbase⟩ := hanswers.1 bound
  obtain ⟨n, hn⟩ :=
    exists_steps_forall_mem (fun i => g.exists_run_mono input i.value) fun i hi => hanswers.2 i hi base.stop
  refine ⟨max m n, fun exclude => ?_⟩
  have hbase := g.run_mono input item.value (Nat.le_max_left m n) hbase
  by_cases hs : base.success
  · refine Matcher.exists_difference_of_success hbase hs ?_ exclude
    rw [Pattern.matchers_eq_map, List.forall_mem_map]
    exact fun i hi => g.exists_run_mono input i.value (Nat.le_max_right m n) (hn i hi)
  · exact ⟨base, Matcher.difference_of_failure hbase hs _ exclude⟩

lemma exists_run_nestedExclusion (hp : ∀ bound, ∃ steps a, g.run input steps p start bound = some a)
    (hothers : ∀ i ∈ others, ∀ bound, ∃ steps a, g.run input steps i.value start bound = some a) (bound : Nat) :
    ∃ steps a, g.run input steps (p.nestedExclusion others) start bound = some a := by
  induction others generalizing p bound with
  | nil => exact hp bound
  | cons second others ih =>
    rw [List.forall_mem_cons] at hothers
    obtain ⟨m, base, hbase⟩ := hp bound
    by_cases hs : base.success
    · obtain ⟨n, b, hb⟩ := ih hothers.1 hothers.2 base.stop
      have hbase := g.run_mono input p (Nat.le_max_left m n) hbase
      have hb := g.run_mono input _ (Nat.le_max_right m n) hb
      exact ⟨max m n, _, (Matcher.conditional_of_success hbase hs _ false).trans (congrArg (Option.map _) hb)⟩
    · exact ⟨m, base, Matcher.conditional_of_failure hbase hs _ false⟩

/-! ### Items that cover the stretch -/

/-- The verdicts before the first refusal are those of the items before the first that does not cover the stretch. -/
lemma exists_leading (g : Grammar α) (input : Array α) (start stop : Nat) (others : List (Keyed (Pattern α))) :
    ∃ leading rest, others = leading ++ rest ∧ (∀ i ∈ leading, g.Covers input i.value start stop) ∧
      (∀ i ∈ rest.head?, ¬g.Covers input i.value start stop) ∧
      alternating (g.verdicts input start stop others) = decide (Odd leading.length) := by
  classical
  refine ⟨others.takeWhile fun i => g.Covers input i.value start stop,
    others.dropWhile fun i => g.Covers input i.value start stop, List.takeWhile_append_dropWhile.symm, ?_, ?_, ?_⟩
  · intro i hi
    simpa using List.mem_takeWhile_imp hi
  · intro i hi
    rw [← List.find?_not_eq_head?_dropWhile] at hi
    simpa using List.find?_some hi
  · rw [alternating_eq, verdicts, List.takeWhile_map, List.length_map]
    rfl

end Grammar

variable {g : Grammar α} {input : Array α} {start : Nat} {item : Keyed (Pattern α)} {others : List (Keyed (Pattern α))}

/-- A difference of items that give answers comes to the same as their nested exclusion. With either sign it stops where
its first item does, and it succeeds if that succeeds and an odd number of the others, or an even number, cover the
stretch before one of them does not. -/
theorem difference_eq_nestedExclusion
    (hanswers : ∀ i ∈ item :: others, ∀ bound, ∃ steps a, g.run input steps i.value start bound = some a)
    (bound : Nat) :
    ∃ steps base nested leading rest,
      g.run input steps item.value start bound = some base ∧
      g.run input steps (item.value.nestedExclusion others) start bound = some nested ∧
      others = leading ++ rest ∧ (∀ i ∈ leading, g.Covers input i.value start base.stop) ∧
      (∀ i ∈ rest.head?, ¬g.Covers input i.value start base.stop) ∧
      (∃ a, g.run input steps (.difference (item :: others) true) start bound = some a ∧
        a.success = nested.success ∧ a.stop = nested.stop) ∧
      ∀ exclude, ∃ a, g.run input steps (.difference (item :: others) exclude) start bound = some a ∧
        a.success = (base.success && (decide (Odd leading.length) != exclude)) ∧ a.stop = base.stop := by
  obtain ⟨m, hdifference⟩ := Grammar.exists_run_difference hanswers bound
  rw [List.forall_mem_cons] at hanswers
  obtain ⟨n, nested, hnested⟩ := Grammar.exists_run_nestedExclusion hanswers.1 hanswers.2 bound
  have hnested := g.run_mono input _ (Nat.le_max_right m n) hnested
  obtain ⟨base, hbase, hstop, hsuccess⟩ := Grammar.run_nestedExclusion_told hnested
  obtain ⟨leading, rest, hothers, hleading, hrest, hodd⟩ := g.exists_leading input start base.stop others
  have htold : ∀ exclude, ∃ a,
      g.run input (max m n) (.difference (item :: others) exclude) start bound = some a ∧
      a.success = (base.success && (decide (Odd leading.length) != exclude)) ∧ a.stop = base.stop := by
    intro exclude
    obtain ⟨a, ha⟩ := hdifference exclude
    have ha := g.run_mono input _ (Nat.le_max_left m n) ha
    obtain ⟨base', hbase', hstop', hsuccess'⟩ := Grammar.run_difference_told ha
    -- brought to one number of steps, the two have the same base
    obtain rfl : base' = base := Option.some.inj (hbase'.symm.trans hbase)
    rw [hodd] at hsuccess'
    exact ⟨a, ha, by rw [hsuccess', bne_comm], hstop'⟩
  refine ⟨max m n, base, nested, leading, rest, hbase, hnested, hothers, hleading, hrest, ?_, htold⟩
  obtain ⟨a, ha, hsuccess', hstop'⟩ := htold true
  refine ⟨a, ha, ?_, hstop'.trans hstop.symm⟩
  rw [hsuccess', hsuccess, hodd, Bool.bne_true]

/-- A letter, but not (a vowel, but not (the empty text, but not an a)). The empty text does not cover the letter, and a
vowel is refused. The nested exclusion looks for an a within the empty text, the difference where the letter is. -/
theorem vowel_eq_nestedExclusion :
    ∃ steps a nested,
      Grammar.parens.run #['a'] steps (.difference [.plain (.range 'a' 'z'), .plain (.oneOf ['a', 'e', 'i', 'o', 'u']),
        .plain .empty, .plain (.one 'a')] true) 0 1 = some a ∧
      Grammar.parens.run #['a'] steps (Pattern.nestedExclusion (.range 'a' 'z')
        [.plain (.oneOf ['a', 'e', 'i', 'o', 'u']), .plain .empty, .plain (.one 'a')]) 0 1 = some nested ∧
      a.success = false ∧ a.stop = 1 ∧ a.success = nested.success ∧ a.stop = nested.stop := by
  have hanswers : ∀ i ∈ [Keyed.plain (.range 'a' 'z'), .plain (.oneOf ['a', 'e', 'i', 'o', 'u']), .plain .empty,
      .plain (.one 'a')], ∀ bound, ∃ steps a, Grammar.parens.run #['a'] steps i.value 0 bound = some a := by
    have hliteral : ∀ test bound, ∃ steps a, Grammar.parens.run #['a'] steps (.literal test) 0 bound = some a :=
      fun test bound => ⟨0, Matcher.literal_answersFrom #['a'] test 0 (Nat.le_refl 0) bound⟩
    simp only [List.forall_mem_cons]
    exact ⟨hliteral _, hliteral _, fun bound => ⟨0, _, rfl⟩, hliteral _, by simp⟩
  obtain ⟨steps, _, nested, _, _, _, hnested, _, _, _, ⟨a, ha, hsame⟩, _⟩ := difference_eq_nestedExclusion hanswers 1
  have hrun : (Grammar.parens.run #['a'] 0 (.difference [.plain (.range 'a' 'z'),
      .plain (.oneOf ['a', 'e', 'i', 'o', 'u']), .plain .empty, .plain (.one 'a')] true) 0 1).any
      (fun a => !a.success && a.stop = 1) := by decide +kernel
  obtain ⟨b, hb, htold⟩ := (Option.any_eq_true _ _).1 hrun
  obtain rfl := Grammar.run_unique _ _ _ ha hb
  simp only [Bool.and_eq_true, Bool.not_eq_true', decide_eq_true_eq] at htold
  exact ⟨steps, a, nested, ha, hnested, htold.1, htold.2, hsame⟩

end PegTrace
