import Mathlib.Order.Basic
import PegTrace.Proofs.Matching.Answers
import PegTrace.Proofs.Matching.Replay
import PegTrace.Proofs.Recognition.Outcome

/-!
# Agreement

An intersection takes its stretch from its first item and gives up at the first item that fails or stops elsewhere, so
the order of the items decides which of them are tried at all. It does not decide what becomes of them: the intersection
stops where all items stop (`Matcher.outcome_intersection_eq_some_iff`), and if there is such a place, all of them were
tried and the whole reaches as far as any of them (`Matcher.intersection_reach_le_iff`).
-/

namespace PegTrace

lemma Attempt.outcome_eq_some_iff {a : Attempt} {place : Nat} :
    a.outcome = some place ↔ a.success ∧ a.stop = place := by
  rw [← covers_iff, covers, Bool.and_eq_true, decide_eq_true_eq]

namespace Matcher

variable {items items' : List (Keyed Matcher)} {start bound stop : Nat} {a a' : Attempt}

/-- An intersection stops where all of its items stop; without items it stops where it starts. -/
lemma outcome_intersection_eq_some_iff : (intersection items).outcome start bound = some (some stop) ↔
    (items = [] → stop = start) ∧ ∀ m ∈ items, m.value.outcome start bound = some (some stop) := by
  cases items with
  | nil =>
    have hnil : (intersection []).outcome start bound = some (some start) := rfl
    rw [hnil, Option.some_inj, Option.some_inj, eq_comm]
    simp
  | cons m items =>
    rw [outcome_intersection_cons, Option.bind_eq_some_iff, List.forall_mem_cons]
    constructor
    · rintro ⟨v, hv, h⟩
      cases v with
      | none => cases h
      | some place =>
        obtain ⟨agree, hagree, h⟩ := Option.map_eq_some_iff.1 h
        obtain ⟨rfl, h⟩ := Option.ite_none_right_eq_some.1 h
        cases h
        exact ⟨nofun, hv, agreeOn_eq_true_iff.1 hagree⟩
    · rintro ⟨-, hv, hitems⟩
      have hagree := agreeOn_eq_true_iff.2 hitems
      exact ⟨some stop, hv, by simp [hagree]⟩

/-- Items that agree are all tried. -/
lemma tryInAgreement_eq_tryEach {agreed : Option Nat} (hagreed : ∀ place ∈ agreed, place = stop)
    (h : ∀ m ∈ items, m.value.outcome start bound = some (some stop)) :
    tryInAgreement start bound agreed items = tryEach start bound items := by
  induction items generalizing agreed with
  | nil => rfl
  | cons m items ih =>
    rw [List.forall_mem_cons] at h
    obtain ⟨a, ha, houtcome⟩ := outcome_eq_some_iff.1 h.1
    obtain ⟨hs, rfl⟩ := Attempt.outcome_eq_some_iff.1 houtcome
    -- no attempt refuses or stops elsewhere, so the agreement is never broken off
    have hgoesOn : a.success && agreed.all (· = a.stop) := by
      rw [hs, Bool.true_and, Option.all_eq_true]
      simpa using hagreed
    have hlater : tryInAgreement start bound (some a.stop) items = tryEach start bound items := by
      apply ih _ h.2
      rintro place ⟨⟩
      rfl
    rw [tryInAgreement, tryEach, ha]
    simp only [Option.bind_eq_bind, Option.bind_some, if_pos hgoesOn, hlater]

lemma reachOf_le_iff {limit : Nat} {tried : List (Keyed Attempt)} (h : tryEach start bound items = some tried) :
    reachOf start tried ≤ limit ↔
      start ≤ limit ∧ ∀ m ∈ items, ∀ b, m.value start bound = some b → b.record.reach ≤ limit := by
  rw [reachOf, Record.farthest_le_iff, List.forall_mem_map]
  refine and_congr_right fun _ => ?_
  induction items generalizing tried with
  | nil =>
    cases h
    simp
  | cons m items ih =>
    simp only [tryEach, Option.bind_eq_bind, Option.bind_eq_some_iff] at h
    obtain ⟨b, hb, later, hlater, h⟩ := h
    cases h
    rw [List.forall_mem_cons, List.forall_mem_cons, ih hlater]
    simp [hb]

/-- An intersection that succeeds reaches as far as any of its items. -/
lemma intersection_reach_le_iff {limit : Nat} (h : intersection items start bound = some a) (hs : a.success) :
    a.record.reach ≤ limit ↔ start ≤ limit ∧ a.stop ≤ limit ∧
      ∀ m ∈ items, ∀ b, m.value start bound = some b → b.record.reach ≤ limit := by
  have houtcome : (intersection items).outcome start bound = some (some a.stop) := by
    rw [outcome_eq_some h, Attempt.outcome_of_success hs]
  have hitems := (outcome_intersection_eq_some_iff.1 houtcome).2
  obtain ⟨tried, htried, h⟩ := Option.bind_eq_some_iff.1 h
  rw [tryInAgreement_eq_tryEach (by simp) hitems] at htried
  have hreach : a.record.reach = max (reachOf start tried) a.stop := by
    cases h
    rfl
  rw [hreach, Nat.max_le, reachOf_le_iff htried]
  exact ⟨fun ⟨⟨hstart, hall⟩, hstop⟩ => ⟨hstart, hstop, hall⟩, fun ⟨hstart, hstop, hall⟩ => ⟨⟨hstart, hall⟩, hstop⟩⟩

/-- Two intersections of the same items that stop at one place reach equally far. -/
lemma intersection_reach_eq (hmem : ∀ m, m ∈ items ↔ m ∈ items') (h : intersection items start bound = some a)
    (h' : intersection items' start bound = some a') (hs : a.success) (hs' : a'.success) (hstop : a.stop = a'.stop) :
    a.record.reach = a'.record.reach := by
  refine eq_of_forall_ge_iff fun limit => ?_
  rw [intersection_reach_le_iff h hs, intersection_reach_le_iff h' hs', hstop]
  simp only [hmem]

end Matcher

variable {α : Type} [DecidableEq α] [LE α] [DecidableLE α]

namespace Grammar

variable {g : Grammar α} {input : Array α} {steps start bound stop : Nat} {items items' : List (Keyed (Pattern α))}
  {a a' : Attempt}

lemma run_intersection (g : Grammar α) (input : Array α) (steps : Nat) (items : List (Keyed (Pattern α)))
    (start bound : Nat) : g.run input steps (.intersection items) start bound =
      Matcher.intersection (items.map (·.map (g.run input steps))) start bound :=
  congrArg (Matcher.intersection · start bound) (Pattern.matchers_eq_map input (g.holes input steps) steps items)

lemma run_intersection_outcome_iff (h : g.run input steps (.intersection items) start bound = some a) :
    a.success ∧ a.stop = stop ↔ (items = [] → stop = start) ∧
      ∀ i ∈ items, ∃ b, g.run input steps i.value start bound = some b ∧ b.success ∧ b.stop = stop := by
  rw [run_intersection] at h
  have houtcome := Matcher.outcome_eq_some h
  rw [← Attempt.outcome_eq_some_iff, ← Option.some_inj, ← houtcome, Matcher.outcome_intersection_eq_some_iff,
    List.map_eq_nil_iff, List.forall_mem_map]
  simp only [Matcher.outcome_eq_some_iff, Attempt.outcome_eq_some_iff]
  rfl

lemma exists_run_intersection (h : ∀ i ∈ items, ∃ a, g.run input steps i.value start bound = some a) :
    ∃ a, g.run input steps (.intersection items) start bound = some a := by
  rw [run_intersection]
  refine Matcher.exists_intersection ?_
  rw [List.forall_mem_map]
  exact h

end Grammar

/-- An intersection does not depend on the order of its items, edits or not: in any order it succeeds or fails alike,
and if it succeeds, it stops at the same place and reaches equally far. It succeeds exactly if all items succeed and
stop at one place, which is where it stops then. -/
theorem run_intersection_perm {g : Grammar α} {input : Array α} {start bound : Nat}
    {items items' : List (Keyed (Pattern α))} (hperm : items.Perm items')
    (hanswers : ∀ i ∈ items, ∃ steps a, g.run input steps i.value start bound = some a) :
    ∃ steps a a', g.run input steps (.intersection items) start bound = some a ∧
      g.run input steps (.intersection items') start bound = some a' ∧
      a.success = a'.success ∧ (a.success → a.stop = a'.stop ∧ a.record.reach = a'.record.reach) ∧
      ∀ stop, a.success ∧ a.stop = stop ↔ (items = [] → stop = start) ∧
        ∀ i ∈ items, ∃ b, g.run input steps i.value start bound = some b ∧ b.success ∧ b.stop = stop := by
  obtain ⟨steps, hsteps⟩ := exists_steps_forall_mem (fun i => g.exists_run_mono input i.value) hanswers
  obtain ⟨a, ha⟩ := Grammar.exists_run_intersection hsteps
  obtain ⟨a', ha'⟩ := Grammar.exists_run_intersection fun i hi => hsteps i (hperm.mem_iff.2 hi)
  -- a success and its stop are told item by item, where the order does not count
  have hstops : ∀ stop, a.success ∧ a.stop = stop ↔ a'.success ∧ a'.stop = stop := by
    intro stop
    rw [Grammar.run_intersection_outcome_iff ha, Grammar.run_intersection_outcome_iff ha']
    simp only [hperm.mem_iff, ← List.isEmpty_iff, hperm.isEmpty_eq]
  have hforth : a.success → a'.success ∧ a'.stop = a.stop := fun hs => (hstops a.stop).1 ⟨hs, rfl⟩
  have hback : a'.success → a.success ∧ a.stop = a'.stop := fun hs => (hstops a'.stop).2 ⟨hs, rfl⟩
  refine ⟨steps, a, a', ha, ha', ?_, ?_, fun stop => Grammar.run_intersection_outcome_iff ha⟩
  · rw [Bool.eq_iff_iff]
    exact ⟨fun hs => (hforth hs).1, fun hs => (hback hs).1⟩
  · intro hs
    obtain ⟨hs', hstop⟩ := hforth hs
    rw [Grammar.run_intersection] at ha ha'
    exact ⟨hstop.symm, Matcher.intersection_reach_eq (fun m => (hperm.map _).mem_iff) ha ha' hs hs' hstop.symm⟩

/-- Parentheses in parentheses, any parentheses at all, and four characters of which the last is a closing one. -/
def fourParens : List (Keyed (Pattern Char)) :=
  [.named "nested" (.hole 0), .plain (.star (.oneOf ['(', ')'])),
    .plain (.concat [.plain (.times (.signed [] true) 3 (some 3)), .plain (.one ')')])]

/-- All of them stop after four characters, and only the second looks at the fifth. -/
theorem fourParens_intersection_perm :
    ∃ steps a a',
      Grammar.parens.run #['(', '(', ')', ')', 'x'] steps (.intersection fourParens) 0 5 = some a ∧
      Grammar.parens.run #['(', '(', ')', ')', 'x'] steps (.intersection fourParens.reverse) 0 5 = some a' ∧
      a.success ∧ a'.success ∧ a'.stop = 4 ∧ a'.record.reach = 5 := by
  have hanswers : ∀ i ∈ fourParens, ∃ steps a,
      Grammar.parens.run #['(', '(', ')', ')', 'x'] steps i.value 0 5 = some a := by
    have hruns : ∀ i ∈ fourParens, (Grammar.parens.run #['(', '(', ')', ')', 'x'] 5 i.value 0 5).isSome := by
      simp only [fourParens, List.forall_mem_cons]
      decide +kernel
    exact fun i hi => ⟨5, Option.isSome_iff_exists.1 (hruns i hi)⟩
  obtain ⟨steps, a, a', ha, ha', hsuccess, hsame, -⟩ :=
    run_intersection_perm (List.reverse_perm fourParens).symm hanswers
  have hrun : (Grammar.parens.run #['(', '(', ')', ')', 'x'] 5 (.intersection fourParens) 0 5).any
      (fun a => a.success && a.stop = 4 && a.record.reach = 5) := by decide +kernel
  obtain ⟨b, hb, htold⟩ := (Option.any_eq_true _ _).1 hrun
  obtain rfl := Grammar.run_unique _ _ _ ha hb
  simp only [Bool.and_eq_true, decide_eq_true_eq] at htold
  obtain ⟨⟨hs, hstop⟩, hreach⟩ := htold
  exact ⟨steps, a, a', ha, ha', hs, hsuccess ▸ hs, (hsame hs).1 ▸ hstop, (hsame hs).2 ▸ hreach⟩

/-- Items that do not agree leave a failed intersection where the first of them stops. -/
example : ([[.plain (.text "ab"), .plain (.one 'a')], [.plain (.one 'a'), .plain (.text "ab")]].map fun items =>
    (Grammar.parens.run #['a', 'b'] 0 (.intersection items) 0 2).map Attempt.stop) = [some 2, some 1] := by
  decide +kernel

end PegTrace
