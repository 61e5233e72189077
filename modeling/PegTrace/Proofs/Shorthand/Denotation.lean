import Mathlib
import PegTrace.Proofs.Recognition.Recogniser
import PegTrace.Record.Stretch
import PegTrace.Shorthand.Meaning

/-!
# What shorthand means

`Compound.denote` says what alternatives in shorthand recognise, directly and by recursion on the expression: nothing is
said of patterns. The pattern that a text in shorthand is compiled to matches what the text denotes, and gives an answer
on every input (`compile_computes_denote`).
-/

namespace PegTrace.Shorthand

/-! ### Denotations -/

/-- Whether the character is a member, or lies in the range. -/
def Member.contains (c : Char) : Member → Bool
  | single d => c = d
  | range first last => first ≤ c && c ≤ last

def CharSet.contains (c : Char) : CharSet → Bool
  | named k => k.holds c
  | custom members => members.any (Member.contains c)

/-- A character up to the case of plain Latin letters, if case is to be folded. -/
def foldCase (fold : Bool) (c : Char) : Char :=
  if fold then c.toLower else c

/-- The given text below the bound. -/
def denoteText (input : Array Char) (bound : Nat) (fold : Bool) (text : List Char) : Recogniser := fun start =>
  let stop := start + text.length
  if stop ≤ bound ∧ (slice input start stop).map (foldCase fold) = text.map (foldCase fold) then some stop else none

def Quantifier.denote (bound : Nat) (f : Recogniser) : Quantifier → Recogniser
  | once => f
  | optional => f.orElse some
  | zeroOrMore => f.star bound
  | oneOrMore => f.andThen (f.star bound)
  | exactly n => f.times n
  | atLeast n => (f.times n).andThen (f.star bound)
  | between n m => (f.times n).andThen (f.upTo (m - n))

mutual

def Element.denote (input : Array Char) (bound : Nat) : Element → Recogniser
  | .set chars negated => .single input bound fun c => chars.contains c != negated
  | .group alternatives => if alternatives.isEmpty then some else denoteFirst input bound alternatives
  | .literal text fold => denoteText input bound fold text

/-- The first alternative that matches. -/
def denoteFirst (input : Array Char) (bound : Nat) : List (List (Quantified Element)) → Recogniser
  | [] => fun _ => none
  | items :: rest => (denoteItems input bound items).orElse (denoteFirst input bound rest)

/-- The items one after the other. -/
def denoteItems (input : Array Char) (bound : Nat) : List (Quantified Element) → Recogniser
  | [] => some
  | ⟨q, e⟩ :: rest => (q.denote bound (e.denote input bound)).andThen (denoteItems input bound rest)

end

/-- The first alternative that matches; without any, the empty text. -/
def Compound.denote (input : Array Char) (bound : Nat) (compound : Compound) : Recogniser :=
  if compound.isEmpty then some else denoteFirst input bound compound

/-! ### Characters -/

lemma CharSet.accepts_test (chars : CharSet) (c : Char) : chars.test.accepts c = chars.contains c := by
  cases chars with
  | named k => simp [test, CharClass.test, CharTest.accepts, contains]
  | custom members =>
    simp only [test, CharTest.accepts, CharTest.verdicts_eq_map, List.map_map, List.any_map, contains]
    congr 1
    funext m
    cases m with
    | single d => simp [Member.test, CharTest.accepts, Member.contains, eq_comm]
    | range first last => simp [Member.test, CharTest.accepts, Member.contains]

lemma accepts_negated (t : CharTest Char) (c : Char) : t.negated.accepts c = !t.accepts c := by
  simp [CharTest.negated, CharTest.accepts, alternating]

lemma toLower_eq_toLower_iff {c d : Char} : d.toLower = c.toLower ↔ d = c.toLower ∨ d = c.toUpper := by
  constructor
  · intro h
    by_cases hd : d.isUpper
    · right
      rw [← Char.toUpper_toLower_eq_toUpper c, ← h, Char.toUpper_toLower_eq_toUpper,
        Char.toUpper_eq_of_not_isLower (Char.not_isLower_of_isUpper hd)]
    · left
      rw [← h, Char.toLower_eq_of_not_isUpper hd]
  · rintro (rfl | rfl)
    · exact Char.toLower_toLower_eq_toLower c
    · exact Char.toLower_toUpper_eq_toLower c

/-- The pattern for one character of a literal. -/
def letterPattern (fold : Bool) (c : Char) : Pattern Char :=
  if fold then .oneIgnoringCase c else .one c

lemma Element.pattern_literal (text : List Char) (fold : Bool) :
    (Element.literal text fold).pattern = .concat (text.map fun c => .plain (letterPattern fold c)) := by
  cases fold <;> simp [Element.pattern, Pattern.textIgnoringCase, Pattern.text, Pattern.sequence, letterPattern]

lemma letterPattern_eq_literal (fold : Bool) (c : Char) : ∃ test, letterPattern fold c = .literal test ∧
    ∀ d, test.accepts d = decide (foldCase fold d = foldCase fold c) := by
  cases fold with
  | false => exact ⟨.equals c, rfl, by simp [CharTest.accepts, foldCase, eq_comm]⟩
  | true =>
    by_cases hcase : c.toLower = c.toUpper
    · -- a character without case is its own lower case
      have hself : c.toLower = c := by
        rcases toLower_eq_toLower_iff.1 (Eq.refl c.toLower) with h | h
        · exact h.symm
        · exact hcase.trans h.symm
      refine ⟨.equals c, by simp [letterPattern, Pattern.oneIgnoringCase, hcase, Pattern.one], ?_⟩
      intro d
      have hd : d.toLower = c.toLower ↔ c = d := by rw [toLower_eq_toLower_iff, ← hcase, or_self, hself, eq_comm]
      simp [CharTest.accepts, foldCase, hd]
    · refine ⟨.set [c.toLower, c.toUpper], ?_, ?_⟩
      · simp [letterPattern, Pattern.oneIgnoringCase, hcase, Pattern.oneOf]
      · intro d
        simp [CharTest.accepts, foldCase, toLower_eq_toLower_iff]

lemma slice_succ {input : Array Char} {start : Nat} {c : Char} (h : input[start]? = some c) (n : Nat) :
    slice input start (start + (n + 1)) = c :: slice input (start + 1) (start + 1 + n) := by
  simp [slice, List.extract_eq_take_drop, drop_of_getElem? h]

lemma slice_eq_nil {input : Array Char} {start : Nat} (h : input[start]? = none) (stop : Nat) :
    slice input start stop = [] := by
  have hsize : input.size ≤ start := by simpa using h
  simp [slice]
  omega

/-- The first character of a literal, and the others after it. -/
lemma denoteText_cons (input : Array Char) (bound : Nat) (fold : Bool) (c : Char) (text : List Char) :
    denoteText input bound fold (c :: text) =
      (Recogniser.single input bound fun d => decide (foldCase fold d = foldCase fold c)).andThen
        (denoteText input bound fold text) := by
  funext start
  have hlength : start + (text.length + 1) = start + 1 + text.length := by omega
  simp only [denoteText, Recogniser.single, Recogniser.andThen, List.length_cons]
  cases hd : input[start]? with
  | none => simp [slice_eq_nil hd]
  | some d =>
    rw [slice_succ hd, hlength]
    by_cases hcase : foldCase fold d = foldCase fold c
    · by_cases hbound : start < bound
      · simp [hcase, hbound, denoteText]
      · -- no room for the first character, so none for all of them
        have : ¬ start + 1 + text.length ≤ bound := by omega
        simp [hbound, this]
    · simp [hcase]

/-! ### Patterns compute denotations -/

section Computes

variable {g : Grammar Char} {input : Array Char} {steps bound : Nat}

lemma computes_text (fold : Bool) (text : List Char) :
    (g.run input steps (.concat (text.map fun c => .plain (letterPattern fold c)))).Computes bound
      (denoteText input bound fold text) := by
  induction text with
  | nil =>
    refine Grammar.computes_concat_nil.congr ?_
    intro start hstart
    simp [denoteText, slice, hstart]
  | cons c text ih =>
    obtain ⟨test, hpattern, haccepts⟩ := letterPattern_eq_literal fold c
    have hletter : (g.run input steps (.literal test)).Computes bound _ := Grammar.computes_literal test
    rw [funext haccepts, ← hpattern] at hletter
    rw [denoteText_cons]
    exact Grammar.computes_concat_cons hletter ih

lemma computes_set (chars : CharSet) (negated : Bool) :
    (g.run input steps (.literal (if negated then chars.test.negated else chars.test))).Computes bound
      (.single input bound fun c => chars.contains c != negated) := by
  have haccepts : (if negated then chars.test.negated else chars.test).accepts =
      fun c => chars.contains c != negated := by
    funext c
    cases negated <;> simp [accepts_negated, CharSet.accepts_test]
  rw [← haccepts]
  exact Grammar.computes_literal _

lemma computes_quantifier (hsteps : bound < steps) {p : Pattern Char} {f : Recogniser}
    (h : (g.run input steps p).Computes bound f) (q : Quantifier) :
    (g.run input steps (q.pattern p)).Computes bound (q.denote bound f) := by
  cases q with
  | once => exact h
  | optional => exact Grammar.computes_optional h
  | zeroOrMore => exact Grammar.computes_star h hsteps
  | oneOrMore => exact Grammar.computes_oneOrMore h hsteps
  | exactly n =>
    have hn := Grammar.computes_times h hsteps n n
    have hnone : (f.times n).andThen (f.upTo 0) = f.times n := (f.times n).andThen_some
    rw [Nat.sub_self, hnone] at hn
    exact hn
  | atLeast n => exact Grammar.computes_repetition h hsteps n none
  | between n m => exact Grammar.computes_times h hsteps n m

lemma computes_concatOf {ps : List (Pattern Char)} {f : Recogniser}
    (h : (g.run input steps (.concat (ps.map .plain))).Computes bound f) :
    (g.run input steps (concatOf ps)).Computes bound f := by
  unfold concatOf
  split
  · exact Grammar.computes_of_concat_singleton h
  · exact h

lemma computes_choiceOf {ps : List (Pattern Char)} {f : Recogniser} (hps : ps ≠ [])
    (h : (g.run input steps (.choice (ps.map .plain))).Computes bound f) :
    (g.run input steps (choiceOf ps)).Computes bound f := by
  unfold choiceOf
  split
  · exact absurd rfl hps
  · exact Grammar.computes_of_choice_singleton h
  · exact h

mutual

lemma Element.computes_denote (hsteps : bound < steps) (e : Element) :
    (g.run input steps e.pattern).Computes bound (e.denote input bound) := by
  match e with
  | .set chars negated =>
    rw [Element.pattern, Element.denote]
    exact computes_set chars negated
  | .literal text fold =>
    rw [Element.pattern_literal, Element.denote]
    exact computes_text fold text
  | .group [] =>
    simp only [Element.pattern, Element.denote, alternativePatterns]
    exact Grammar.computes_empty
  | .group (items :: rest) =>
    have h := computes_denoteFirst hsteps (items :: rest)
    simp only [Element.pattern, Element.denote]
    exact computes_choiceOf (by simp [alternativePatterns]) h

lemma computes_denoteFirst (hsteps : bound < steps) (alternatives : List (List (Quantified Element))) :
    (g.run input steps (.choice ((alternativePatterns alternatives).map .plain))).Computes bound
      (denoteFirst input bound alternatives) := by
  match alternatives with
  | [] =>
    simp only [alternativePatterns, denoteFirst]
    exact Grammar.computes_choice_nil
  | items :: rest =>
    simp only [alternativePatterns, denoteFirst]
    exact Grammar.computes_choice_cons (computes_concatOf (computes_denoteItems hsteps items))
      (computes_denoteFirst hsteps rest)

lemma computes_denoteItems (hsteps : bound < steps) (items : List (Quantified Element)) :
    (g.run input steps (.concat ((itemPatterns items).map .plain))).Computes bound (denoteItems input bound items) := by
  match items with
  | [] =>
    simp only [itemPatterns, denoteItems]
    exact Grammar.computes_concat_nil
  | ⟨q, e⟩ :: rest =>
    simp only [itemPatterns, denoteItems]
    exact Grammar.computes_concat_cons (computes_quantifier hsteps (e.computes_denote hsteps) q)
      (computes_denoteItems hsteps rest)

end

end Computes

/-- A text in shorthand that can be read is compiled to a pattern that gives an answer on every input: from a place up
to the bound, it stops where the expression says, and fails where the expression does. -/
theorem compile_computes_denote {text : List Char} {compound : Compound} (h : parse text = .ok compound)
    (g : Grammar Char) (input : Array Char) {start bound : Nat} (hstart : start ≤ bound) (hbound : bound ≤ input.size) :
    ∃ p a, compile text = .ok p ∧ g.matcher input p start bound = some a ∧
      compound.denote input bound start = if a.success then some a.record.stop else none := by
  have hcompile : compile text = .ok compound.pattern := by rw [compile, h]; rfl
  have hcomputes : (g.matcher input compound.pattern).Computes bound (compound.denote input bound) := by
    have hgroup : (g.matcher input (Element.group compound).pattern).Computes bound _ :=
      Element.computes_denote (hbound.trans_lt (g.size_lt_budget input)) _
    rwa [Element.pattern, Element.denote] at hgroup
  obtain ⟨a, ha, houtcome⟩ := Matcher.outcome_eq_some_iff.1 (hcomputes.outcome_eq start hstart)
  exact ⟨compound.pattern, a, hcompile, ha, houtcome.symm⟩

/-- Rounds that may be empty: `[2,](?N)'x'` -/
theorem optionalDigits_computes_denote :
    let text := ['[', '2', ',', ']', '(', '?', 'N', ')', '\x27', 'x', '\x27']
    let compound : Compound := [[⟨.atLeast 2, .group [[⟨.optional, .set (.named .digit) false⟩]]⟩,
      ⟨.once, .literal ['x'] true⟩]]
    parse text = .ok compound ∧ ∃ p a, compile text = .ok p ∧
      ({} : Grammar Char).matcher #['-', '7', 'X'] p 1 3 = some a ∧
      compound.denote #['-', '7', 'X'] 3 1 = if a.success then some a.record.stop else none := by
  intro text compound
  have hparse : parse text = .ok compound := rfl
  exact ⟨hparse, compile_computes_denote hparse {} _ (by decide) (by decide)⟩

end PegTrace.Shorthand
