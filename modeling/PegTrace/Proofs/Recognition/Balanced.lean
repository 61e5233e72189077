import PegTrace.Proofs.Recognition.Recogniser
import PegTrace.Record.Stretch
import PegTrace.Search

/-!
# Balanced parentheses

A pattern that repeats groups in parentheses and other characters, where the inside of a group is the pattern itself,
matches the longest balanced text that begins at a place, although a repetition gives nothing back: the inside of a
group takes all that it can, and if the group is closed at all, it is closed there. Where a group is not closed, nothing
of it is taken (`parenthesized_recognises_balanced`).
-/

namespace PegTrace

/-! ### Balanced texts -/

/-- Texts of which the parentheses match; other characters do not count. -/
inductive Balanced : List Char → Prop where
  | nil : Balanced []
  | group {inner rest : List Char} (hinner : Balanced inner) (hrest : Balanced rest) :
      Balanced ('(' :: (inner ++ ')' :: rest))
  | other {c : Char} {rest : List Char} (hopen : c ≠ '(') (hclose : c ≠ ')') (hrest : Balanced rest) :
      Balanced (c :: rest)

/-- How many groups are open after a text, unless it closes one that is not open. -/
def depthAfter (depth : Nat) : List Char → Option Nat
  | [] => some depth
  | c :: rest =>
    if c = '(' then depthAfter (depth + 1) rest
    else if c = ')' then if depth = 0 then none else depthAfter (depth - 1) rest
    else depthAfter depth rest

lemma depthAfter_open (depth : Nat) (rest : List Char) : depthAfter depth ('(' :: rest) = depthAfter (depth + 1) rest :=
  if_pos rfl

lemma depthAfter_close (depth : Nat) (rest : List Char) :
    depthAfter (depth + 1) (')' :: rest) = depthAfter depth rest := by
  rw [depthAfter, if_neg (by decide), if_pos rfl, if_neg (Nat.succ_ne_zero depth), Nat.add_sub_cancel]

lemma depthAfter_zero_close (rest : List Char) : depthAfter 0 (')' :: rest) = none := by
  rw [depthAfter, if_neg (by decide), if_pos rfl, if_pos rfl]

lemma depthAfter_other {c : Char} (hopen : c ≠ '(') (hclose : c ≠ ')') (depth : Nat) (rest : List Char) :
    depthAfter depth (c :: rest) = depthAfter depth rest := by
  rw [depthAfter, if_neg hopen, if_neg hclose]

/-- A balanced text leaves the depth as it is. -/
lemma Balanced.depthAfter_append {w : List Char} (h : Balanced w) (depth : Nat) (rest : List Char) :
    depthAfter depth (w ++ rest) = depthAfter depth rest := by
  induction h generalizing depth rest with
  | nil => rfl
  | group _ _ ihinner ihrest =>
    rw [List.cons_append, List.append_assoc, List.cons_append, depthAfter_open, ihinner, depthAfter_close, ihrest]
  | other hopen hclose _ ih => rw [List.cons_append, depthAfter_other hopen hclose, ih]

/-- A parenthesis that closes what comes before a balanced text cannot be part of the text. -/
lemma Balanced.not_append_close {w : List Char} (h : Balanced w) (rest : List Char) :
    ¬ Balanced (w ++ ')' :: rest) := by
  intro h'
  have hdepth := h'.depthAfter_append 0 []
  rw [List.append_assoc, h.depthAfter_append, List.cons_append, depthAfter_zero_close] at hdepth
  cases hdepth

/-- Balanced texts that begin where another one stands before a closing parenthesis are part of it. -/
lemma Balanced.isPrefix_of_close {v w rest : List Char} (hv : Balanced v) (hw : Balanced w)
    (h : w <+: v ++ ')' :: rest) : w <+: v := by
  rcases List.prefix_or_prefix_of_prefix h (List.prefix_append v (')' :: rest)) with hprefix | ⟨tail, rfl⟩
  · exact hprefix
  · cases tail with
    | nil =>
      -- the two end together
      simp
    | cons c tail =>
      -- otherwise the longer one would hold the parenthesis that closes what is around it
      have hc : c = ')' := (List.cons_prefix_cons.1 ((List.prefix_append_right_inj v).1 h)).1
      subst hc
      exact absurd hw (hv.not_append_close tail)

/-- What a closing parenthesis closes is not in doubt. -/
lemma Balanced.eq_of_close {v w rest others : List Char} (hv : Balanced v) (hw : Balanced w)
    (h : v ++ ')' :: rest <+: w ++ ')' :: others) : v = w := by
  obtain ⟨tail, htail⟩ := h
  have hvw : v <+: w := hw.isPrefix_of_close hv ⟨_, (List.append_assoc v (')' :: rest) tail).symm.trans htail⟩
  have hwv : w <+: v := by
    rw [List.append_assoc] at htail
    exact hv.isPrefix_of_close hw ⟨_, htail.symm⟩
  exact hvw.eq_of_length_le hwv.length_le

/-! ### The longest balanced text -/

/-- The longest balanced text that another text begins with. -/
structure LongestBalanced (w text : List Char) : Prop where
  leads : w <+: text
  balanced : Balanced w
  longest : ∀ v, v <+: text → Balanced v → v.length ≤ w.length

namespace LongestBalanced

variable {inner v w text : List Char}

lemma eq (hv : LongestBalanced v text) (hw : LongestBalanced w text) : v = w := by
  have hlength : v.length = w.length :=
    Nat.le_antisymm (hw.longest v hv.leads hv.balanced) (hv.longest w hw.leads hw.balanced)
  exact (List.prefix_of_prefix_length_le hv.leads hw.leads (Nat.le_of_eq hlength)).eq_of_length hlength

lemma eq_of_close {rest : List Char} (h : LongestBalanced w (v ++ ')' :: rest)) (hv : Balanced v) : w = v :=
  (hv.isPrefix_of_close h.balanced h.leads).eq_of_length_le (h.longest v (List.prefix_append v _) hv)

lemma exists_after (h : LongestBalanced inner text) (hclosed : (text.drop inner.length).head? = some ')') :
    ∃ after, text = inner ++ ')' :: after := by
  obtain ⟨tail, rfl⟩ := h.leads
  rw [List.drop_left, List.head?_eq_some_iff] at hclosed
  obtain ⟨after, rfl⟩ := hclosed
  exact ⟨after, rfl⟩

/-- The longest inside closes a text, with one parenthesis after it, if any balanced inside does. -/
lemma closes_iff (h : LongestBalanced inner text) :
    (text.drop inner.length).head? = some ')' ∧ inner.length + 1 = text.length ↔
      ∃ w, Balanced w ∧ text = w ++ [')'] := by
  constructor
  · rintro ⟨hclosed, hlength⟩
    obtain ⟨after, rfl⟩ := h.exists_after hclosed
    have hafter : after = [] := List.length_eq_zero_iff.1 (by simpa [Nat.add_assoc] using hlength)
    exact ⟨inner, h.balanced, by rw [hafter]⟩
  · rintro ⟨w, hw, rfl⟩
    obtain rfl := h.eq_of_close hw
    simp

lemma nil : LongestBalanced [] [] where
  leads := List.nil_prefix
  balanced := .nil
  longest := fun _ hv _ => hv.length_le

/-- Nothing comes before a parenthesis that closes no group. -/
lemma close (rest : List Char) : LongestBalanced [] (')' :: rest) where
  leads := List.nil_prefix
  balanced := .nil
  longest := fun _ hv hbalanced => (Balanced.nil.isPrefix_of_close hbalanced hv).length_le

lemma other (h : LongestBalanced w text) {c : Char} (hopen : c ≠ '(') (hclose : c ≠ ')') :
    LongestBalanced (c :: w) (c :: text) where
  leads := List.cons_prefix_cons.2 ⟨rfl, h.leads⟩
  balanced := .other hopen hclose h.balanced
  longest := by
    intro v hv hbalanced
    cases hbalanced with
    | nil => exact Nat.zero_le _
    | group => exact absurd (List.cons_prefix_cons.1 hv).1.symm hopen
    | other _ _ hrest => exact Nat.succ_le_succ (h.longest _ (List.cons_prefix_cons.1 hv).2 hrest)

lemma group (h : LongestBalanced w text) (hinner : Balanced inner) :
    LongestBalanced ('(' :: (inner ++ ')' :: w)) ('(' :: (inner ++ ')' :: text)) where
  leads := by simpa using h.leads
  balanced := .group hinner h.balanced
  longest := by
    intro v hv hbalanced
    cases hbalanced with
    | nil => exact Nat.zero_le _
    | group hv' hrest =>
      have hopened := (List.cons_prefix_cons.1 hv).2
      -- both begin with the same group, since there is one place only where it can be closed
      obtain rfl := hv'.eq_of_close hinner hopened
      have hle := h.longest _ (by simpa using hopened) hrest
      simpa using hle
    | other hopen => exact absurd (List.cons_prefix_cons.1 hv).1 hopen

/-- Nothing is taken of a group that is not closed after the longest inside that it can have. -/
lemma unclosed (h : LongestBalanced inner text) (hopen : (text.drop inner.length).head? ≠ some ')') :
    LongestBalanced [] ('(' :: text) where
  leads := List.nil_prefix
  balanced := .nil
  longest := by
    intro v hv hbalanced
    cases hbalanced with
    | nil => exact Nat.le_refl 0
    | group hinside =>
      obtain ⟨tail, rfl⟩ := (List.cons_prefix_cons.1 hv).2
      -- what is inside would be the longest, and then it would be closed after all
      rw [List.append_assoc, List.cons_append] at h hopen
      obtain rfl := h.eq_of_close hinside
      simp at hopen
    | other hother => exact absurd (List.cons_prefix_cons.1 hv).1 hother

end LongestBalanced

/-! ### Patterns for parentheses -/

/-- What is in the hole, in parentheses. -/
def Pattern.parenthesized (id : Nat) : Pattern Char :=
  concat [.plain (one '('), .plain (hole id), .plain (one ')')]

/-- What is in the hole, in parentheses, or a character that passes the test. -/
def Pattern.groupOr (group other : Option Key) (test : CharTest Char) (id : Nat) : Pattern Char :=
  choice [⟨group, parenthesized id⟩, ⟨other, literal test⟩]

/-- The matcher takes the longest balanced text from here. -/
def Matcher.TakesBalanced (m : Matcher) (input : Array Char) (start bound : Nat) : Prop :=
  ∃ w, LongestBalanced w (slice input start bound) ∧ m.outcome start bound = some (some (start + w.length))

namespace Grammar

variable {g : Grammar Char} {input : Array Char} {id steps rounds start bound n : Nat} {text : List Char}
  {group other : Option Key} {test : CharTest Char}

lemma outcome_run_literal_eq_head? : (g.run input steps (.literal test)).outcome start bound =
    some (if (slice input start bound).head?.any test.accepts then some (start + 1) else none) := by
  rw [outcome_run_literal, Matcher.head?_slice]

lemma outcome_run_one (c : Char) : (g.run input steps (.one c)).outcome start bound =
    some (if (slice input start bound).head? = some c then some (start + 1) else none) := by
  rw [Pattern.one, outcome_run_literal_eq_head?]
  cases (slice input start bound).head? with
  | none => rfl
  | some d => simp [CharTest.accepts, eq_comm]

lemma outcome_run_parenthesized_of_ne (hopen : (slice input start bound).head? ≠ some '(') :
    (g.run input steps (.parenthesized id)).outcome start bound = some none := by
  rw [Pattern.parenthesized, outcome_run_concat_cons, Keyed.plain, outcome_run_one, if_neg hopen]
  rfl

/-- A group is closed where its inside stops, or not at all. -/
lemma outcome_run_parenthesized (htext : slice input start bound = '(' :: text)
    (hhole : (g.run input steps (.hole id)).outcome (start + 1) bound = some (some (start + 1 + n))) :
    (g.run input steps (.parenthesized id)).outcome start bound =
      some (if (text.drop n).head? = some ')' then some (start + 1 + n + 1) else none) := by
  have hopen : (slice input start bound).head? = some '(' := by rw [htext, List.head?_cons]
  have hinside : slice input (start + 1 + n) bound = text.drop n := by
    rw [← drop_slice, slice_succ_of_eq_cons htext]
  simp only [Pattern.parenthesized, Keyed.plain, outcome_run_concat_cons, outcome_run_one, hopen, hhole, hinside,
    if_true, Option.bind_some]
  split_ifs with hclose
  · rfl
  · rfl

lemma outcome_run_groupOr_of_group {stop : Nat}
    (hgroup : (g.run input steps (.parenthesized id)).outcome start bound = some (some stop)) :
    (g.run input steps (.groupOr group other test id)).outcome start bound = some (some stop) := by
  rw [Pattern.groupOr, outcome_run_choice_cons, hgroup]
  rfl

lemma outcome_run_groupOr_of_not_group
    (hgroup : (g.run input steps (.parenthesized id)).outcome start bound = some none) (group other : Option Key)
    (test : CharTest Char) :
    (g.run input steps (.groupOr group other test id)).outcome start bound =
      some (if (slice input start bound).head?.any test.accepts then some (start + 1) else none) := by
  rw [Pattern.groupOr, outcome_run_choice_cons, hgroup, Option.bind_some, outcome_run_choice_cons,
    outcome_run_literal_eq_head?]
  split_ifs with htest
  · rfl
  · rfl

/-! ### Taking the longest balanced text -/

section

variable {m : Matcher}

lemma takesBalanced_of_refused (hm : m.outcome start bound = some none)
    (h : LongestBalanced [] (slice input start bound)) (rounds : Nat) :
    (Matcher.repetition m 0 none (rounds + 1)).TakesBalanced input start bound := by
  refine ⟨[], h, ?_⟩
  rw [Matcher.outcome_repetition_succ m rounds (.inr (by simp)), hm]
  rfl

lemma takesBalanced_of_accepted (front : List Char) (hfront : 0 < front.length)
    (hm : m.outcome start bound = some (some (start + front.length)))
    (hrest : (Matcher.repetition m 0 none rounds).TakesBalanced input (start + front.length) bound)
    (h : ∀ w, LongestBalanced w (slice input (start + front.length) bound) →
      LongestBalanced (front ++ w) (slice input start bound)) :
    (Matcher.repetition m 0 none (rounds + 1)).TakesBalanced input start bound := by
  obtain ⟨w, hw, hstop⟩ := hrest
  refine ⟨front ++ w, h w hw, ?_⟩
  have hmoves : ¬ start + front.length ≤ start := by omega
  rw [Matcher.outcome_repetition_succ m rounds (.inr (by simp)), hm, Option.bind_some, List.length_append,
    ← Nat.add_assoc]
  exact (if_neg hmoves).trans hstop

end

variable (htest : ∀ c, test.accepts c ↔ c ≠ '(' ∧ c ≠ ')')

include htest

/-- Where no group is opened, a character other than a parenthesis is taken, or nothing. -/
lemma takesBalanced_of_not_open (hopen : (slice input start bound).head? ≠ some '(')
    (hlater : slice input start bound ≠ [] →
      (Matcher.repetition (g.run input steps (.groupOr group other test id)) 0 none rounds).TakesBalanced input
        (start + 1) bound) :
    (Matcher.repetition (g.run input steps (.groupOr group other test id)) 0 none (rounds + 1)).TakesBalanced input
      start bound := by
  have hgroup : (g.run input steps (.parenthesized id)).outcome start bound = some none :=
    outcome_run_parenthesized_of_ne hopen
  have hitem := outcome_run_groupOr_of_not_group hgroup group other test
  cases htext : slice input start bound with
  | nil =>
    rw [htext] at hitem
    -- at the end of the stretch, nothing is left to take
    exact takesBalanced_of_refused hitem (htext ▸ .nil) rounds
  | cons c text =>
    rw [htext, List.head?_cons, Option.any_some] at hitem
    by_cases hclose : c = ')'
    · -- a closing parenthesis is refused, and no balanced text begins with it
      subst hclose
      have hrefused : ¬ test.accepts ')' := fun haccepts => ((htest ')').1 haccepts).2 rfl
      rw [if_neg hrefused] at hitem
      exact takesBalanced_of_refused hitem (htext ▸ .close text) rounds
    · -- any other character is taken, and the rounds after it take the longest that follows
      have hother : c ≠ '(' := by simpa [htext] using hopen
      rw [if_pos ((htest c).2 ⟨hother, hclose⟩)] at hitem
      refine takesBalanced_of_accepted [c] Nat.one_pos hitem (hlater (by simp [htext])) fun w hw => ?_
      rw [List.length_singleton, slice_succ_of_eq_cons htext] at hw
      rw [htext]
      exact hw.other hother hclose

variable (hbody : g.body? id = some (.star (.groupOr group other test id)))

include hbody

/-- The group is taken if it is closed where its inside stops, and nothing is taken if it is not. -/
lemma takesBalanced_open (htext : slice input start bound = '(' :: text)
    (hinner : (Matcher.repetition (g.run input steps (.groupOr group other test id)) 0 none steps).TakesBalanced input
      (start + 1) bound)
    (hlater : ∀ place, start < place →
      (Matcher.repetition (g.run input (steps + 1) (.groupOr group other test id)) 0 none rounds).TakesBalanced input
        place bound) :
    (Matcher.repetition (g.run input (steps + 1) (.groupOr group other test id)) 0 none (rounds + 1)).TakesBalanced
      input start bound := by
  obtain ⟨inner, hinner, hstop⟩ := hinner
  rw [slice_succ_of_eq_cons htext] at hinner
  -- the hole has a step less to spend than the pattern around it
  have hhole : (g.run input (steps + 1) (.hole id)).outcome (start + 1) bound =
      some (some (start + 1 + inner.length)) := by
    rw [g.run_hole_of_body? input steps hbody]
    exact hstop
  have hgroup := outcome_run_parenthesized htext hhole
  by_cases hclosed : (text.drop inner.length).head? = some ')'
  · -- the group is closed, and the rounds go on after it
    obtain ⟨after, rfl⟩ := hinner.exists_after hclosed
    rw [if_pos hclosed] at hgroup
    have hlength : start + 1 + inner.length + 1 = start + ('(' :: (inner ++ [')'])).length := by
      simp only [List.length_cons, List.length_append, List.length_nil]
      omega
    rw [hlength] at hgroup
    refine takesBalanced_of_accepted ('(' :: (inner ++ [')'])) (Nat.succ_pos _) (outcome_run_groupOr_of_group hgroup)
      (hlater _ (by simp)) fun w hw => ?_
    rw [← drop_slice, htext] at hw
    simpa [htext] using LongestBalanced.group (by simpa using hw) hinner.balanced
  · -- the group is not closed, and an opening parenthesis by itself is no text either
    rw [if_neg hclosed] at hgroup
    have hrefused : ¬ test.accepts '(' := fun haccepts => ((htest '(').1 haccepts).1 rfl
    have hitem := outcome_run_groupOr_of_not_group hgroup group other test
    rw [htext, List.head?_cons, Option.any_some, if_neg hrefused] at hitem
    exact takesBalanced_of_refused hitem (htext ▸ hinner.unclosed hclosed) rounds

/-- By induction on what is left to read, for any number of rounds and of steps beyond that: the inside of a group is
read with one step less. -/
lemma takesBalanced (hsteps : (slice input start bound).length < steps)
    (hrounds : (slice input start bound).length < rounds) :
    (Matcher.repetition (g.run input steps (.groupOr group other test id)) 0 none rounds).TakesBalanced input start
      bound := by
  induction hn : (slice input start bound).length using Nat.strongRecOn generalizing start steps rounds with
  | ind n ih =>
    obtain ⟨rounds, rfl⟩ := Nat.exists_eq_add_one_of_ne_zero (Nat.ne_zero_of_lt hrounds)
    obtain ⟨steps, rfl⟩ := Nat.exists_eq_add_one_of_ne_zero (Nat.ne_zero_of_lt hsteps)
    -- whatever is taken first, what is left is shorter, within a group or after it
    have hshorter : slice input start bound ≠ [] → ∀ place, start < place → (slice input place bound).length < n := by
      intro hne place hplace
      have hpos := List.length_pos_of_ne_nil hne
      rw [length_slice] at hn hpos ⊢
      omega
    have hlater : slice input start bound ≠ [] → ∀ place, start < place →
        (Matcher.repetition (g.run input (steps + 1) (.groupOr group other test id)) 0 none rounds).TakesBalanced input
          place bound := by
      intro hne place hplace
      have hlt := hshorter hne place hplace
      exact ih _ hlt (by omega) (by omega) rfl
    by_cases hopen : (slice input start bound).head? = some '('
    · obtain ⟨text, htext⟩ := List.head?_eq_some_iff.1 hopen
      have hne : slice input start bound ≠ [] := by simp [htext]
      have hlt := hshorter hne (start + 1) (Nat.lt_succ_self start)
      exact takesBalanced_open htest hbody htext (ih _ hlt (by omega) (by omega) rfl) (hlater hne)
    · exact takesBalanced_of_not_open htest hopen fun hne => hlater hne _ (Nat.lt_succ_self start)

/-- The hole takes one step more than what is in it. -/
lemma takesBalanced_hole (hsteps : (slice input start bound).length < steps) :
    (g.run input (steps + 1) (.hole id)).TakesBalanced input start bound := by
  obtain ⟨w, hw, hstop⟩ := takesBalanced htest hbody hsteps hsteps
  rw [Matcher.TakesBalanced, g.run_hole_of_body? input steps hbody]
  exact ⟨w, hw, hstop⟩

/-- All that stands before the bound is one group. -/
lemma outcome_run_parenthesized_iff (hsteps : (slice input start bound).length < steps)
    (hstart : start ≤ bound) (hbound : bound ≤ input.size) :
    ∃ v, (g.run input (steps + 1) (.parenthesized id)).outcome start bound = some v ∧
      (v = some bound ↔ ∃ w, Balanced w ∧ slice input start bound = '(' :: (w ++ [')'])) := by
  by_cases hopen : (slice input start bound).head? = some '('
  · obtain ⟨text, htext⟩ := List.head?_eq_some_iff.1 hopen
    have hrest : slice input (start + 1) bound = text := slice_succ_of_eq_cons htext
    have hlength : text.length + 1 = bound - start := by
      rw [← List.length_cons, ← htext, length_slice, Nat.min_eq_left hbound]
    have hinside : (slice input (start + 1) bound).length < steps := by
      rw [hrest]
      rw [htext] at hsteps
      exact Nat.lt_of_succ_lt hsteps
    obtain ⟨inner, hinner, hstop⟩ := takesBalanced_hole htest hbody hinside
    rw [hrest] at hinner
    refine ⟨_, outcome_run_parenthesized htext hstop, ?_⟩
    simp only [htext, List.cons.injEq, true_and]
    -- the hole takes the longest inside, so it need only be asked whether this one closes the text
    rw [← hinner.closes_iff]
    by_cases hclosed : (text.drop inner.length).head? = some ')'
    · rw [if_pos hclosed, Option.some_inj]
      constructor
      · intro h
        exact ⟨hclosed, by omega⟩
      · rintro ⟨_, h⟩
        omega
    · rw [if_neg hclosed]
      exact iff_of_false (Option.some_ne_none bound).symm fun h => hclosed h.1
  · -- no group without a parenthesis that opens it
    refine ⟨none, outcome_run_parenthesized_of_ne hopen, ?_⟩
    refine iff_of_false (Option.some_ne_none bound).symm ?_
    rintro ⟨w, _, htext⟩
    rw [htext] at hopen
    exact hopen rfl

end Grammar

/-- Let a hole contain any number of groups, which are the hole in parentheses, and of other characters. A group matches
the whole of an input if and only if the input is a balanced text in parentheses, and the hole matches everywhere: it
takes the longest balanced text from there. Both give an answer on every input. -/
theorem parenthesized_recognises_balanced {g : Grammar Char} {id : Nat} {group other : Option Key}
    {test : CharTest Char} (hbody : g.body? id = some (.star (.groupOr group other test id)))
    (htest : ∀ c, test.accepts c ↔ c ≠ '(' ∧ c ≠ ')') (input : Array Char) :
    (∃ a, Search.matchWhole (g.matcher input (.parenthesized id)) input.size = some a ∧
      (a.success ↔ ∃ w, Balanced w ∧ input.toList = '(' :: (w ++ [')']))) ∧
    ∀ start bound, ∃ a w, g.matcher input (.hole id) start bound = some a ∧ a.success ∧
      LongestBalanced w (slice input start bound) ∧ a.stop = start + w.length := by
  -- the budget has a step to spare for the hole itself
  have hbudget : input.size + 2 ≤ g.budget input :=
    Nat.le_trans (Nat.le_mul_of_pos_right _ (Nat.succ_pos _)) (Nat.le_add_right _ _)
  obtain ⟨steps, hsteps, hlt⟩ : ∃ steps, g.budget input = steps + 1 ∧ input.size < steps :=
    ⟨g.budget input - 1, by omega, by omega⟩
  have hlength : ∀ start bound, (slice input start bound).length < steps := by
    intro start bound
    rw [length_slice]
    omega
  simp only [Grammar.matcher, hsteps]
  refine ⟨?_, fun start bound => ?_⟩
  · obtain ⟨v, hv, hiff⟩ := Grammar.outcome_run_parenthesized_iff htest hbody (hlength 0 input.size) (Nat.zero_le _)
      (Nat.le_refl _)
    obtain ⟨a, ha, rfl⟩ := Matcher.outcome_eq_some_iff.1 hv
    have hwhole : slice input 0 input.size = input.toList := by rw [slice, Array.extract_size]
    rw [hwhole] at hiff
    refine ⟨{ a with success := a.covers input.size }, ?_, Attempt.covers_iff.trans hiff⟩
    rw [Search.matchWhole, ha]
    rfl
  · obtain ⟨w, hw, hstop⟩ := Grammar.takesBalanced_hole htest hbody (hlength start bound)
    obtain ⟨a, ha, houtcome⟩ := Matcher.outcome_eq_some_iff.1 hstop
    obtain ⟨hs, hend⟩ := Option.ite_none_right_eq_some.1 houtcome
    exact ⟨a, w, ha, hs, hw, Option.some_inj.1 hend⟩

/-- A grammar of nested groups. -/
def Grammar.nested : Grammar Char where
  bodies := #[some (.star (.groupOr (some "group") (some "text") (.signed [.set ['(', ')']] true) 0))]

/-- A group in a group is matched as a whole, and nothing is taken of a group that is not closed. -/
theorem nested_recognises_balanced :
    (∃ a, Search.matchWhole (Grammar.nested.matcher #['(', 'a', '(', 'b', ')', ')'] (.parenthesized 0)) 6 = some a ∧
      a.success) ∧
    ∃ a, Grammar.nested.matcher #['(', 'a', '(', 'b', ')'] (.hole 0) 0 5 = some a ∧ a.success ∧ a.stop = 0 := by
  have hbody : Grammar.nested.body? 0 =
      some (.star (.groupOr (some "group") (some "text") (.signed [.set ['(', ')']] true) 0)) := rfl
  have htest : ∀ c, (CharTest.signed [.set ['(', ')']] true).accepts c ↔ c ≠ '(' ∧ c ≠ ')' := by
    intro c
    simp [CharTest.accepts, alternating]
  constructor
  · obtain ⟨⟨a, ha, hsuccess⟩, -⟩ :=
      parenthesized_recognises_balanced hbody htest #['(', 'a', '(', 'b', ')', ')']
    have hinner : Balanced ('a' :: '(' :: (['b'] ++ ')' :: [])) :=
      .other (by decide) (by decide) (.group (.other (by decide) (by decide) .nil) .nil)
    exact ⟨a, ha, hsuccess.2 ⟨_, hinner, rfl⟩⟩
  · obtain ⟨-, hhole⟩ := parenthesized_recognises_balanced hbody htest #['(', 'a', '(', 'b', ')']
    obtain ⟨a, w, ha, hs, hw, hstop⟩ := hhole 0 5
    -- the group is not closed, so its inside must not be taken for the longest text from its opening parenthesis on
    have hinside : LongestBalanced ('a' :: '(' :: (['b'] ++ ')' :: [])) ('a' :: '(' :: (['b'] ++ ')' :: [])) :=
      (LongestBalanced.nil.group (.other (by decide) (by decide) .nil)).other (by decide) (by decide)
    have hnothing : w = [] := hw.eq (hinside.unclosed (by decide))
    exact ⟨a, ha, hs, by rw [hstop, hnothing]; rfl⟩

end PegTrace
