import PegTrace.Pattern.Derived
import PegTrace.Proofs.Recognition.Parses

/-!
# Recognisers

A recogniser tells where a match stops that begins at a given place, if there is one: it always gives an answer, and
knows of no record and no number of steps. Recognisers are combined as patterns are, and the matcher of a pattern
computes the recogniser that is combined in the same way (`Matcher.Computes`), given more steps than there are places
up to the bound. A repetition computes a fixed number of rounds followed by as many more as there are or may be
(`computes_repetition`), although it counts a round that does not move on as all the rounds that are left.
-/

namespace PegTrace

lemma drop_of_getElem? {α : Type} {input : Array α} {place : Nat} {c : α} (h : input[place]? = some c) :
    input.toList.drop place = c :: input.toList.drop (place + 1) := by
  obtain ⟨hsize, rfl⟩ := Array.getElem?_eq_some_iff.1 h
  exact List.drop_eq_getElem_cons hsize

/-- Where a match stops that begins at a place. -/
abbrev Recogniser := Nat → Option Nat

namespace Recogniser

/-- The second begins where the first stops. -/
def andThen (f f' : Recogniser) : Recogniser := fun start => (f start).bind f'

/-- The second stands in where the first fails. -/
def orElse (f f' : Recogniser) : Recogniser := fun start => (f start).or (f' start)

/-- So many rounds, one after the other. -/
def times (f : Recogniser) : Nat → Recogniser
  | 0 => some
  | n + 1 => f.andThen (f.times n)

/-- As many rounds as there are, but no more than so many. -/
def upTo (f : Recogniser) : Nat → Recogniser
  | 0 => some
  | n + 1 => fun start =>
    match f start with
    | some stop => f.upTo n stop
    | none => some start

/-- As many rounds as there are, each of which moves on within the bound. -/
def star (f : Recogniser) (bound start : Nat) : Option Nat :=
  match f start with
  | some stop => if start < stop ∧ stop ≤ bound then f.star bound stop else some start
  | none => some start
termination_by bound - start

/-- A single character of which a property holds. -/
def single {α : Type} (input : Array α) (bound : Nat) (holds : α → Bool) : Recogniser := fun start =>
  match input[start]? with
  | some c => if start < bound ∧ holds c then some (start + 1) else none
  | none => none

/-- A match stops no earlier than it begins and no later than the bound. -/
def Ordered (bound : Nat) (f : Recogniser) : Prop :=
  ∀ start ≤ bound, ∀ stop ∈ f start, start ≤ stop ∧ stop ≤ bound

variable {f f' : Recogniser} {bound start : Nat}

lemma andThen_some (f : Recogniser) : f.andThen some = f := by
  funext start
  simp [andThen]

lemma orElse_none (f : Recogniser) : (f.orElse fun _ => none) = f := by
  funext start
  simp [orElse]

/-! ### Rounds that do not move on -/

lemma times_of_idle (h : f start = some start) (n : Nat) : f.times n start = some start := by
  induction n with
  | zero => rfl
  | succ n ih => simp [times, andThen, h, ih]

lemma upTo_of_idle (h : f start = some start) (n : Nat) : f.upTo n start = some start := by
  induction n with
  | zero => rfl
  | succ n ih => simp [upTo, h, ih]

lemma star_of_idle (h : f start = some start) : f.star bound start = some start := by
  rw [star]
  simp [h]

/-! ### Order -/

lemma Ordered.andThen (h : f.Ordered bound) (h' : f'.Ordered bound) : (f.andThen f').Ordered bound := by
  intro start hstart stop hstop
  obtain ⟨middle, hmiddle, hstop⟩ := Option.bind_eq_some_iff.1 hstop
  have h₁ := h start hstart middle hmiddle
  have h₂ := h' middle h₁.2 stop hstop
  exact ⟨Nat.le_trans h₁.1 h₂.1, h₂.2⟩

lemma Ordered.orElse (h : f.Ordered bound) (h' : f'.Ordered bound) : (f.orElse f').Ordered bound := by
  intro start hstart stop hstop
  rcases Option.or_eq_some_iff.1 hstop with hstop | ⟨_, hstop⟩
  · exact h start hstart stop hstop
  · exact h' start hstart stop hstop

lemma ordered_none : Ordered bound fun _ => none := by
  intro start _ stop hstop
  cases hstop

lemma ordered_some : Ordered bound some := by
  intro start hstart stop hstop
  cases hstop
  exact ⟨Nat.le_refl _, hstart⟩

lemma Ordered.times (h : f.Ordered bound) (n : Nat) : (f.times n).Ordered bound := by
  induction n with
  | zero => exact ordered_some
  | succ n ih => exact h.andThen ih

lemma Ordered.upTo (h : f.Ordered bound) (n : Nat) : (f.upTo n).Ordered bound := by
  induction n with
  | zero => exact ordered_some
  | succ n ih =>
    intro start hstart stop hstop
    simp only [Recogniser.upTo] at hstop
    split at hstop
    · rename_i middle hmiddle
      have h₁ := h start hstart middle hmiddle
      have h₂ := ih middle h₁.2 stop hstop
      exact ⟨Nat.le_trans h₁.1 h₂.1, h₂.2⟩
    · exact ordered_some start hstart stop hstop

lemma ordered_star : Ordered bound (f.star bound) := by
  intro start hstart stop hstop
  fun_induction Recogniser.star f bound start with
  | case1 start middle hmiddle hmove ih =>
    have := ih hmove.2 hstop
    exact ⟨Nat.le_trans (Nat.le_of_lt hmove.1) this.1, this.2⟩
  | case2 start middle hmiddle hidle => exact ordered_some start hstart stop hstop
  | case3 start hnone => exact ordered_some start hstart stop hstop

lemma ordered_single {α : Type} (input : Array α) (holds : α → Bool) : Ordered bound (single input bound holds) := by
  intro start hstart stop hstop
  unfold single at hstop
  split at hstop
  · split at hstop
    · rename_i h
      cases hstop
      exact ⟨Nat.le_succ _, h.1⟩
    · cases hstop
  · cases hstop

end Recogniser

/-! ### Matchers that compute recognisers -/

/-- From every place up to the bound the matcher gives an answer: it stops where the recogniser does, and fails where
the recogniser fails. -/
structure Matcher.Computes (m : Matcher) (bound : Nat) (f : Recogniser) : Prop where
  outcome_eq : ∀ start ≤ bound, m.outcome start bound = some (f start)
  ordered : f.Ordered bound

lemma Matcher.Computes.of_success {m : Matcher} {bound start : Nat} {f : Recogniser} {a : Attempt}
    (h : m.Computes bound f) (hstart : start ≤ bound) (ha : m start bound = some a) (hs : a.success) :
    f start = some a.stop ∧ a.stop ≤ bound := by
  have houtcome := h.outcome_eq start hstart
  rw [outcome_eq_some ha, Attempt.outcome_of_success hs] at houtcome
  have hstop : f start = some a.stop := (Option.some.inj houtcome).symm
  exact ⟨hstop, (h.ordered start hstart a.stop hstop).2⟩

lemma Matcher.Computes.eq_none {m : Matcher} {bound start : Nat} {f : Recogniser} (h : m.Computes bound f)
    (hstart : start ≤ bound) (ha : m.outcome start bound = some none) : f start = none := by
  rw [h.outcome_eq start hstart] at ha
  exact Option.some.inj ha

/-- Only places up to the bound count. -/
lemma Matcher.Computes.congr {m : Matcher} {bound : Nat} {f f' : Recogniser} (h : m.Computes bound f)
    (heq : ∀ start ≤ bound, f start = f' start) : m.Computes bound f' where
  outcome_eq start hstart := heq start hstart ▸ h.outcome_eq start hstart
  ordered start hstart := heq start hstart ▸ h.ordered start hstart

/-- The steps that are allowed for an input are enough for every place of it. -/
lemma Grammar.size_lt_budget {α : Type} (g : Grammar α) (input : Array α) : input.size < g.budget input := by
  calc
    input.size < input.size + 2 := by omega
    _ ≤ (input.size + 2) * (g.bodies.size + 1) := Nat.le_mul_of_pos_right _ (Nat.succ_pos _)
    _ ≤ g.budget input := Nat.le_add_right _ _

variable {α : Type} [DecidableEq α] [LE α] [DecidableLE α]

namespace Grammar

variable {g : Grammar α} {input : Array α} {steps bound : Nat} {p : Pattern α} {item : Keyed (Pattern α)}
  {items : List (Keyed (Pattern α))} {f f' : Recogniser}

lemma computes_empty : (g.run input steps .empty).Computes bound some where
  outcome_eq _ _ := rfl
  ordered := Recogniser.ordered_some

lemma computes_literal (test : CharTest α) :
    (g.run input steps (.literal test)).Computes bound (.single input bound test.accepts) where
  outcome_eq start _ := by
    rw [outcome_run_literal, Matcher.charAt?, Recogniser.single]
    by_cases hlt : start < bound
    · cases input[start]? <;> simp [hlt]
    · cases input[start]? <;> simp [hlt]
  ordered := Recogniser.ordered_single input test.accepts

lemma computes_choice_nil : (g.run input steps (.choice [])).Computes bound fun _ => none where
  outcome_eq _ _ := rfl
  ordered := Recogniser.ordered_none

lemma computes_choice_cons (h : (g.run input steps item.value).Computes bound f)
    (hitems : (g.run input steps (.choice items)).Computes bound f') :
    (g.run input steps (.choice (item :: items))).Computes bound (f.orElse f') where
  outcome_eq start hstart := by
    rw [outcome_run_choice_cons, h.outcome_eq start hstart, Option.bind_some, Recogniser.orElse]
    cases f start with
    | some stop => rfl
    | none => exact hitems.outcome_eq start hstart
  ordered := h.ordered.orElse hitems.ordered

lemma computes_concat_nil : (g.run input steps (.concat [])).Computes bound some where
  outcome_eq _ _ := rfl
  ordered := Recogniser.ordered_some

lemma computes_concat_cons (h : (g.run input steps item.value).Computes bound f)
    (hitems : (g.run input steps (.concat items)).Computes bound f') :
    (g.run input steps (.concat (item :: items))).Computes bound (f.andThen f') where
  outcome_eq start hstart := by
    rw [outcome_run_concat_cons, h.outcome_eq start hstart, Option.bind_some, Recogniser.andThen]
    cases hstop : f start with
    | some stop => exact hitems.outcome_eq stop (h.ordered start hstart stop hstop).2
    | none => rfl
  ordered := h.ordered.andThen hitems.ordered

lemma computes_choice_singleton (h : (g.run input steps item.value).Computes bound f) :
    (g.run input steps (.choice [item])).Computes bound f := by
  rw [← f.orElse_none]
  exact computes_choice_cons h computes_choice_nil

lemma computes_concat_singleton (h : (g.run input steps item.value).Computes bound f) :
    (g.run input steps (.concat [item])).Computes bound f := by
  rw [← f.andThen_some]
  exact computes_concat_cons h computes_concat_nil

/-- A concatenation of a single pattern computes what the pattern computes. -/
lemma computes_of_concat_singleton (h : (g.run input steps (.concat [.plain p])).Computes bound f) :
    (g.run input steps p).Computes bound f where
  outcome_eq start hstart := by
    have hmain := h.outcome_eq start hstart
    rw [outcome_run_concat_cons] at hmain
    obtain ⟨v, hv, hmain⟩ := Option.bind_eq_some_iff.1 hmain
    cases v <;> exact hv.trans hmain
  ordered := h.ordered

/-- A choice of a single pattern computes what the pattern computes. -/
lemma computes_of_choice_singleton (h : (g.run input steps (.choice [.plain p])).Computes bound f) :
    (g.run input steps p).Computes bound f where
  outcome_eq start hstart := by
    have hmain := h.outcome_eq start hstart
    rw [outcome_run_choice_cons] at hmain
    obtain ⟨v, hv, hmain⟩ := Option.bind_eq_some_iff.1 hmain
    cases v <;> exact hv.trans hmain
  ordered := h.ordered

lemma computes_collapse (h : (g.run input steps p).Computes bound f) :
    (g.run input steps (.collapse p)).Computes bound f where
  outcome_eq start hstart := by rw [outcome_run_collapse, h.outcome_eq start hstart]
  ordered := h.ordered

/-! ### Repetition -/

end Grammar

namespace Recogniser

/-- A number of rounds that there have to be, and then as many more as there are or may be. -/
def rounds (f : Recogniser) (bound least : Nat) (most : Option Nat) : Recogniser :=
  (f.times least).andThen (most.elim (f.star bound) fun most => f.upTo (most - least))

variable {f : Recogniser} {bound least start stop : Nat} {most : Option Nat}

lemma Ordered.rounds (h : f.Ordered bound) (least : Nat) (most : Option Nat) :
    (f.rounds bound least most).Ordered bound := by
  cases most with
  | none => exact (h.times least).andThen ordered_star
  | some most => exact (h.times least).andThen (h.upTo _)

lemma rounds_of_idle (h : f start = some start) : f.rounds bound least most start = some start := by
  rw [rounds, andThen, times_of_idle h, Option.bind_some]
  cases most with
  | none => exact star_of_idle h
  | some most => exact upTo_of_idle h _

lemma rounds_of_none (hroom : 0 < least ∨ most ≠ some 0) (h : f start = none) :
    f.rounds bound least most start = if least = 0 then some start else none := by
  cases least with
  | succ least => simp [rounds, andThen, times, h]
  | zero =>
    cases most with
    | none =>
      simp only [rounds, andThen, times, Option.bind_some, Option.elim_none]
      rw [star]
      simp [h]
    | some most =>
      obtain ⟨most, rfl⟩ := Nat.exists_eq_succ_of_ne_zero (show most ≠ 0 by simpa using hroom)
      simp [rounds, andThen, times, upTo, h]

lemma rounds_of_move (hroom : 0 < least ∨ most ≠ some 0) (h : f start = some stop) (hmove : start < stop)
    (hstop : stop ≤ bound) :
    f.rounds bound least most start = f.rounds bound (least - 1) (most.map (· - 1)) stop := by
  cases least with
  | succ least =>
    cases most with
    | none => simp [rounds, andThen, times, h]
    | some most =>
      -- the rounds that are left over are the same, since both bounds go down by one
      have : most - (least + 1) = most - 1 - least := by omega
      simp [rounds, andThen, times, h, this]
  | zero =>
    cases most with
    | none =>
      simp only [rounds, andThen, times, Option.bind_some, Option.elim_none, Option.map_none]
      -- without a lower bound, the move is the first round of the star
      rw [star]
      simp [h, hmove, hstop, times]
    | some most =>
      obtain ⟨most, rfl⟩ := Nat.exists_eq_succ_of_ne_zero (show most ≠ 0 by simpa using hroom)
      simp [rounds, andThen, times, upTo, h]

end Recogniser

/-- With enough steps, a repetition makes the rounds that the recogniser makes: with each of them there is one less to
come, and one less that may come. -/
lemma Matcher.Computes.outcome_repetition {m : Matcher} {bound : Nat} {f : Recogniser} (h : m.Computes bound f)
    {steps least start : Nat} {most : Option Nat} (hstart : start ≤ bound)
    (hsteps : most.elim (bound - start + 1) (max least) ≤ steps) :
    (Matcher.repetition m least most steps).outcome start bound = some (f.rounds bound least most start) := by
  induction steps generalizing least most start with
  | zero =>
    cases most with
    | none => simp at hsteps
    | some most =>
      obtain ⟨rfl, rfl⟩ : least = 0 ∧ most = 0 := by simpa using hsteps
      rfl
  | succ steps ih =>
    by_cases hroom : 0 < least ∨ most ≠ some 0
    · rw [Matcher.outcome_repetition_succ _ _ hroom, h.outcome_eq start hstart, Option.bind_some]
      cases hstop : f start with
      | none => simp only [Recogniser.rounds_of_none hroom hstop]
      | some stop =>
        have hordered := h.ordered start hstart stop hstop
        by_cases hidle : stop ≤ start
        · -- the recogniser never stops before its start
          obtain rfl : stop = start := Nat.le_antisymm hidle hordered.1
          simp [Recogniser.rounds_of_idle hstop]
        · have hmove : start < stop := Nat.lt_of_not_le hidle
          simp only [hidle, if_false, Recogniser.rounds_of_move hroom hstop hmove hordered.2]
          -- the move leaves less of the stretch, so one step less is enough
          apply ih hordered.2
          cases most with
          | none => simp only [Option.map_none, Option.elim_none] at hsteps ⊢; omega
          | some most => simp only [Option.map_some, Option.elim_some] at hsteps ⊢; omega
    · -- no round is wanted and none allowed
      obtain ⟨hleast, hmost⟩ := not_or.1 hroom
      obtain rfl : least = 0 := by omega
      obtain rfl : most = some 0 := not_not.1 hmost
      rfl

namespace Grammar

variable {g : Grammar α} {input : Array α} {steps bound : Nat} {p : Pattern α} {f : Recogniser}

lemma computes_repetition (h : (g.run input steps p).Computes bound f) (hsteps : bound < steps) (least : Nat)
    (most : Option Nat) :
    (g.run input steps (.repetition p least most)).Computes bound (f.rounds bound least most) where
  outcome_eq start hstart := by
    rw [outcome_run_repetition]
    cases most with
    | none =>
      apply h.outcome_repetition hstart
      simp only [Option.elim_none]
      omega
    | some most =>
      rw [Matcher.outcome_repetition_bounded _ _ _ _ (max least most)]
      exact h.outcome_repetition hstart (Nat.le_refl _)
  ordered := h.ordered.rounds least most

/-! ### Derived patterns -/

lemma computes_star (h : (g.run input steps p).Computes bound f) (hsteps : bound < steps) :
    (g.run input steps p.star).Computes bound (f.star bound) :=
  computes_repetition h hsteps 0 none

lemma computes_oneOrMore (h : (g.run input steps p).Computes bound f) (hsteps : bound < steps) :
    (g.run input steps p.oneOrMore).Computes bound (f.andThen (f.star bound)) :=
  computes_concat_cons h (computes_concat_singleton (computes_star h hsteps))

lemma computes_optional (h : (g.run input steps p).Computes bound f) :
    (g.run input steps p.optional).Computes bound (f.orElse some) :=
  computes_choice_cons h (computes_choice_singleton computes_empty)

lemma computes_times (h : (g.run input steps p).Computes bound f) (hsteps : bound < steps) (least most : Nat) :
    (g.run input steps (p.times least (some most))).Computes bound
      ((f.times least).andThen (f.upTo (most - least))) := by
  have hmain := computes_repetition h hsteps least (some (max least most))
  have hmore : max least most - least = most - least := by omega
  rw [Recogniser.rounds, Option.elim_some, hmore] at hmain
  exact hmain

end Grammar

end PegTrace
