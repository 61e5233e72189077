import Mathlib.Data.Finset.Card
import Mathlib.Data.Finset.Lattice.Fold
import Mathlib.Data.Finset.Range
import PegTrace.Proofs.Matching.Answers

/-!
# Guarded grammars give an answer

A hole may come back to itself, and without moving on it would do so for ever. A grammar is guarded if its holes can be
ranked so that the body of a hole comes to holes of lower rank only, until it has moved on (`Grammar.Guarded`). Under a
guarded grammar every pattern without edits gives an answer on every input (`matcher_answers_of_guarded`): there is
nothing else that could go on for ever, as a repetition ends with the first round that does not move on.

The steps that are left are compared with the characters that are left, and for the same place with the number of holes
of lower rank.
-/

namespace PegTrace

variable {α : Type}

namespace Grammar

/-! ### Holes below a rank -/

/-- The number of declared holes of lower rank than the limit. -/
def countBelow (g : Grammar α) (rank : Nat → Nat) (limit : Nat) : Nat :=
  ((Finset.range g.bodies.size).filter fun id => rank id < limit).card

variable {g : Grammar α} {rank : Nat → Nat} {limit : Nat}

lemma countBelow_le_size (g : Grammar α) (rank : Nat → Nat) (limit : Nat) :
    g.countBelow rank limit ≤ g.bodies.size := by
  have hle := Finset.card_filter_le (Finset.range g.bodies.size) fun id => rank id < limit
  rwa [Finset.card_range] at hle

lemma lt_size_of_isBound {id : Nat} (h : g.isBound id) : id < g.bodies.size := by
  by_contra hsize
  simp [isBound, body?, hsize] at h

/-- The hole itself is not among those of lower rank. -/
lemma countBelow_rank_lt {id : Nat} (h : g.isBound id) (hrank : rank id < limit) :
    g.countBelow rank (rank id) < g.countBelow rank limit := by
  apply Finset.card_lt_card
  rw [Finset.ssubset_iff_of_subset]
  · exact ⟨id, by simp [lt_size_of_isBound h, hrank], by simp⟩
  · intro other hother
    simp only [Finset.mem_filter] at hother ⊢
    exact ⟨hother.1, hother.2.trans hrank⟩

/-- The steps that are allowed for an input are enough to enter each hole once for each character. -/
lemma size_mul_lt_budget (g : Grammar α) (input : Array α) :
    input.size * (g.bodies.size + 1) + g.bodies.size < g.budget input := by
  have hmul : (input.size + 2) * (g.bodies.size + 1) = input.size * (g.bodies.size + 1) + 2 * (g.bodies.size + 1) :=
    Nat.add_mul _ _ _
  rw [budget]
  omega

variable [DecidableEq α] [LE α] [DecidableLE α]

/-! ### Guards -/

/-- The pattern never matches the empty stretch. -/
def MovesOn (g : Grammar α) (input : Array α) (p : Pattern α) : Prop :=
  ∀ ⦃steps start bound a⦄, g.run input steps p start bound = some a → a.success → a.record.stop ≠ start

/-- The pattern refers to the hole, and not only within items of concatenations that come after an item which always
moves on. -/
inductive Exposes (g : Grammar α) (input : Array α) : Pattern α → Nat → Prop
  | hole (id : Nat) : Exposes g input (.hole id) id
  | choice {items : List (Keyed (Pattern α))} {item : Keyed (Pattern α)} {id : Nat} (hitem : item ∈ items)
      (h : Exposes g input item.value id) : Exposes g input (.choice items) id
  | concat_here {item : Keyed (Pattern α)} {items : List (Keyed (Pattern α))} {id : Nat}
      (h : Exposes g input item.value id) : Exposes g input (.concat (item :: items)) id
  | concat_there {item : Keyed (Pattern α)} {items : List (Keyed (Pattern α))} {id : Nat}
      (hstay : ¬ g.MovesOn input item.value) (h : Exposes g input (.concat items) id) :
      Exposes g input (.concat (item :: items)) id
  | intersection {items : List (Keyed (Pattern α))} {item : Keyed (Pattern α)} {id : Nat} (hitem : item ∈ items)
      (h : Exposes g input item.value id) : Exposes g input (.intersection items) id
  | difference {items : List (Keyed (Pattern α))} {item : Keyed (Pattern α)} {exclude : Bool} {id : Nat}
      (hitem : item ∈ items) (h : Exposes g input item.value id) : Exposes g input (.difference items exclude) id
  | repetition {inner : Pattern α} {least : Nat} {most : Option Nat} {id : Nat} (h : Exposes g input inner id) :
      Exposes g input (.repetition inner least most) id
  | conditional_first {first second : Pattern α} {require : Bool} {id : Nat} (h : Exposes g input first id) :
      Exposes g input (.conditional first second require) id
  | conditional_second {first second : Pattern α} {require : Bool} {id : Nat} (h : Exposes g input second id) :
      Exposes g input (.conditional first second require) id
  | collapse {inner : Pattern α} {id : Nat} (h : Exposes g input inner id) : Exposes g input (.collapse inner) id
  | custom {base : Pattern α} {edit : Record → Record} {id : Nat} (h : Exposes g input base id) :
      Exposes g input (.custom base edit) id

/-- The holes that the pattern exposes are of lower rank than the limit, those without a body aside. -/
def ExposesBelow (g : Grammar α) (input : Array α) (rank : Nat → Nat) (limit : Nat) (p : Pattern α) : Prop :=
  ∀ ⦃id⦄, g.Exposes input p id → g.isBound id → rank id < limit

/-- The body of every hole exposes none but holes of lower rank. -/
def Guarded (g : Grammar α) (input : Array α) (rank : Nat → Nat) : Prop :=
  ∀ ⦃id body⦄, g.body? id = some body → g.ExposesBelow input rank (rank id) body

variable {input : Array α} {steps place : Nat}

/-- Every rank is below some limit, as there are finitely many holes. -/
lemma exists_exposesBelow (g : Grammar α) (input : Array α) (rank : Nat → Nat) :
    ∃ limit, ∀ p, g.ExposesBelow input rank limit p := by
  refine ⟨(Finset.range g.bodies.size).sup rank + 1, ?_⟩
  intro p id _ hbound
  exact Nat.lt_succ_of_le (Finset.le_sup (Finset.mem_range.2 (lt_size_of_isBound hbound)))

/-! ### Answers -/

lemma matchers_answer {items : List (Keyed (Pattern α))}
    (h : ∀ item ∈ items, (g.run input steps item.value).AnswersFrom place) :
    ∀ m ∈ Pattern.matchers input (g.holes input steps) steps items, m.value.AnswersFrom place := by
  rw [Pattern.matchers_eq_map, List.forall_mem_map]
  exact h

/-- Up to the first item that always moves on, the items of a concatenation have to answer where it begins; the others
begin later. -/
lemma exists_tryInSequence_of_guards (hg : g.EditFree) {items : List (Keyed (Pattern α))} {start : Nat}
    (hitems : ∀ item ∈ items, item.value.EditFree) (hstart : place ≤ start) (bound : Nat)
    (hexposes : g.ExposesBelow input rank limit (.concat items))
    (hhere : ∀ item ∈ items, g.ExposesBelow input rank limit item.value →
      (g.run input steps item.value).AnswersFrom place)
    (hthere : place < input.size → ∀ item ∈ items, (g.run input steps item.value).AnswersFrom (place + 1)) :
    ∃ tried, Matcher.tryInSequence bound start (items.map (·.map (g.run input steps))) = some tried := by
  induction items generalizing start with
  | nil => exact ⟨[], rfl⟩
  | cons item items ih =>
    simp only [List.forall_mem_cons] at hitems hhere hthere
    obtain ⟨a, ha⟩ := hhere.1 (fun id h => hexposes (.concat_here h)) hstart bound
    have hframing := hg.run_framing hitems.1 input steps ha
    apply Matcher.exists_tryInSequence_cons ha
    intro hs
    by_cases hmoves : g.MovesOn input item.value
    · -- the item has moved on, and from the next place every item answers, whatever it exposes
      have hmove : start < a.stop := Nat.lt_of_le_of_ne hframing.start_le_stop (hmoves ha hs).symm
      have hsize : a.stop ≤ input.size := hframing.stop_le_size hmove
      have hlater := (hthere (by omega)).2
      have hframed : ∀ item ∈ items, (g.run input steps item.value).Meets (Framing input.size) :=
        fun item hitem => hg.run_framing (hitems.2 item hitem) input steps
      exact Matcher.exists_tryInSequence (List.forall_mem_map.2 hlater) (List.forall_mem_map.2 hframed) (by omega) bound
    · -- the item may stay, so the whole exposes what the items after it expose
      exact ih hitems.2 (hstart.trans hframing.start_le_stop) (fun id h => hexposes (.concat_there hmoves h)) hhere.2
        fun hroom => (hthere hroom).2

/-- A pattern answers from a place on if all patterns do that begin later, and there are steps for each hole that may
be entered before. -/
lemma answersFrom_of_later (hg : g.EditFree) (hguarded : g.Guarded input rank) {room : Nat}
    (hroom : input.size - place ≤ room)
    (hlater : place < input.size → ∀ steps, room ≤ steps → ∀ q : Pattern α, q.EditFree →
      (g.run input steps q).AnswersFrom (place + 1))
    {p : Pattern α} (hp : p.EditFree) (hexposes : g.ExposesBelow input rank limit p)
    (hsteps : room + g.countBelow rank limit < steps) : (g.run input steps p).AnswersFrom place := by
  -- a hole is entered with one step less and a lower limit, all else is matched with the same steps
  induction steps generalizing limit p with
  | zero => exact absurd hsteps (Nat.not_lt_zero _)
  | succ steps ihsteps =>
    induction hp with
    | empty => exact fun start _ _ => ⟨_, rfl⟩
    | literal test => exact Matcher.literal_answersFrom input test place
    | choice _ ih =>
      exact Matcher.choice_answersFrom (matchers_answer fun item hitem =>
        ih item hitem fun id h => hexposes (.choice hitem h))
    | concat hitems ih =>
      intro start hstart bound
      have hthere := fun hsize item hitem => hlater hsize (steps + 1) (by omega) _ (hitems item hitem)
      obtain ⟨tried, htried⟩ := exists_tryInSequence_of_guards hg hitems hstart bound hexposes ih hthere
      rw [run, Pattern.matcher, Pattern.matchers_eq_map]
      exact ⟨_, Option.bind_eq_some_iff.2 ⟨tried, htried, rfl⟩⟩
    | intersection _ ih =>
      exact Matcher.intersection_answersFrom (matchers_answer fun item hitem =>
        ih item hitem fun id h => hexposes (.intersection hitem h))
    | difference exclude _ ih =>
      refine Matcher.difference_answersFrom (matchers_answer fun item hitem => ?_) exclude
      exact ih item hitem fun id h => hexposes (.difference hitem h)
    | repetition least most hinner ih =>
      have hinner := hg.run_framing hinner input (steps + 1)
      exact Matcher.repetition_answersFrom (ih fun id h => hexposes (.repetition h)) hinner (by omega) least most
    | conditional require _ _ ih₁ ih₂ =>
      exact Matcher.conditional_answersFrom (ih₁ fun id h => hexposes (.conditional_first h))
        (ih₂ fun id h => hexposes (.conditional_second h)) require
    | hole id =>
      cases hbody : g.body? id with
      | none =>
        rw [run_hole_of_unbound g input steps hbody]
        exact fun start _ _ => ⟨_, rfl⟩
      | some body =>
        rw [run_hole_of_body? g input steps hbody]
        have hbound : g.isBound id := by simp [isBound, hbody]
        have hcount := countBelow_rank_lt hbound (hexposes (.hole id) hbound)
        exact ihsteps (hg hbody) (hguarded hbody) (by omega)
    | collapse _ ih => exact Matcher.collapse_answersFrom (ih fun id h => hexposes (.collapse h))
    | custom he => exact he.elim

/-- For each character that is left, all holes may be entered once. -/
lemma answersFrom_of_guarded (hg : g.EditFree) (hguarded : g.Guarded input rank) {room : Nat}
    (hroom : input.size - place ≤ room) (hsteps : room * (g.bodies.size + 1) + g.bodies.size < steps) {p : Pattern α}
    (hp : p.EditFree) : (g.run input steps p).AnswersFrom place := by
  obtain ⟨limit, hlimit⟩ := g.exists_exposesBelow input rank
  have hcount := g.countBelow_le_size rank limit
  induction room generalizing place steps p with
  | zero =>
    refine answersFrom_of_later hg hguarded hroom ?_ hp (hlimit p) (by omega)
    intro hsize
    omega
  | succ room ih =>
    -- each character of the room pays for as many steps as there are holes, and one more
    have hmul : (room + 1) * (g.bodies.size + 1) = room * (g.bodies.size + 1) + g.bodies.size + 1 := by
      rw [Nat.succ_mul, Nat.add_assoc]
    have hle : room + 1 ≤ (room + 1) * (g.bodies.size + 1) := Nat.le_mul_of_pos_right _ (Nat.succ_pos _)
    refine answersFrom_of_later hg hguarded (hroom.trans hle) ?_ hp (hlimit p) (by omega)
    intro _ steps' hsteps' q hq
    exact ih (by omega) (by omega) hq

/-- Under a guarded grammar, every pattern without edits gives an answer on the input, wherever it begins and whatever
its bound. Without holes there is nothing to guard, so that every repetition comes to an end, also one of patterns that
match the empty stretch. -/
theorem matcher_answers_of_guarded (hg : g.EditFree)
    (hguarded : g.Guarded input rank) {p : Pattern α} (hp : p.EditFree) (start bound : Nat) :
    ∃ a, g.matcher input p start bound = some a :=
  answersFrom_of_guarded hg hguarded (Nat.sub_le _ _) (g.size_mul_lt_budget input) hp (Nat.zero_le start) bound

/-! ### Sums in parentheses -/

lemma movesOn_literal (g : Grammar α) (input : Array α) (test : CharTest α) : g.MovesOn input (.literal test) := by
  intro steps start bound a h hs
  simp only [run, Pattern.matcher, Matcher.literal] at h
  split at h
  · cases h
    cases hs
  · cases h
    exact Nat.succ_ne_self start

@[simp] lemma exposes_hole_iff {id id' : Nat} : g.Exposes input (.hole id) id' ↔ id' = id := by
  constructor
  · rintro ⟨⟩
    rfl
  · rintro rfl
    exact .hole id'

@[simp] lemma not_exposes_literal {test : CharTest α} {id : Nat} : ¬ g.Exposes input (.literal test) id := nofun

@[simp] lemma exposes_choice_iff {items : List (Keyed (Pattern α))} {id : Nat} :
    g.Exposes input (.choice items) id ↔ ∃ item ∈ items, g.Exposes input item.value id := by
  constructor
  · rintro (_ | ⟨hitem, h⟩)
    exact ⟨_, hitem, h⟩
  · rintro ⟨item, hitem, h⟩
    exact .choice hitem h

@[simp] lemma not_exposes_concat_nil {id : Nat} : ¬ g.Exposes input (.concat []) id := nofun

@[simp] lemma exposes_concat_cons_iff {item : Keyed (Pattern α)} {items : List (Keyed (Pattern α))} {id : Nat} :
    g.Exposes input (.concat (item :: items)) id ↔
      g.Exposes input item.value id ∨ ¬ g.MovesOn input item.value ∧ g.Exposes input (.concat items) id := by
  constructor
  · intro h
    cases h with
    | concat_here h => exact .inl h
    | concat_there hstay h => exact .inr ⟨hstay, h⟩
  · rintro (h | ⟨hstay, h⟩)
    · exact .concat_here h
    · exact .concat_there hstay h

@[simp] lemma exposes_repetition_iff {inner : Pattern α} {least : Nat} {most : Option Nat} {id : Nat} :
    g.Exposes input (.repetition inner least most) id ↔ g.Exposes input inner id := by
  constructor
  · rintro ⟨⟩
    assumption
  · exact .repetition

/-- A sum of terms, each of which is a number or a sum in parentheses. -/
def sums : Grammar Char where
  bodies := #[
    some (.concat [.plain (.hole 1), .plain (.star (.concat [.plain (.one '+'), .plain (.hole 1)]))]),
    some (.choice [.plain (.oneOrMore (.range '0' '9')),
      .plain (.concat [.plain (.one '('), .plain (.hole 0), .plain (.one ')')])])]

lemma editFree_sums : sums.EditFree := by
  intro id body h
  match id with
  | 0 =>
    cases h
    simp [Pattern.star, Pattern.one, Keyed.plain]
  | 1 =>
    cases h
    simp [Pattern.oneOrMore, Pattern.star, Pattern.range, Pattern.one, Keyed.plain]
  | id + 2 => simp [body?, sums] at h

/-- A sum begins with a term, and a term comes to a sum only after a parenthesis. -/
lemma guarded_sums (input : Array Char) : sums.Guarded input (1 - ·) := by
  intro id body h id' hexposes _
  match id with
  | 0 =>
    cases h
    simp [Pattern.star, Pattern.one, Keyed.plain, movesOn_literal] at hexposes
    simp [hexposes]
  | 1 =>
    cases h
    simp [Pattern.oneOrMore, Pattern.star, Pattern.range, Pattern.one, Keyed.plain, movesOn_literal] at hexposes
  | id + 2 => simp [body?, sums] at h

/-- Sums that may be missing, again and again; and without a grammar, rounds of rounds that may be empty. -/
theorem sums_answers :
    (sums.EditFree ∧ sums.Guarded #['(', '1', '+'] (1 - ·) ∧
      ∃ a, sums.matcher #['(', '1', '+'] (.star (.optional (.hole 0))) 0 3 = some a) ∧
    ∃ a, matcher {} #['b', 'a'] (.repetition (.star (.optional (.one 'a'))) 2 (some 99999999999)) 1 2 = some a := by
  constructor
  · refine ⟨editFree_sums, guarded_sums _, matcher_answers_of_guarded editFree_sums (guarded_sums _) ?_ 0 3⟩
    simp [Pattern.EditFree, Pattern.star, Pattern.optional, Keyed.plain]
  · have hguarded : Guarded {} #['b', 'a'] id := by
      intro id body h
      simp [body?] at h
    refine matcher_answers_of_guarded ?_ hguarded ?_ 1 2
    · simp [EditFree, Grammar.AllEdits, body?]
    · simp [Pattern.EditFree, Pattern.star, Pattern.optional, Pattern.one, Keyed.plain]

end Grammar

end PegTrace
