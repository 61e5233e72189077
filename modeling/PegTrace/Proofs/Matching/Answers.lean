import PegTrace.Proofs.Matching.Framing

/-!
# Matchers that give an answer

A matcher may run out of the steps that it was allowed and give no answer. An operator gives an answer where its parts
do, since it begins its parts no earlier than itself; for repetitions without an upper bound, rounds have to be left for
every place up to the end of the input (`Matcher.repetition_answersFrom`).
-/

namespace PegTrace

/-! ### Where a framed attempt stops -/

lemma Framing.start_le_stop {size start bound : Nat} {a : Attempt} (h : Framing size start bound a) : start ≤ a.stop :=
  Record.Framed.start_le_stop h

/-- An attempt that moves on stays within the input. -/
lemma Framing.stop_le_size {size start bound : Nat} {a : Attempt} (h : Framing size start bound a)
    (hmove : start < a.stop) : a.stop ≤ size := by
  have hreach : a.stop ≤ max start (min bound size) := (Record.Framed.stop_le_reach h).trans (Record.Framed.reach_le h)
  omega

namespace Matcher

/-- The matcher gives an answer at every place from the given one on, whatever the bound. -/
def AnswersFrom (m : Matcher) (place : Nat) : Prop :=
  ∀ ⦃start⦄, place ≤ start → ∀ bound, ∃ a, m start bound = some a

variable {m first second : Matcher} {items : List (Keyed Matcher)} {size place start : Nat}

/-! ### Lists of attempts -/

lemma exists_tryInTurn (h : ∀ m ∈ items, m.value.AnswersFrom place) (hstart : place ≤ start) (bound : Nat) :
    ∃ tried, tryInTurn start bound items = some tried := by
  induction items with
  | nil => exact ⟨[], rfl⟩
  | cons m items ih =>
    rw [List.forall_mem_cons] at h
    obtain ⟨a, ha⟩ := h.1 hstart bound
    obtain ⟨later, hlater⟩ := ih h.2
    rw [tryInTurn, ha, hlater]
    by_cases hs : a.success
    · exact ⟨_, if_pos hs⟩
    · exact ⟨_, if_neg hs⟩

lemma exists_tryInAgreement {bound : Nat} (h : ∀ m ∈ items, ∃ a, m.value start bound = some a) (agreed : Option Nat) :
    ∃ tried, tryInAgreement start bound agreed items = some tried := by
  induction items generalizing agreed with
  | nil => exact ⟨[], rfl⟩
  | cons m items ih =>
    rw [List.forall_mem_cons] at h
    obtain ⟨a, ha⟩ := h.1
    obtain ⟨later, hlater⟩ := ih h.2 (some a.stop)
    rw [tryInAgreement, ha]
    by_cases hs : a.success && agreed.all (· = a.stop)
    · refine ⟨⟨m.key, a⟩ :: later, (if_pos hs).trans ?_⟩
      rw [hlater]
      rfl
    · exact ⟨_, if_neg hs⟩

lemma exists_tryEach {bound : Nat} (h : ∀ m ∈ items, ∃ a, m.value start bound = some a) :
    ∃ tried, tryEach start bound items = some tried := by
  induction items with
  | nil => exact ⟨[], rfl⟩
  | cons m items ih =>
    rw [List.forall_mem_cons] at h
    obtain ⟨a, ha⟩ := h.1
    obtain ⟨later, hlater⟩ := ih h.2
    rw [tryEach, ha, hlater]
    exact ⟨_, rfl⟩

/-- Items that follow one another: if the first succeeds, the others have to answer where it stops. -/
lemma exists_tryInSequence_cons {m : Keyed Matcher} {bound : Nat} {a : Attempt} (ha : m.value start bound = some a)
    (hlater : a.success → ∃ tried, tryInSequence bound a.stop items = some tried) :
    ∃ tried, tryInSequence bound start (m :: items) = some tried := by
  rw [tryInSequence, ha]
  by_cases hs : a.success
  · obtain ⟨later, hlater⟩ := hlater hs
    refine ⟨⟨m.key, a⟩ :: later, (if_pos hs).trans ?_⟩
    rw [hlater]
    rfl
  · exact ⟨_, if_neg hs⟩

lemma exists_tryInSequence (h : ∀ m ∈ items, m.value.AnswersFrom place)
    (hframed : ∀ m ∈ items, m.value.Meets (Framing size)) (hstart : place ≤ start) (bound : Nat) :
    ∃ tried, tryInSequence bound start items = some tried := by
  induction items generalizing start with
  | nil => exact ⟨[], rfl⟩
  | cons m items ih =>
    rw [List.forall_mem_cons] at h hframed
    obtain ⟨a, ha⟩ := h.1 hstart bound
    apply exists_tryInSequence_cons ha
    intro _
    exact ih h.2 hframed.2 (hstart.trans (hframed.1 ha).start_le_stop)

/-- Without an upper bound, there have to be more rounds than characters that are left. -/
lemma exists_repeatFrom (h : m.AnswersFrom place) (hframed : m.Meets (Framing size)) (hstart : place ≤ start)
    (bound : Nat) {bounded : Bool} {limit : Nat} (hlimit : bounded ∨ size - start < limit) :
    ∃ run, repeatFrom m bound bounded limit start = some run := by
  induction limit generalizing start with
  | zero =>
    -- without a bound on the rounds the limit cannot be zero, for it exceeds what is left
    have hbounded : bounded := hlimit.resolve_right (Nat.not_lt_zero _)
    exact ⟨_, if_pos hbounded⟩
  | succ limit ih =>
    obtain ⟨a, ha⟩ := h hstart bound
    rw [repeatFrom, ha]
    by_cases hs : a.success
    · by_cases hidle : a.stop ≤ start
      · exact ⟨⟨[], .idle a⟩, by simp [hs, hidle]⟩
      · -- a round that moves on uses up some of the characters left, so the limit stays above them
        have hmove : start < a.stop := Nat.lt_of_not_le hidle
        have hsize : a.stop ≤ size := (hframed ha).stop_le_size hmove
        obtain ⟨run, hrun⟩ := ih (hstart.trans hmove.le) (hlimit.imp_right fun hlimit => by omega)
        exact ⟨{ run with accepted := a :: run.accepted }, by simp [hs, hidle, hrun]⟩
    · exact ⟨⟨[], .refused a⟩, by simp [hs]⟩

/-! ### Operators -/

lemma literal_answersFrom {α : Type} [DecidableEq α] [LE α] [DecidableLE α] (input : Array α) (test : CharTest α)
    (place : Nat) : (literal input test).AnswersFrom place := by
  intro start _ bound
  rw [literal]
  cases charAt? input start bound with
  | none => exact ⟨_, rfl⟩
  | some c => exact ⟨_, rfl⟩

lemma choice_answersFrom (h : ∀ m ∈ items, m.value.AnswersFrom place) : (choice items).AnswersFrom place := by
  intro start hstart bound
  obtain ⟨tried, htried⟩ := exists_tryInTurn h hstart bound
  rw [choice, htried]
  simp only [Option.bind_eq_bind, Option.bind_some]
  split
  · exact ⟨_, rfl⟩
  · split
    · exact ⟨_, rfl⟩
    · exact ⟨_, rfl⟩

lemma exists_intersection {bound : Nat} (h : ∀ m ∈ items, ∃ a, m.value start bound = some a) :
    ∃ a, intersection items start bound = some a := by
  obtain ⟨tried, htried⟩ := exists_tryInAgreement h none
  rw [intersection, htried]
  exact ⟨_, rfl⟩

lemma intersection_answersFrom (h : ∀ m ∈ items, m.value.AnswersFrom place) :
    (intersection items).AnswersFrom place := by
  intro start hstart bound
  exact exists_intersection fun m hm => h m hm hstart bound

lemma exists_difference_of_success {m : Keyed Matcher} {others : List (Keyed Matcher)} {bound : Nat} {base : Attempt}
    (hbase : m.value start bound = some base) (hs : base.success)
    (hothers : ∀ m ∈ others, ∃ a, m.value start base.stop = some a) (exclude : Bool) :
    ∃ a, difference (m :: others) exclude start bound = some a := by
  obtain ⟨tried, htried⟩ := exists_tryEach fun m hm => hothers m (List.mem_reverse.1 hm)
  rw [difference_of_success hbase hs, htried]
  exact ⟨_, rfl⟩

lemma difference_answersFrom (h : ∀ m ∈ items, m.value.AnswersFrom place) (exclude : Bool) :
    (difference items exclude).AnswersFrom place := by
  intro start hstart bound
  cases items with
  | nil => exact ⟨_, rfl⟩
  | cons m others =>
    rw [List.forall_mem_cons] at h
    obtain ⟨base, hbase⟩ := h.1 hstart bound
    by_cases hs : base.success
    · exact exists_difference_of_success hbase hs (fun m hm => h.2 m hm hstart base.stop) exclude
    · exact ⟨base, difference_of_failure hbase hs others exclude⟩

lemma repetition_answersFrom (h : m.AnswersFrom place) (hframed : m.Meets (Framing size)) {steps : Nat}
    (hsteps : size - place < steps) (least : Nat) (most : Option Nat) :
    (repetition m least most steps).AnswersFrom place := by
  intro start hstart bound
  have hrun : ∃ run, repeatWithin m bound start (most.map (max least)) steps = some run := by
    cases most with
    | none => exact exists_repeatFrom h hframed hstart bound (.inr (by omega))
    | some most => exact exists_repeatFrom h hframed hstart bound (.inl rfl)
  obtain ⟨run, hrun⟩ := hrun
  rw [repetition, hrun]
  exact ⟨_, rfl⟩

lemma conditional_answersFrom (h₁ : first.AnswersFrom place) (h₂ : second.AnswersFrom place) (require : Bool) :
    (conditional first second require).AnswersFrom place := by
  intro start hstart bound
  obtain ⟨base, hbase⟩ := h₁ hstart bound
  by_cases hs : base.success
  · obtain ⟨b, hb⟩ := h₂ hstart base.stop
    rw [conditional_of_success hbase hs, hb]
    exact ⟨_, rfl⟩
  · exact ⟨base, conditional_of_failure hbase hs second require⟩

lemma collapse_answersFrom (h : m.AnswersFrom place) : (collapse m).AnswersFrom place := by
  intro start hstart bound
  obtain ⟨a, ha⟩ := h hstart bound
  rw [collapse, ha]
  exact ⟨_, rfl⟩

end Matcher

end PegTrace
