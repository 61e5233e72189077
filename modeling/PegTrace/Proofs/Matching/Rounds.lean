import PegTrace.Proofs.Recognition.Outcome

/-!
# Inside a successful attempt

What the record of a success keeps of its parts: a choice keeps the attempt of the first alternative that succeeds
(`Matcher.choice_of_success`), a concatenation keeps one attempt of each item (`Matcher.concat_of_success`), and a
repetition keeps a chain of successes, each of which begins where the one before it stopped
(`Matcher.repetition_chain`).
-/

namespace PegTrace.Matcher

variable {start bound : Nat}

/-! ### Choice -/

lemma tryInTurn_of_success {items : List (Keyed Matcher)} {tried : List (Keyed Attempt)} {last : Keyed Attempt}
    (h : tryInTurn start bound items = some tried) (hlast : tried.getLast? = some last) (hs : last.value.success) :
    ∃ skipped m rest, items = skipped ++ m :: rest ∧ (∀ m' ∈ skipped, m'.value.outcome start bound = some none) ∧
      m.key = last.key ∧ m.value start bound = some last.value := by
  induction items generalizing tried with
  | nil =>
    cases h
    cases hlast
  | cons m items ih =>
    simp only [tryInTurn, Option.bind_eq_bind, Option.bind_eq_some_iff] at h
    obtain ⟨a, ha, h⟩ := h
    split at h
    · cases h
      cases hlast
      exact ⟨[], m, items, rfl, by simp, rfl, ha⟩
    · rename_i hfail
      obtain ⟨later, hlater, h⟩ := Option.bind_eq_some_iff.1 h
      cases h
      -- a failure is skipped, and it was not the last attempt, since that one succeeded
      have hskip : m.value.outcome start bound = some none := by
        rw [outcome_eq_some ha, Attempt.outcome_of_failure hfail]
      cases later with
      | nil =>
        cases hlast
        exact absurd hs hfail
      | cons b later =>
        rw [List.getLast?_cons_cons] at hlast
        obtain ⟨skipped, m', rest, rfl, hskipped, hkey, hm'⟩ := ih hlater hlast
        refine ⟨m :: skipped, m', rest, rfl, ?_, hkey, hm'⟩
        rw [List.forall_mem_cons]
        exact ⟨hskip, hskipped⟩

/-- A choice that succeeds keeps the first alternative that does, under its key. -/
lemma choice_of_success {items : List (Keyed Matcher)} {a : Attempt} (h : choice items start bound = some a)
    (hs : a.success) : ∃ skipped m rest b e index, items = skipped ++ m :: rest ∧
      (∀ m' ∈ skipped, m'.value.outcome start bound = some none) ∧ m.value start bound = some b ∧ b.success ∧
      a.stop = b.stop ∧ a.record = .choice e index m.key (some b.record) := by
  obtain ⟨tried, htried, h⟩ := Option.bind_eq_some_iff.1 h
  split at h
  · cases h
    cases hs
  · rename_i key b hlast
    split at h
    · rename_i hb
      cases h
      obtain ⟨skipped, m, rest, hitems, hskipped, hkey, hm⟩ := tryInTurn_of_success htried hlast hb
      obtain rfl : m.key = key := hkey
      exact ⟨skipped, m, rest, b, _, _, hitems, hskipped, hm, hb, rfl, rfl⟩
    · cases h
      cases hs

/-! ### Concatenation -/

/-- Of items that all succeed, the first succeeds and the others begin where it stops. -/
lemma tryInSequence_cons_of_success {m : Keyed Matcher} {items : List (Keyed Matcher)} {tried : List (Keyed Attempt)}
    (h : tryInSequence bound start (m :: items) = some tried) (hs : ∀ b ∈ tried, b.value.success) :
    ∃ a later, tried = ⟨m.key, a⟩ :: later ∧ m.value start bound = some a ∧ a.success ∧
      tryInSequence bound a.stop items = some later ∧ ∀ b ∈ later, b.value.success := by
  simp only [tryInSequence, Option.bind_eq_bind, Option.bind_eq_some_iff] at h
  obtain ⟨a, ha, h⟩ := h
  split at h
  · rename_i hsuccess
    obtain ⟨later, hlater, h⟩ := Option.bind_eq_some_iff.1 h
    cases h
    exact ⟨a, later, rfl, ha, hsuccess, hlater, (List.forall_mem_cons.1 hs).2⟩
  · rename_i hfail
    cases h
    exact absurd ((List.forall_mem_cons.1 hs).1) hfail

/-- A concatenation that succeeds keeps its items, all of which do. -/
lemma concat_of_success {items : List (Keyed Matcher)} {a : Attempt} (h : concat items start bound = some a)
    (hs : a.success) : ∃ tried e, tryInSequence bound start items = some tried ∧ (∀ b ∈ tried, b.value.success) ∧
      a.stop = lastStop start tried ∧ a.record = .all e (.ofList (keyedRecords tried)) := by
  obtain ⟨tried, htried, h⟩ := Option.bind_eq_some_iff.1 h
  cases h
  exact ⟨tried, _, htried, List.all_eq_true.1 hs, rfl, rfl⟩

/-! ### Repetition -/

/-- Successes from one place to another, each of which moves on and stops where the next begins. -/
inductive Chain (m : Matcher) (bound : Nat) : Nat → List Attempt → Nat → Prop
  | nil (place : Nat) : Chain m bound place [] place
  | cons {start stop : Nat} {a : Attempt} {later : List Attempt} (ha : m start bound = some a) (hs : a.success)
      (hmove : start < a.stop) (hlater : Chain m bound a.stop later stop) : Chain m bound start (a :: later) stop

/-- Why a run ended where it did: it had as many repetitions as it may have, or it had not and the next attempt failed
or did not move on. -/
inductive Ending.Justified (m : Matcher) (bound place : Nat) (atLimit belowLimit : Prop) : Ending → Prop
  | full (h : atLimit) : Justified m bound place atLimit belowLimit full
  | refused {a : Attempt} (h : belowLimit) (ha : m place bound = some a) (hs : ¬a.success) :
      Justified m bound place atLimit belowLimit (refused a)
  | idle {a : Attempt} (h : belowLimit) (ha : m place bound = some a) (hs : a.success) (hstay : a.stop ≤ place) :
      Justified m bound place atLimit belowLimit (idle a)

lemma Ending.Justified.imp {m : Matcher} {place : Nat} {atLimit atLimit' belowLimit belowLimit' : Prop}
    {ending : Ending} (h : ending.Justified m bound place atLimit belowLimit) (hat : atLimit → atLimit')
    (hbelow : belowLimit → belowLimit') : ending.Justified m bound place atLimit' belowLimit' := by
  cases h with
  | full h => exact .full (hat h)
  | refused h ha hs => exact .refused (hbelow h) ha hs
  | idle h ha hs hstay => exact .idle (hbelow h) ha hs hstay

/-- A run accepts a chain of successes, and there is a reason why it accepts no more. -/
lemma repeatFrom_chain {m : Matcher} {bounded : Bool} {limit : Nat} {run : Run}
    (h : repeatFrom m bound bounded limit start = some run) :
    Chain m bound start run.accepted (run.cursor start) ∧
      run.ending.Justified m bound (run.cursor start) (bounded ∧ run.accepted.length = limit)
        (run.accepted.length < limit) := by
  induction limit generalizing start run with
  | zero =>
    cases bounded with
    | false => cases h
    | true =>
      cases h
      exact ⟨.nil start, .full ⟨rfl, rfl⟩⟩
  | succ limit ih =>
    simp only [repeatFrom, Option.bind_eq_bind, Option.bind_eq_some_iff] at h
    obtain ⟨a, ha, h⟩ := h
    split at h
    · rename_i hfail
      cases h
      exact ⟨.nil start, .refused limit.succ_pos ha (by simpa using hfail)⟩
    · rename_i hs
      have hs : a.success := by simpa using hs
      split at h
      · rename_i hstay
        cases h
        exact ⟨.nil start, .idle limit.succ_pos ha hs hstay⟩
      · rename_i hmove
        obtain ⟨later, hlater, h⟩ := Option.bind_eq_some_iff.1 h
        cases h
        -- a round that succeeds and moves on is a link of the chain
        rw [Run.cursor_cons]
        obtain ⟨hchain, hend⟩ := ih hlater
        refine ⟨.cons ha hs (Nat.lt_of_not_le hmove) hchain, hend.imp ?_ Nat.succ_lt_succ⟩
        rintro ⟨hbounded, hcount⟩
        exact ⟨hbounded, congrArg (· + 1) hcount⟩

/-- An unbounded repetition succeeds. It keeps a chain from its start to its stop, after which no attempt succeeds and
moves on. -/
lemma repetition_chain {m : Matcher} {steps : Nat} {a : Attempt} (h : repetition m 0 none steps start bound = some a) :
    a.success ∧ ∃ accepted e, a.record = .series e (accepted.map Attempt.record) ∧
      Chain m bound start accepted a.stop ∧ ∃ b, m a.stop bound = some b ∧ (b.success → b.stop ≤ a.stop) := by
  obtain ⟨run, hrun, h⟩ := Option.bind_eq_some_iff.1 h
  cases h
  have hsatisfies : run.satisfies 0 := by
    unfold Run.satisfies
    split <;> simp
  have hstop : run.stop start 0 = run.cursor start := Run.stop_of_satisfies hsatisfies
  refine ⟨hsatisfies, run.accepted, _, rfl, ?_⟩
  rw [Attempt.stop_series, hstop]
  obtain ⟨hchain, hend⟩ := repeatFrom_chain hrun
  refine ⟨hchain, ?_⟩
  generalize run.ending = ending at hend
  cases hend with
  | full h => cases h.1
  | refused _ hb hfail => exact ⟨_, hb, fun hs => absurd hs hfail⟩
  | idle _ hb _ hstay => exact ⟨_, hb, fun _ => hstay⟩

end PegTrace.Matcher
