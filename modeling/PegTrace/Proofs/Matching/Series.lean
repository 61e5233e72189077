import Mathlib.Data.List.Chain
import PegTrace.Proofs.Matching.Framing
import PegTrace.Proofs.Matching.Rounds

/-!
# What the record of a repetition says

The record of a repetition keeps the repetitions that moved on, one after the other. From these alone it can be told
how the repetition ended: with the last one that is allowed, with an attempt that failed or with one that did not move
on, and so whether the repetition succeeds and where it stops (`run_times_series`).
-/

namespace PegTrace

/-- Where the last of some records stops, or the given place if there is none. -/
def Record.lastStop (place : Nat) (records : List Record) : Nat :=
  (records.getLast?.map Record.stop).getD place

namespace Matcher

variable {m : Matcher} {size start stop bound least : Nat} {most : Option Nat} {accepted : List Attempt}

lemma Run.cursor_eq_lastStop (start : Nat) (run : Run) :
    run.cursor start = Record.lastStop start (run.accepted.map Attempt.record) := by
  rw [Run.cursor, Record.lastStop, List.getLast?_map]
  cases run.accepted.getLast? with
  | none => rfl
  | some a => rfl

/-! ### Chains -/

namespace Chain

lemma head_start (hm : m.Meets (Framing size)) (h : Chain m bound start accepted stop) :
    ∀ r ∈ (accepted.map Attempt.record).head?, r.start = start := by
  cases h with
  | nil => simp
  | cons ha =>
    simp only [List.map_cons, List.head?_cons, Option.mem_some_iff]
    rintro _ rfl
    exact (hm ha).start_eq

lemma isChain (hm : m.Meets (Framing size)) (h : Chain m bound start accepted stop) :
    (accepted.map Attempt.record).IsChain fun r next => next.start = r.stop := by
  induction h with
  | nil => exact .nil
  | cons _ _ _ hlater ih =>
    rw [List.map_cons, List.isChain_cons]
    exact ⟨hlater.head_start hm, ih⟩

lemma mem (hm : m.Meets (Framing size)) (h : Chain m bound start accepted stop) {a : Attempt} (ha : a ∈ accepted) :
    m a.record.start bound = some a ∧ a.success ∧ a.record.start < a.stop := by
  induction h with
  | nil => cases ha
  | cons hfirst hs hmove _ ih =>
    rcases List.mem_cons.1 ha with rfl | ha
    · rw [(hm hfirst).start_eq]
      exact ⟨hfirst, hs, hmove⟩
    · exact ih ha

/-- Each repetition takes a place before the bound. -/
lemma length_le (hm : m.Meets (Framing size)) (h : Chain m bound start accepted stop) :
    accepted.length ≤ bound - start := by
  induction h with
  | nil => simp
  | @cons start _ a _ ha _ hmove _ ih =>
    have hreach : a.stop ≤ max start (min bound size) := (hm ha).stop_le_reach.trans (hm ha).reach_le
    rw [List.length_cons]
    omega

end Chain

/-! ### Endings -/

section

variable {run : Run} {atLimit belowLimit : Prop}

lemma Ending.Justified.limit {ending : Ending} {place : Nat}
    (h : ending.Justified m bound place atLimit belowLimit) : atLimit ∨ belowLimit := by
  cases h with
  | full h => exact .inl h
  | refused h => exact .inr h
  | idle h => exact .inr h

lemma Ending.Justified.exhausted (hm : m.Meets (Framing size)) {ending : Ending} {place : Nat}
    (h : ending.Justified m bound place atLimit belowLimit) :
    atLimit ∨ ∃ b, m place bound = some b ∧ (¬b.success ∨ b.stop = place) := by
  cases h with
  | full h => exact .inl h
  | refused _ hb hs => exact .inr ⟨_, hb, .inl hs⟩
  | idle _ hb _ hstay => exact .inr ⟨_, hb, .inr (Nat.le_antisymm hstay (hm hb).start_le_stop)⟩

/-- A run that is not full satisfies its lower bound if an attempt after it would succeed without moving on. -/
lemma Run.satisfies_iff (hm : m.Meets (Framing size)) (hleast : atLimit → least ≤ run.accepted.length)
    (h : run.ending.Justified m bound (run.cursor start) atLimit belowLimit) :
    run.satisfies least ↔ least ≤ run.accepted.length ∨
      (belowLimit ∧ ∃ b, m (run.cursor start) bound = some b ∧ b.success ∧ b.stop = run.cursor start) := by
  obtain ⟨accepted, ending⟩ := run
  cases h with
  | full h => simp [Run.satisfies, hleast h]
  | refused _ hb hs => simp [Run.satisfies, hb, hs]
  | idle h hb hs hstay =>
    have hstop := Nat.le_antisymm hstay (hm hb).start_le_stop
    simp [Run.satisfies, h, hb, hs, hstop]

/-- A run that does not satisfy its lower bound ended with a failure and stops where that does. -/
lemma Run.stop_of_not_satisfies (hm : m.Meets (Framing size)) (hleast : atLimit → least ≤ run.accepted.length)
    (h : run.ending.Justified m bound (run.cursor start) atLimit belowLimit) (hs : ¬run.satisfies least) :
    ∃ b, m (run.cursor start) bound = some b ∧ ¬b.success ∧ run.stop start least = b.stop := by
  obtain ⟨accepted, ending⟩ := run
  cases h with
  | full h => simp [Run.satisfies, hleast h] at hs
  | refused _ hb hfail =>
    exact ⟨_, hb, hfail, (if_neg hs).trans (Nat.max_eq_left (hm hb).start_le_stop)⟩
  | idle => simp [Run.satisfies] at hs

end

/-- A run within an upper bound, or without one, is a run up to some limit. -/
lemma repeatWithin_chain {steps : Nat} {run : Run} (h : repeatWithin m bound start most steps = some run) :
    Chain m bound start run.accepted (run.cursor start) ∧
      run.ending.Justified m bound (run.cursor start) (∃ limit ∈ most, run.accepted.length = limit)
        (∀ limit ∈ most, run.accepted.length < limit) := by
  cases most with
  | none =>
    obtain ⟨hchain, hend⟩ := repeatFrom_chain h
    exact ⟨hchain, hend.imp (by simp) (by simp)⟩
  | some limit =>
    obtain ⟨hchain, hend⟩ := repeatFrom_chain h
    exact ⟨hchain, hend.imp (fun h => ⟨limit, rfl, h.2⟩) (by simp)⟩

/-! ### Series -/

/-- What the items of a repetition say of it, the upper bound being no less than the lower one. -/
structure Series (m : Matcher) (least : Nat) (most : Option Nat) (start bound : Nat) (a : Attempt)
    (items : List Record) : Prop where
  /-- The first item starts where the repetition does, -/
  head_start : ∀ r ∈ items.head?, r.start = start
  /-- and each of the others where the one before it stops. -/
  isChain : items.IsChain fun r next => next.start = r.stop
  /-- Each item moves on and is the record of a success at its place. -/
  mem : ∀ r ∈ items, r.start < r.stop ∧ ∃ b, m r.start bound = some b ∧ b.success ∧ b.record = r
  /-- There are no more items than the upper bound allows, -/
  length_le_most : ∀ limit ∈ most, items.length ≤ limit
  /-- nor more than there are places. -/
  length_le_room : items.length ≤ bound - start
  /-- No other item could follow. -/
  exhausted : (∃ limit ∈ most, items.length = limit) ∨
    ∃ b, m (Record.lastStop start items) bound = some b ∧ (¬b.success ∨ b.stop = Record.lastStop start items)
  /-- The repetition succeeds if there are enough items, or if a success that does not move on could follow. -/
  success_iff : a.success ↔ least ≤ items.length ∨ ((∀ limit ∈ most, items.length < limit) ∧
    ∃ b, m (Record.lastStop start items) bound = some b ∧ b.success ∧ b.stop = Record.lastStop start items)
  /-- A success stops with the last item. -/
  stop_of_success : a.success → a.stop = Record.lastStop start items
  /-- A failure stops where the attempt after the last item failed. -/
  stop_of_failure : ¬a.success → ∃ b, m (Record.lastStop start items) bound = some b ∧ ¬b.success ∧ a.stop = b.stop

lemma repeatWithin_series (hm : m.Meets (Framing size)) (hleast : ∀ limit ∈ most, least ≤ limit) {steps : Nat}
    {run : Run} (h : repeatWithin m bound start most steps = some run) {a : Attempt}
    (hsuccess : a.success = run.satisfies least) (hstop : a.stop = run.stop start least) :
    m.Series least most start bound a (run.accepted.map Attempt.record) := by
  obtain ⟨hchain, hend⟩ := repeatWithin_chain h
  -- a run that is full has as many rounds as are allowed, and no more than that are asked for
  have hfull : (∃ limit ∈ most, run.accepted.length = limit) → least ≤ run.accepted.length := by
    rintro ⟨limit, hlimit, hcount⟩
    exact (hleast limit hlimit).trans_eq hcount.symm
  constructor
  case head_start => exact hchain.head_start hm
  case isChain => exact hchain.isChain hm
  case mem =>
    intro r hr
    obtain ⟨b, hb, rfl⟩ := List.mem_map.1 hr
    obtain ⟨hat, hs, hmove⟩ := hchain.mem hm hb
    exact ⟨hmove, b, hat, hs, rfl⟩
  case length_le_most =>
    intro limit hlimit
    rw [List.length_map]
    -- a run ends at the limit, being full, or below it
    rcases hend.limit with ⟨limit', hlimit', hcount⟩ | hbelow
    · rw [hcount, Option.mem_unique hlimit' hlimit]
    · exact (hbelow limit hlimit).le
  case length_le_room =>
    rw [List.length_map]
    exact hchain.length_le hm
  case exhausted =>
    rw [List.length_map, ← Run.cursor_eq_lastStop]
    exact hend.exhausted hm
  case success_iff =>
    rw [List.length_map, ← Run.cursor_eq_lastStop, hsuccess]
    exact Run.satisfies_iff hm hfull hend
  case stop_of_success =>
    intro hs
    rw [← Run.cursor_eq_lastStop, hstop]
    exact Run.stop_of_satisfies (hsuccess ▸ hs)
  case stop_of_failure =>
    intro hs
    rw [← Run.cursor_eq_lastStop, hstop]
    exact Run.stop_of_not_satisfies hm hfull hend (hsuccess ▸ hs)

lemma repetition_series (hm : m.Meets (Framing size)) {steps : Nat} {a : Attempt}
    (h : repetition m least most steps start bound = some a) :
    ∃ extent items, a.record = .series extent items ∧ m.Series least (most.map (max least)) start bound a items := by
  obtain ⟨run, hrun, h⟩ := Option.bind_eq_some_iff.1 h
  have hleast : ∀ limit ∈ most.map (max least), least ≤ limit := by
    intro limit hlimit
    obtain ⟨given, _, rfl⟩ := Option.map_eq_some_iff.1 hlimit
    exact Nat.le_max_left least given
  cases h
  exact ⟨_, _, rfl, repeatWithin_series hm hleast hrun rfl rfl⟩

end Matcher

variable {α : Type} [DecidableEq α] [LE α] [DecidableLE α]

/-- The record of a repetition is a series of successes of the repeated pattern, from which it can be told why there are
no more of them, whether the repetition succeeds and where it stops. An upper bound below the lower one is raised to
it. -/
theorem run_times_series {g : Grammar α} {p : Pattern α} (hg : g.EditFree) (hp : p.EditFree) {input : Array α}
    {least : Nat} {most : Option Nat} {steps start bound : Nat} {a : Attempt}
    (h : g.run input steps (p.times least most) start bound = some a) :
    ∃ extent items, a.record = .series extent items ∧
      (g.run input steps p).Series least (most.map (max least)) start bound a items := by
  have hraised : (most.map (max least)).map (max least) = most.map (max least) := by
    cases most with
    | none => rfl
    | some limit => exact congrArg some (Nat.max_eq_right (Nat.le_max_left least limit))
  have hseries := Matcher.repetition_series (hg.run_framing hp input steps) h
  rw [hraised] at hseries
  exact hseries

/-- Of at least three pairs of parentheses there are two, and the third is not closed. Since nothing at all would do as
well, that is enough. The upper bound is raised to three. -/
theorem parens_times_series :
    ∃ a extent items, Grammar.parens.run #['(', ')', '(', ')', '(', 'x'] 4 ((Pattern.hole 0).times 3 (some 2)) 0 6 =
        some a ∧ a.record = .series extent items ∧ a.success ∧ a.stop = 4 ∧ items.length = 2 ∧
      (Grammar.parens.run #['(', ')', '(', ')', '(', 'x'] 4 (.hole 0)).Series 3 (some 3) 0 6 a items := by
  have hrun : (Grammar.parens.run #['(', ')', '(', ')', '(', 'x'] 4 ((Pattern.hole 0).times 3 (some 2)) 0 6).any
      (fun a => a.success && a.stop = 4 && a.record.children.length = 2) := by decide +kernel
  obtain ⟨a, ha, htold⟩ := (Option.any_eq_true _ _).1 hrun
  simp only [Bool.and_eq_true, decide_eq_true_eq] at htold
  obtain ⟨extent, items, hrecord, hseries⟩ := run_times_series Grammar.editFree_parens (.hole 0) ha
  rw [hrecord] at htold
  exact ⟨a, extent, items, ha, hrecord, htold.1.1, htold.1.2, by simpa [Record.children] using htold.2, hseries⟩

end PegTrace
