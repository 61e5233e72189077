import Mathlib.Order.Basic
import PegTrace.Proofs.Matching.Answers
import PegTrace.Proofs.Matching.Dressing
import PegTrace.Proofs.Recognition.Outcome

/-!
# Ends

The ends of an attempt are whether it succeeded, where it stopped and how far it reached, also if it failed. The ends of
a choice, a concatenation or a repetition depend on the ends of its parts alone: there is one equation for each, by the
first part and what is left. All of them ask that the first part leaves a framed record. A repetition that does not move
on ends the run and counts as all repetitions that are left; the ends are those that would be found if the run went on
(`Matcher.ends_repetition_succ`).
-/

namespace PegTrace

/-- The ends of a whole of which a part reached so far. -/
def alsoReaching (reach : Nat) : Bool × Nat × Nat → Bool × Nat × Nat
  | (success, stop, farthest) => (success, stop, max reach farthest)

lemma Record.farthest_of_le {place reach : Nat} (h : place ≤ reach) (records : List Record) :
    farthest reach records = max reach (farthest place records) := by
  refine eq_of_forall_ge_iff fun limit => ?_
  rw [farthest_le_iff, Nat.max_le, farthest_le_iff]
  constructor
  · rintro ⟨hreach, hrecords⟩
    exact ⟨hreach, h.trans hreach, hrecords⟩
  · rintro ⟨hreach, _, hrecords⟩
    exact ⟨hreach, hrecords⟩

lemma Record.farthest_cons {place : Nat} {r : Record} (h : place ≤ r.reach) (records : List Record) :
    farthest place (r :: records) = farthest r.reach records := by
  rw [← Nat.max_eq_right h]
  rfl

/-! ### Operators -/

namespace Matcher

/-- The ends of the attempt of a matcher, if it gives an answer. -/
def ends (m : Matcher) (start bound : Nat) : Option (Bool × Nat × Nat) :=
  (m start bound).map Attempt.ends

variable {m : Matcher} {item : Keyed Matcher} {size start bound : Nat}

lemma ends_eq_some {a : Attempt} (h : m start bound = some a) :
    m.ends start bound = some (a.success, a.record.stop, a.record.reach) := by
  rw [ends, h]
  rfl

lemma Meets.le_of_ends (hm : m.Meets (Framing size)) {success : Bool} {stop reach : Nat}
    (h : m.ends start bound = some (success, stop, reach)) : start ≤ stop ∧ stop ≤ reach := by
  obtain ⟨a, ha, hends⟩ := Option.map_eq_some_iff.1 h
  cases hends
  exact ⟨(hm ha).start_le_stop, Record.Framed.stop_le_reach (hm ha)⟩

/-! #### Concatenation -/

lemma ends_concat (items : List (Keyed Matcher)) : (concat items).ends start bound =
    (tryInSequence bound start items).map fun tried =>
      (tried.all (·.value.success), lastStop start tried, max (reachOf start tried) (lastStop start tried)) := by
  unfold ends concat
  cases tryInSequence bound start items with
  | none => rfl
  | some tried => rfl

lemma ends_concat_nil : (concat []).ends start bound = some (true, start, start) := by
  rw [ends_concat]
  exact congrArg (fun reach => some (true, start, reach)) (Nat.max_self start)

/-- A first item that fails is where the whole stops, and otherwise the others go on from there. -/
lemma ends_concat_cons (hm : item.value.Meets (Framing size)) (items : List (Keyed Matcher)) :
    (concat (item :: items)).ends start bound =
      (item.value.ends start bound).bind fun
        | (true, stop, reach) => ((concat items).ends stop bound).map (alsoReaching reach)
        | (false, stop, reach) => some (false, stop, reach) := by
  rw [ends_concat, tryInSequence]
  cases ha : item.value start bound with
  | none => simp [ends, ha]
  | some a =>
    have hstart : start ≤ a.record.reach := (hm ha).start_le_stop.trans (Record.Framed.stop_le_reach (hm ha))
    have hstop : a.record.stop ≤ a.record.reach := Record.Framed.stop_le_reach (hm ha)
    rw [ends_eq_some ha]
    simp only [Option.bind_eq_bind, Option.bind_some]
    cases hs : a.success with
    | true =>
      simp only [if_true, ends_concat, Option.map_map]
      change Option.map _ (Option.bind (tryInSequence bound a.record.stop items) _) = _
      cases tryInSequence bound a.record.stop items with
      | none => rfl
      | some tried =>
        have hreach : reachOf start (⟨item.key, a⟩ :: tried) = max a.record.reach (reachOf a.record.stop tried) := by
          rw [reachOf, List.map_cons, Record.farthest_cons hstart, Record.farthest_of_le hstop, reachOf]
        simp only [Option.bind_some, Option.pure_def, Option.map_some, Function.comp_apply, alsoReaching, lastStop_cons,
          List.all_cons, hs, Bool.true_and, hreach, Nat.max_assoc]
        rfl
    | false =>
      have hreach : reachOf start [⟨item.key, a⟩] = a.record.reach := Record.farthest_cons hstart []
      have hlast : lastStop start [⟨item.key, a⟩] = a.record.stop := rfl
      simp [hs, hreach, hlast, Nat.max_eq_left hstop]

/-- A single item is matched as it is by itself. -/
lemma ends_concat_singleton (hm : item.value.Meets (Framing size)) :
    (concat [item]).ends start bound = item.value.ends start bound := by
  rw [ends_concat_cons hm]
  cases ha : item.value start bound with
  | none => simp [ends, ha]
  | some a =>
    have hstop : a.record.stop ≤ a.record.reach := Record.Framed.stop_le_reach (hm ha)
    rw [ends_eq_some ha]
    cases hs : a.success with
    | true => simp [ends_concat_nil, alsoReaching, Nat.max_eq_left hstop]
    | false => rfl

/-! #### Choice -/

lemma ends_choice (items : List (Keyed Matcher)) : (choice items).ends start bound =
    (tryInTurn start bound items).map fun tried =>
      match tried.getLast?.bind (·.value.outcome) with
      | some stop => (true, stop, max (reachOf start tried) stop)
      | none => (false, start, max (reachOf start tried) start) := by
  unfold ends choice
  cases tryInTurn start bound items with
  | none => rfl
  | some tried =>
    simp only [Option.bind_eq_bind, Option.bind_some, Option.map_some]
    cases hlast : tried.getLast? with
    | none => rfl
    | some last =>
      obtain ⟨key, a⟩ := last
      by_cases hs : a.success
      · simp only [hs, if_true, Option.bind_some, Attempt.outcome_of_success hs]
        rfl
      · simp only [hs, Option.bind_some, Attempt.outcome_of_failure hs]
        rfl

/-- A first alternative that succeeds is what the whole comes to, and otherwise the others are tried. -/
lemma ends_choice_cons (hm : item.value.Meets (Framing size)) (items : List (Keyed Matcher)) :
    (choice (item :: items)).ends start bound =
      (item.value.ends start bound).bind fun
        | (true, stop, reach) => some (true, stop, reach)
        | (false, _, reach) => ((choice items).ends start bound).map (alsoReaching reach) := by
  rw [ends_choice, tryInTurn]
  cases ha : item.value start bound with
  | none => simp [ends, ha]
  | some a =>
    have hstart : start ≤ a.record.reach := (hm ha).start_le_stop.trans (Record.Framed.stop_le_reach (hm ha))
    have hstop : a.record.stop ≤ a.record.reach := Record.Framed.stop_le_reach (hm ha)
    rw [ends_eq_some ha]
    simp only [Option.bind_eq_bind, Option.bind_some]
    cases hs : a.success with
    | true =>
      have hreach : reachOf start [⟨item.key, a⟩] = a.record.reach := Record.farthest_cons hstart []
      have houtcome : a.outcome = some a.record.stop := Attempt.outcome_of_success hs
      simp [hreach, houtcome, Nat.max_eq_left hstop]
    | false =>
      have houtcome : a.outcome = none := Attempt.outcome_of_failure (by simp [hs])
      simp only [Bool.false_eq_true, if_false, ends_choice, Option.map_map]
      cases tryInTurn start bound items with
      | none => rfl
      | some tried =>
        have hreach : reachOf start (⟨item.key, a⟩ :: tried) = max a.record.reach (reachOf start tried) := by
          rw [reachOf, List.map_cons, Record.farthest_cons hstart, Record.farthest_of_le hstart, reachOf]
        -- a failed attempt in front is the last one only where nothing follows, and then both fail
        have hlast : (((⟨item.key, a⟩ : Keyed Attempt) :: tried).getLast?.bind (·.value.outcome)) =
            tried.getLast?.bind (·.value.outcome) := by
          cases tried with
          | nil => simp [houtcome]
          | cons b tried => rw [List.getLast?_cons_cons]
        simp only [Option.bind_some, Option.pure_def, Option.map_some, Function.comp_apply, hlast, hreach]
        split
        · simp [alsoReaching, Nat.max_assoc]
        · simp [alsoReaching, Nat.max_assoc]

/-! #### Repetition -/

/-- The others stop where they do by themselves, one less being asked for. -/
lemma Run.stop_cons (a : Attempt) (run : Run) (least : Nat) :
    Run.stop start least { run with accepted := a :: run.accepted } = run.stop a.stop (least - 1) := by
  have hcursor : Run.cursor start { run with accepted := a :: run.accepted } = run.cursor a.stop :=
    Run.cursor_cons a run
  have hsatisfies := Run.satisfies_cons a run least
  obtain ⟨accepted, ending⟩ := run
  cases ending with
  | full => exact hcursor
  | idle b => exact hcursor
  | refused b => simp only [Run.stop, hcursor, hsatisfies]

/-- The ends of a run of repetitions of which at least `least` are asked for. -/
def Run.ends (start least : Nat) (run : Run) : Bool × Nat × Nat :=
  (run.satisfies least, run.stop start least,
    max (Record.farthest start (run.attempts.map Attempt.record)) (run.stop start least))

lemma ends_repetition (m : Matcher) (least : Nat) (most : Option Nat) (steps : Nat) :
    (repetition m least most steps).ends start bound =
      (repeatFrom m bound most.isSome (most.elim steps (max least)) start).map (Run.ends start least) := by
  have hmain : (repetition m least most steps).ends start bound =
      (repeatWithin m bound start (most.map (max least)) steps).map (Run.ends start least) := by
    unfold ends repetition
    cases repeatWithin m bound start (most.map (max least)) steps with
    | none => rfl
    | some run => rfl
  rw [hmain]
  cases most with
  | none => rfl
  | some most => rfl

lemma Run.ends_refused {a : Attempt} (ha : Framing size start bound a) (least : Nat) :
    Run.ends start least ⟨[], .refused a⟩ =
      (decide (least = 0), if least = 0 then start else a.record.stop, a.record.reach) := by
  have hstart : start ≤ a.record.stop := ha.start_le_stop
  have hstop : a.record.stop ≤ a.record.reach := Record.Framed.stop_le_reach ha
  have hreach : Record.farthest start [a.record] = a.record.reach :=
    Record.farthest_cons (hstart.trans hstop) []
  by_cases hleast : least = 0
  · simp [Run.ends, Run.satisfies, Run.stop, Run.cursor, Run.attempts, Ending.attempt?, hleast, hreach,
      Nat.max_eq_left (hstart.trans hstop)]
  · simp [Run.ends, Run.satisfies, Run.stop, Run.cursor, Run.attempts, Ending.attempt?, hleast, hreach, Attempt.stop,
      Nat.max_eq_left hstart, Nat.max_eq_left hstop]

lemma Run.ends_idle {a : Attempt} (ha : Framing size start bound a) (least : Nat) :
    Run.ends start least ⟨[], .idle a⟩ = (true, start, a.record.reach) := by
  have hstart : start ≤ a.record.reach := ha.start_le_stop.trans (Record.Framed.stop_le_reach ha)
  have hreach : Record.farthest start [a.record] = a.record.reach := Record.farthest_cons hstart []
  simp [Run.ends, Run.satisfies, Run.stop, Run.cursor, Run.attempts, Ending.attempt?, hreach, Nat.max_eq_left hstart]

lemma Run.ends_cons {a : Attempt} (ha : Framing size start bound a) (run : Run) (least : Nat) :
    Run.ends start least { run with accepted := a :: run.accepted } =
      alsoReaching a.record.reach (run.ends a.record.stop (least - 1)) := by
  have hstop : a.record.stop ≤ a.record.reach := Record.Framed.stop_le_reach ha
  have hreach : Record.farthest start (a.record :: run.attempts.map Attempt.record) =
      max a.record.reach (Record.farthest a.record.stop (run.attempts.map Attempt.record)) := by
    rw [Record.farthest_cons (ha.start_le_stop.trans hstop), Record.farthest_of_le hstop]
  have hattempts : Run.attempts { run with accepted := a :: run.accepted } = a :: run.attempts := rfl
  simp only [Run.ends, Run.satisfies_cons, Run.stop_cons, hattempts, List.map_cons, hreach, alsoReaching, Nat.max_assoc]
  rfl

/-- The first repetition ends the run if it fails or does not move on, and otherwise the others follow it: one less is
asked for and one less may come. -/
lemma ends_repetition_first (hm : m.Meets (Framing size)) {least : Nat} {most : Option Nat} (steps : Nat)
    (hroom : 0 < least ∨ most ≠ some 0) :
    (repetition m least most (steps + 1)).ends start bound =
      (m.ends start bound).bind fun
        | (true, stop, reach) =>
          if stop ≤ start then some (true, start, reach)
          else ((repetition m (least - 1) (most.map (· - 1)) steps).ends stop bound).map (alsoReaching reach)
        | (false, stop, reach) => some (decide (least = 0), if least = 0 then start else stop, reach) := by
  have hlimit : most.elim (steps + 1) (max least) = (most.map (· - 1)).elim steps (max (least - 1)) + 1 := by
    cases most with
    | none => rfl
    | some most =>
      have : 0 < least ∨ most ≠ 0 := by simpa using hroom
      simp only [Option.elim_some, Option.map_some]
      omega
  rw [ends_repetition, hlimit, repeatFrom]
  cases ha : m start bound with
  | none => simp [ends, ha]
  | some a =>
    rw [ends_eq_some ha]
    simp only [Option.bind_eq_bind, Option.bind_some]
    cases hs : a.success with
    | false =>
      simp only [Bool.not_false, if_true, Option.pure_def, Option.map_some, Run.ends_refused (hm ha)]
    | true =>
      simp only [Bool.not_true, Bool.false_eq_true, if_false, ends_repetition, Option.isSome_map]
      change Option.map _ (if a.record.stop ≤ start then _
        else Option.bind (repeatFrom m bound _ _ a.record.stop) _) = _
      by_cases hidle : a.record.stop ≤ start
      · simp only [if_pos hidle, Option.pure_def, Option.map_some, Run.ends_idle (hm ha)]
      · simp only [if_neg hidle]
        cases repeatFrom m bound most.isSome ((most.map (· - 1)).elim steps (max (least - 1))) a.record.stop with
        | none => rfl
        | some run =>
          simp only [Option.bind_some, Option.pure_def, Option.map_some, Run.ends_cons (hm ha)]

/-- Where the repeated matcher does not move on, no repetition does, and they reach no farther. -/
lemma ends_repetition_of_idle (hm : m.Meets (Framing size)) {reach : Nat}
    (h : m.ends start bound = some (true, start, reach)) (least : Nat) (most : Option Nat) {steps : Nat}
    (hsteps : most = none → 0 < steps) :
    ((repetition m least most steps).ends start bound).map (alsoReaching reach) = some (true, start, reach) := by
  by_cases hroom : 0 < least ∨ most ≠ some 0
  · -- the limit leaves room for one round, whose stop is the start again
    have hsucc : ∃ steps', (repetition m least most steps).ends start bound =
        (repetition m least most (steps' + 1)).ends start bound := by
      cases most with
      | none => exact ⟨steps - 1, by rw [Nat.sub_add_cancel (hsteps rfl)]⟩
      | some most => exact ⟨steps, rfl⟩
    obtain ⟨steps', hsucc⟩ := hsucc
    rw [hsucc, ends_repetition_first hm steps' hroom, h]
    simp [alsoReaching]
  · -- no room for a round: the repetition succeeds where it stands, having reached nothing
    obtain ⟨hleast, hfull⟩ := not_or.1 hroom
    obtain rfl : least = 0 := by omega
    obtain rfl : most = some 0 := not_not.1 hfull
    have hnone : (repetition m 0 (some 0) steps).ends start bound = some (true, start, start) := by
      rw [ends_repetition]
      exact congrArg (fun reach => some (true, start, reach)) (Nat.max_self start)
    rw [hnone]
    simp [alsoReaching, Nat.max_eq_left (hm.le_of_ends h).2]

/-- The ends of a repetition are those of its first part and of the others after it, whether it moves on or not. -/
lemma ends_repetition_succ (hm : m.Meets (Framing size)) {least : Nat} {most : Option Nat} {steps : Nat}
    (hroom : 0 < least ∨ most ≠ some 0) (hsteps : most = none → 0 < steps) :
    (repetition m least most (steps + 1)).ends start bound =
      (m.ends start bound).bind fun
        | (true, stop, reach) =>
          ((repetition m (least - 1) (most.map (· - 1)) steps).ends stop bound).map (alsoReaching reach)
        | (false, stop, reach) => some (decide (least = 0), if least = 0 then start else stop, reach) := by
  rw [ends_repetition_first hm steps hroom]
  cases h : m.ends start bound with
  | none => rfl
  | some e =>
    obtain ⟨success, stop, reach⟩ := e
    cases success with
    | false => rfl
    | true =>
      simp only [Option.bind_some]
      split
      · rename_i hidle
        -- an idle round ends the run at once; what it is compared with would only idle once more
        obtain rfl : stop = start := Nat.le_antisymm hidle (hm.le_of_ends h).1
        rw [ends_repetition_of_idle hm h]
        simpa using hsteps
      · rfl

lemma success_of_ends_repetition_zero {most : Option Nat} {steps : Nat} {success : Bool} {stop reach : Nat}
    (h : (repetition m 0 most steps).ends start bound = some (success, stop, reach)) : success = true := by
  rw [ends_repetition] at h
  obtain ⟨run, _, hends⟩ := Option.map_eq_some_iff.1 h
  have hsatisfies : run.satisfies 0 = true := by
    unfold Run.satisfies
    split <;> simp
  rw [← hsatisfies]
  exact (congrArg Prod.fst hends).symm

end Matcher

/-! ### Runs -/

namespace Grammar

variable {α : Type} [DecidableEq α] [LE α] [DecidableLE α] {g : Grammar α} {input : Array α} {steps start bound : Nat}
  {item : Keyed (Pattern α)} {items : List (Keyed (Pattern α))} {p q : Pattern α}

/-- With enough steps, the pattern comes to an attempt with these ends. -/
def ComesTo (g : Grammar α) (input : Array α) (p : Pattern α) (start bound : Nat) (ends : Bool × Nat × Nat) : Prop :=
  ∃ steps, (g.run input steps p start bound).map Attempt.ends = some ends

lemma ends_run_concat_cons (hg : g.EditFree) (hitem : item.value.EditFree) :
    (g.run input steps (.concat (item :: items))).ends start bound =
      ((g.run input steps item.value).ends start bound).bind fun
        | (true, stop, reach) => ((g.run input steps (.concat items)).ends stop bound).map (alsoReaching reach)
        | (false, stop, reach) => some (false, stop, reach) :=
  Matcher.ends_concat_cons (hg.run_framing hitem input steps) _

lemma ends_run_concat_singleton (hg : g.EditFree) (hitem : item.value.EditFree) :
    (g.run input steps (.concat [item])).ends start bound = (g.run input steps item.value).ends start bound :=
  Matcher.ends_concat_singleton (hg.run_framing hitem input steps)

lemma ends_run_pair (hg : g.EditFree) (hp : p.EditFree) (hq : q.EditFree) :
    (g.run input steps (.concat [.plain p, .plain q])).ends start bound =
      ((g.run input steps p).ends start bound).bind fun
        | (true, stop, reach) => ((g.run input steps q).ends stop bound).map (alsoReaching reach)
        | (false, stop, reach) => some (false, stop, reach) := by
  have hfirst : (Keyed.plain p).value.EditFree := hp
  have hsecond : (Keyed.plain q).value.EditFree := hq
  rw [ends_run_concat_cons hg hfirst]
  simp only [ends_run_concat_singleton hg hsecond]
  rfl

lemma ends_run_choice_cons (hg : g.EditFree) (hitem : item.value.EditFree) :
    (g.run input steps (.choice (item :: items))).ends start bound =
      ((g.run input steps item.value).ends start bound).bind fun
        | (true, stop, reach) => some (true, stop, reach)
        | (false, _, reach) => ((g.run input steps (.choice items)).ends start bound).map (alsoReaching reach) :=
  Matcher.ends_choice_cons (hg.run_framing hitem input steps) _

lemma ends_run_optional (hg : g.EditFree) (hp : p.EditFree) :
    (g.run input steps p.optional).ends start bound =
      ((g.run input steps p).ends start bound).map fun
        | (true, stop, reach) => (true, stop, reach)
        | (false, _, reach) => (true, start, reach) := by
  have hempty : (g.run input steps (.choice [.plain .empty])).ends start bound = some (true, start, start) :=
    ends_run_choice_cons hg .empty
  rw [Pattern.optional, ends_run_choice_cons hg hp]
  change ((g.run input steps p).ends start bound).bind _ = _
  cases h : (g.run input steps p).ends start bound with
  | none => rfl
  | some e =>
    obtain ⟨success, stop, reach⟩ := e
    have hle := (hg.run_framing hp input steps).le_of_ends h
    cases success with
    | true => rfl
    | false => simp [hempty, alsoReaching, Nat.max_eq_left (hle.1.trans hle.2)]

/-- Nothing is added by an empty item at the end. -/
lemma ends_run_concat_append_empty (hg : g.EditFree) (hitems : ∀ item ∈ items, item.value.EditFree) :
    (g.run input steps (.concat (items ++ [.plain .empty]))).ends start bound =
      (g.run input steps (.concat items)).ends start bound := by
  induction items generalizing start with
  | nil =>
    have hempty : (Keyed.plain (.empty : Pattern α)).value.EditFree := .empty
    rw [List.nil_append, ends_run_concat_singleton hg hempty]
    exact Matcher.ends_concat_nil.symm
  | cons item items ih =>
    rw [List.forall_mem_cons] at hitems
    rw [List.cons_append, ends_run_concat_cons hg hitems.1, ends_run_concat_cons hg hitems.1]
    simp only [ih hitems.2]

lemma ends_mono {steps' : Nat} {ends : Bool × Nat × Nat} (hsteps : steps ≤ steps')
    (h : (g.run input steps p).ends start bound = some ends) : (g.run input steps' p).ends start bound = some ends := by
  obtain ⟨a, ha, rfl⟩ := Option.map_eq_some_iff.1 h
  exact Option.map_eq_some_iff.2 ⟨a, g.run_mono input p hsteps ha, rfl⟩

lemma comesTo_congr {ends : Bool × Nat × Nat}
    (h : ∀ steps, (g.run input steps p).ends start bound = (g.run input steps q).ends start bound) :
    g.ComesTo input p start bound ends ↔ g.ComesTo input q start bound ends :=
  exists_congr fun steps => iff_of_eq (congrArg (· = some ends) (h steps))

end Grammar

end PegTrace
