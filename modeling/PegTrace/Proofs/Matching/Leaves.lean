import PegTrace.Proofs.Matching.Series
import PegTrace.Record.Stretch

/-!
# The leaves of a match

The leaves of a record are the records without parts that a walk through it meets. If a pattern puts no conditions on
what it matches and edits no records, the leaves of a success stand side by side from its start to its stop, so that
their texts together are its text (`run_leaves_sideBySide`). No failed attempt is kept below a success: the alternative
that a choice keeps succeeded, and so did all items of a concatenation and all repetitions that were accepted.
-/

namespace PegTrace

/-! ### Records side by side -/

namespace Record

/-- Records from one place to another, each of which starts where the one before it stops. -/
inductive SideBySide : Nat → List Record → Nat → Prop
  | nil (place : Nat) : SideBySide place [] place
  | cons {r : Record} {later : List Record} {stop : Nat} (hlater : SideBySide r.stop later stop) :
      SideBySide r.start (r :: later) stop

namespace SideBySide

variable {start middle stop : Nat} {records others : List Record}

lemma append (h : SideBySide start records middle) (h' : SideBySide middle others stop) :
    SideBySide start (records ++ others) stop := by
  induction h with
  | nil => exact h'
  | cons _ ih => exact .cons (ih h')

lemma head_start (h : SideBySide start records stop) : ∀ r ∈ records.head?, r.start = start := by
  cases h with
  | nil => simp
  | cons => simp

lemma isChain (h : SideBySide start records stop) : records.IsChain fun r next => next.start = r.stop := by
  induction h with
  | nil => exact .nil
  | cons hlater ih => exact List.isChain_cons.2 ⟨hlater.head_start, ih⟩

lemma lastStop_eq (h : SideBySide start records stop) : lastStop start records = stop := by
  induction h with
  | nil => rfl
  | @cons r later stop _ ih =>
    rw [← ih, lastStop, lastStop, List.getLast?_cons]
    cases later.getLast? with
    | none => rfl
    | some last => rfl

lemma start_le_stop (h : SideBySide start records stop) (hordered : ∀ r ∈ records, r.start ≤ r.stop) :
    start ≤ stop := by
  induction h with
  | nil => exact Nat.le_refl _
  | cons _ ih =>
    rw [List.forall_mem_cons] at hordered
    exact hordered.1.trans (ih hordered.2)

/-- The characters of the records together are those from the one place to the other. -/
lemma flatMap_symbols {α : Type} (input : Array α) (h : SideBySide start records stop)
    (hordered : ∀ r ∈ records, r.start ≤ r.stop) : records.flatMap (·.symbols input) = slice input start stop := by
  induction h with
  | nil => simp [slice]
  | cons hlater ih =>
    rw [List.forall_mem_cons] at hordered
    rw [List.flatMap_cons, ih hordered.2, symbols]
    exact slice_append input hordered.1 (hlater.start_le_stop hordered.2)

end SideBySide

/-! ### Leaves -/

/-- The records without parts that a walk meets, in order. -/
def leaves (r : Record) : List Record :=
  (r.visits.map Visit.record).filter fun s => s.kind = .span

lemma leaves_eq (r : Record) :
    r.leaves = (if r.kind = .span then [r] else []) ++ r.children.flatMap (·.value.leaves) := by
  simp only [leaves]
  rw [map_record_visits, List.filter_cons, List.filter_flatMap]
  by_cases hkind : r.kind = .span
  · simp [hkind]
  · simp [hkind]

@[simp] lemma leaves_span (e : Extent) : (span e).leaves = [span e] := by
  rw [leaves_eq]
  simp [kind, children]

@[simp] lemma leaves_choice_some (e : Extent) (index : Option Nat) (key : Option Key) (r : Record) :
    (choice e index key (some r)).leaves = r.leaves := by
  rw [leaves_eq]
  simp [kind, children]

@[simp] lemma leaves_all_ofList (e : Extent) (items : List (Keyed Record)) :
    (all e (.ofList items)).leaves = items.flatMap (·.value.leaves) := by
  rw [leaves_eq]
  simp [kind, children]

@[simp] lemma leaves_series (e : Extent) (items : List Record) :
    (series e items).leaves = items.flatMap leaves := by
  rw [leaves_eq]
  simp [kind, children, Keyed.plain, List.flatMap_map]

/-- A record without parts is its own leaf. -/
lemma sideBySide_leaves_span (e : Extent) : SideBySide e.start (span e).leaves e.stop := by
  have hnext : SideBySide (span e).stop [] e.stop := .nil e.stop
  rw [leaves_span]
  exact .cons hnext

/-- The leaves of a framed record have their cursors in order. -/
lemma Framed.start_le_stop_of_mem_leaves {r leaf : Record} {start limit : Nat} (h : r.Framed start limit)
    (hleaf : leaf ∈ r.leaves) : leaf.start ≤ leaf.stop := by
  obtain ⟨v, hv, rfl⟩ := List.mem_map.1 (List.mem_filter.1 hleaf).1
  exact (h.within v.node (List.mem_map_of_mem hv)).start_le_stop

end Record

open Record (SideBySide)

/-- The leaves of an attempt that succeeded stand side by side from its start to its stop. -/
def Spelled (start _bound : Nat) (a : Attempt) : Prop :=
  a.success → SideBySide start a.record.leaves a.stop

/-! ### Operators -/

namespace Matcher

variable {m : Matcher} {items : List (Keyed Matcher)} {start stop bound : Nat}

lemma choice_spelled (hm : ∀ m ∈ items, m.value.Meets Spelled) : (choice items).Meets Spelled := by
  intro start bound a h hs
  obtain ⟨skipped, m, rest, b, e, index, rfl, _, hb, hsuccess, hstop, hrecord⟩ := choice_of_success h hs
  rw [hstop, hrecord, Record.leaves_choice_some]
  exact hm m (List.mem_append_right _ List.mem_cons_self) hb hsuccess

lemma tryInSequence_spelled {tried : List (Keyed Attempt)} (hm : ∀ m ∈ items, m.value.Meets Spelled)
    (h : tryInSequence bound start items = some tried) (hs : ∀ b ∈ tried, b.value.success) :
    SideBySide start (tried.flatMap (·.value.record.leaves)) (lastStop start tried) := by
  induction items generalizing start tried with
  | nil =>
    cases h
    exact .nil start
  | cons m items ih =>
    rw [List.forall_mem_cons] at hm
    obtain ⟨a, later, rfl, ha, hsuccess, hlater, hs⟩ := tryInSequence_cons_of_success h hs
    rw [lastStop_cons, List.flatMap_cons]
    exact (hm.1 ha hsuccess).append (ih hm.2 hlater hs)

lemma concat_spelled (hm : ∀ m ∈ items, m.value.Meets Spelled) : (concat items).Meets Spelled := by
  intro start bound a h hs
  obtain ⟨tried, e, htried, hsuccess, hstop, hrecord⟩ := concat_of_success h hs
  rw [hstop, hrecord, Record.leaves_all_ofList, keyedRecords, List.flatMap_map]
  exact tryInSequence_spelled hm htried hsuccess

lemma Chain.spelled {accepted : List Attempt} (hm : m.Meets Spelled) (h : Chain m bound start accepted stop) :
    SideBySide start ((accepted.map Attempt.record).flatMap Record.leaves) stop := by
  induction h with
  | nil place => exact .nil place
  | cons ha hs _ _ ih =>
    rw [List.map_cons, List.flatMap_cons]
    exact (hm ha hs).append ih

lemma repetition_spelled (hm : m.Meets Spelled) (least : Nat) (most : Option Nat) (steps : Nat) :
    (repetition m least most steps).Meets Spelled := by
  intro start bound a h hs
  obtain ⟨run, hrun, h⟩ := Option.bind_eq_some_iff.1 h
  cases h
  rw [Attempt.stop_series, Run.stop_of_satisfies hs, Record.leaves_series]
  exact (repeatWithin_chain hrun).1.spelled hm

lemma collapse_spelled : (collapse m).Meets Spelled := by
  intro start bound a h _
  obtain ⟨b, _, h⟩ := Option.bind_eq_some_iff.1 h
  cases h
  exact Record.sideBySide_leaves_span ⟨start, b.record.stop, b.record.reach⟩

lemma empty_spelled : empty.Meets Spelled := by
  intro start bound a h _
  cases h
  exact Record.sideBySide_leaves_span (.empty start)

lemma literal_spelled {α : Type} [DecidableEq α] [LE α] [DecidableLE α] (input : Array α) (test : CharTest α) :
    (literal input test).Meets Spelled := by
  intro start bound a h hs
  simp only [literal] at h
  split at h
  · cases h
    cases hs
  · cases h
    exact Record.sideBySide_leaves_span ⟨start, start + 1, start + 1⟩

end Matcher

/-! ### Patterns without conditions -/

variable {α : Type}

/-- The pattern is built without intersections, differences, conditions and edits. -/
inductive Pattern.Unconditional : Pattern α → Prop
  | empty : Unconditional .empty
  | literal (test : CharTest α) : Unconditional (.literal test)
  | choice {items : List (Keyed (Pattern α))} (h : ∀ item ∈ items, Unconditional item.value) :
      Unconditional (.choice items)
  | concat {items : List (Keyed (Pattern α))} (h : ∀ item ∈ items, Unconditional item.value) :
      Unconditional (.concat items)
  | repetition {inner : Pattern α} (least : Nat) (most : Option Nat) (h : Unconditional inner) :
      Unconditional (.repetition inner least most)
  | hole (id : Nat) : Unconditional (.hole id)
  | collapse {inner : Pattern α} (h : Unconditional inner) : Unconditional (.collapse inner)

/-- Every body of a hole is built without intersections, differences, conditions and edits. -/
def Grammar.Unconditional (g : Grammar α) : Prop :=
  ∀ ⦃id body⦄, g.body? id = some body → body.Unconditional

lemma Pattern.Unconditional.editFree {p : Pattern α} (h : p.Unconditional) : p.EditFree := by
  induction h with
  | empty => exact .empty
  | literal test => exact .literal test
  | choice _ ih => exact .choice ih
  | concat _ ih => exact .concat ih
  | repetition least most _ ih => exact .repetition least most ih
  | hole id => exact .hole id
  | collapse _ ih => exact .collapse ih

variable [DecidableEq α] [LE α] [DecidableLE α]

lemma Pattern.Unconditional.matcher_spelled {input : Array α} {holes : Nat → Matcher} (rounds : Nat)
    (hholes : ∀ id, (holes id).Meets Spelled) {p : Pattern α} (hp : p.Unconditional) :
    (p.matcher input holes rounds).Meets Spelled := by
  induction hp with
  | empty => exact Matcher.empty_spelled
  | literal test => exact Matcher.literal_spelled input test
  | choice _ ih => exact Matcher.choice_spelled (Heritable.matchers_meet ih)
  | concat _ ih => exact Matcher.concat_spelled (Heritable.matchers_meet ih)
  | repetition least most _ ih => exact Matcher.repetition_spelled ih least most rounds
  | hole id => exact hholes id
  | collapse _ _ => exact Matcher.collapse_spelled

lemma Grammar.Unconditional.run_spelled {g : Grammar α} (hg : g.Unconditional) {p : Pattern α} (hp : p.Unconditional)
    (input : Array α) (steps : Nat) : (g.run input steps p).Meets Spelled := by
  refine hp.matcher_spelled steps fun id => ?_
  -- by induction on the steps that may be spent on entering holes; an unbound hole does not succeed
  induction steps generalizing id with
  | zero =>
    intro start bound a h
    cases h
  | succ steps ih =>
    intro start bound a h
    simp only [Grammar.holes] at h
    split at h
    · rename_i body hbody
      exact (hg hbody).matcher_spelled steps ih h
    · cases h
      exact fun hs => absurd hs Bool.false_ne_true

/-- The leaves of a success, in the order of a walk, follow one another from its start to its stop; if there are none,
it stops where it starts. So their characters together are the characters of the whole, and over any text, as the input
itself if it is one, so are their texts. -/
theorem run_leaves_sideBySide {g : Grammar α} {p : Pattern α} (hg : g.Unconditional) (hp : p.Unconditional)
    {input : Array α} {steps start bound : Nat} {a : Attempt} (h : g.run input steps p start bound = some a)
    (hs : a.success) :
    (∀ r ∈ a.record.leaves.head?, r.start = a.record.start) ∧
    (a.record.leaves.IsChain fun r next => next.start = r.stop) ∧
    Record.lastStop a.record.start a.record.leaves = a.record.stop ∧
    a.record.leaves.flatMap (·.symbols input) = a.record.symbols input ∧
    ∀ text : Array Char, String.join (a.record.leaves.map (·.text text)) = a.record.text text := by
  have hframed : a.record.Framed start (max start (min bound input.size)) :=
    Grammar.EditFree.run_framing (fun _ _ hbody => (hg hbody).editFree) hp.editFree input steps h
  have hside : SideBySide a.record.start a.record.leaves a.record.stop := by
    rw [hframed.start_eq]
    exact hg.run_spelled hp input steps h hs
  have hordered : ∀ r ∈ a.record.leaves, r.start ≤ r.stop := fun _ => hframed.start_le_stop_of_mem_leaves
  refine ⟨hside.head_start, hside.isChain, hside.lastStop_eq, hside.flatMap_symbols input hordered, fun text => ?_⟩
  -- texts are the characters of the text in the same places, so the same lemma is used for them
  rw [← String.toList_inj, String.toList_join, List.flatMap_map]
  simp only [Record.text, String.toList_ofList]
  exact hside.flatMap_symbols text hordered

lemma Grammar.unconditional_parens : parens.Unconditional := by
  intro id body h
  match id with
  | 0 =>
    cases h
    refine .choice (List.forall_mem_cons.2 ⟨.concat ?_, List.forall_mem_cons.2 ⟨.empty, by simp⟩⟩)
    simp only [List.forall_mem_cons]
    exact ⟨.literal _, .hole 0, .literal _, by simp⟩
  | id + 1 => simp [body?, parens] at h

/-- Two pairs of parentheses in one another, followed by something else: the leaves are the parentheses and, between
them, nothing. -/
theorem parens_leaves_sideBySide :
    ∃ a, Grammar.parens.run #['(', '(', ')', ')', 'x'] 4 (.hole 0) 0 5 = some a ∧ a.success ∧ a.record.stop = 4 ∧
      a.record.leaves.map (fun r => (r.start, r.stop)) = [(0, 1), (1, 2), (2, 2), (2, 3), (3, 4)] ∧
      (a.record.leaves.IsChain fun r next => next.start = r.stop) ∧
      Record.lastStop a.record.start a.record.leaves = a.record.stop ∧
      String.join (a.record.leaves.map (·.text #['(', '(', ')', ')', 'x'])) =
        a.record.text #['(', '(', ')', ')', 'x'] := by
  have hrun : (Grammar.parens.run #['(', '(', ')', ')', 'x'] 4 (.hole 0) 0 5).any (fun a => a.success &&
      a.record.stop = 4 && a.record.leaves.map (fun r => (r.start, r.stop)) =
        [(0, 1), (1, 2), (2, 2), (2, 3), (3, 4)]) := by decide +kernel
  obtain ⟨a, ha, htold⟩ := (Option.any_eq_true _ _).1 hrun
  simp only [Bool.and_eq_true, decide_eq_true_eq] at htold
  obtain ⟨_, hchain, hlast, _, htext⟩ :=
    run_leaves_sideBySide Grammar.unconditional_parens (.hole 0) ha htold.1.1
  exact ⟨a, ha, htold.1.1, htold.1.2, htold.2, hchain, hlast, htext _⟩

end PegTrace
