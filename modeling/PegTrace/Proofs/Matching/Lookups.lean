import Mathlib.Data.List.Forall2
import PegTrace.Proofs.Matching.Parts
import PegTrace.Proofs.Record.Lookup

/-!
# Lookups in what matches leave

What is found under a key in the record of a concatenation is the last item with that key among those that were
attempted, the one that failed included. In the record of a difference whose base matched it is the last item with that
key in the order in which the items are listed, although they are attempted in another order (`run_lookups_findLast`).
-/

namespace PegTrace

variable {α : Type} [DecidableEq α] [LE α] [DecidableLE α] {g : Grammar α} {input : Array α} {steps start bound : Nat}

/-! ### Concatenation -/

/-- The attempts at items that follow one another, up to and including the first that fails. -/
inductive Attempted (g : Grammar α) (input : Array α) (steps bound : Nat) :
    Nat → List (Keyed (Pattern α)) → List (Keyed Attempt) → Prop
  | nil (start : Nat) : Attempted g input steps bound start [] []
  | passed {start : Nat} {item : Keyed (Pattern α)} {items : List (Keyed (Pattern α))} {a : Attempt}
      {tried : List (Keyed Attempt)} (ha : g.run input steps item.value start bound = some a) (hs : a.success)
      (hlater : Attempted g input steps bound a.stop items tried) :
      Attempted g input steps bound start (item :: items) (⟨item.key, a⟩ :: tried)
  | refused {start : Nat} {item : Keyed (Pattern α)} (items : List (Keyed (Pattern α))) {a : Attempt}
      (ha : g.run input steps item.value start bound = some a) (hs : ¬ a.success) :
      Attempted g input steps bound start (item :: items) [⟨item.key, a⟩]

/-- There is one way only to attempt the items. -/
lemma Attempted.eq {items : List (Keyed (Pattern α))} {tried tried' : List (Keyed Attempt)}
    (h : Attempted g input steps bound start items tried) (h' : Attempted g input steps bound start items tried') :
    tried = tried' := by
  induction h generalizing tried' with
  | nil =>
    cases h'
    rfl
  | passed ha hs _ ih =>
    cases h' with
    | passed ha' _ hlater' =>
      obtain rfl := Option.some.inj (ha.symm.trans ha')
      rw [ih hlater']
    | refused _ ha' hs' =>
      obtain rfl := Option.some.inj (ha.symm.trans ha')
      -- the same attempt cannot have passed and been refused
      exact absurd hs hs'
  | refused items ha hs =>
    cases h' with
    | passed ha' hs' _ =>
      obtain rfl := Option.some.inj (ha.symm.trans ha')
      exact absurd hs' hs
    | refused _ ha' _ =>
      obtain rfl := Option.some.inj (ha.symm.trans ha')
      rfl

lemma attempted_of_tryInSequence {items : List (Keyed (Pattern α))} {tried : List (Keyed Attempt)}
    (h : Matcher.tryInSequence bound start (items.map (·.map (g.run input steps))) = some tried) :
    Attempted g input steps bound start items tried := by
  induction items generalizing start tried with
  | nil =>
    cases h
    exact .nil start
  | cons item items ih =>
    obtain ⟨a, ha, h⟩ := Option.bind_eq_some_iff.1 h
    split at h
    · rename_i hs
      obtain ⟨later, hlater, h⟩ := Option.bind_eq_some_iff.1 h
      cases h
      exact .passed ha hs (ih hlater)
    · rename_i hs
      cases h
      exact .refused items ha hs

lemma run_concat_findsLast {items : List (Keyed (Pattern α))} {a : Attempt}
    (h : g.run input steps (.concat items) start bound = some a) :
    ∃ tried, Attempted g input steps bound start items tried ∧ FindsLast a.record.get? (keyedRecords tried) := by
  rw [Grammar.run, Pattern.matcher, Pattern.matchers_eq_map] at h
  obtain ⟨tried, htried, h⟩ := Option.bind_eq_some_iff.1 h
  cases h
  exact ⟨tried, attempted_of_tryInSequence htried, Roster.findsLast_ofList (keyedRecords tried)⟩

/-! ### Difference -/

/-- The attempt is one at the item, from the start to the bound, and is kept under its key. -/
def AttemptedOn (g : Grammar α) (input : Array α) (steps start bound : Nat) (item : Keyed (Pattern α))
    (a : Keyed Attempt) : Prop :=
  a.key = item.key ∧ g.run input steps item.value start bound = some a.value

lemma attemptedOn_of_tryEach {items : List (Keyed (Pattern α))} {tried : List (Keyed Attempt)}
    (h : Matcher.tryEach start bound (items.map (·.map (g.run input steps))) = some tried) :
    List.Forall₂ (AttemptedOn g input steps start bound) items tried := by
  induction items generalizing tried with
  | nil =>
    cases h
    exact .nil
  | cons item items ih =>
    obtain ⟨a, ha, h⟩ := Option.bind_eq_some_iff.1 h
    obtain ⟨later, hlater, h⟩ := Option.bind_eq_some_iff.1 h
    cases h
    exact .cons ⟨rfl, ha⟩ (ih hlater)

/-- The items after the base are attempted last to first, and their attempts are put back in order. -/
lemma run_difference_findsLast {item : Keyed (Pattern α)} {others : List (Keyed (Pattern α))} {exclude : Bool}
    {base a : Attempt} (hbase : g.run input steps item.value start bound = some base) (hs : base.success)
    (h : g.run input steps (.difference (item :: others) exclude) start bound = some a) :
    ∃ tried, List.Forall₂ (AttemptedOn g input steps start base.stop) others tried ∧
      FindsLast a.record.get? (keyedRecords (⟨item.key, base⟩ :: tried)) := by
  have hmatchers := Pattern.matchers_eq_map input (g.holes input steps) steps others
  have h := (Matcher.difference_of_success hbase hs _ exclude).symm.trans h
  obtain ⟨tried, htried, rfl⟩ := Option.map_eq_some_iff.1 h
  rw [hmatchers, ← List.map_reverse] at htried
  have hothers := List.rel_reverse (attemptedOn_of_tryEach htried)
  rw [List.reverse_reverse] at hothers
  exact ⟨tried.reverse, hothers, Roster.findsLast_ofList _⟩

/-- Whatever items are added to a roster, its values, its keys and its index are those of three containers that are
added to side by side, and these are in step; and what is found under a key is what was added last under it. Hence the
record of a concatenation shows the last item of each key among those that were attempted, and the record of a
difference of which the base matched shows the last item of each key in the order in which the items are listed. -/
theorem run_lookups_findLast (g : Grammar α) (input : Array α) (steps start bound : Nat) :
    (∀ items : List (Keyed Record),
      (items.foldl Roster.push .empty).columns = items.foldl Columns.push {} ∧
      (items.foldl Columns.push {}).InStep ∧
      FindsLast (items.foldl Roster.push .empty).get? items) ∧
    (∀ (items : List (Keyed (Pattern α))) (a : Attempt),
      g.run input steps (.concat items) start bound = some a →
        ∃ tried, Attempted g input steps bound start items tried ∧
          FindsLast a.record.get? (keyedRecords tried)) ∧
    ∀ (item : Keyed (Pattern α)) (others : List (Keyed (Pattern α))) (exclude : Bool) (base a : Attempt),
      g.run input steps item.value start bound = some base → base.success →
      g.run input steps (.difference (item :: others) exclude) start bound = some a →
        ∃ tried, List.Forall₂ (AttemptedOn g input steps start base.stop) others tried ∧
          FindsLast a.record.get? (keyedRecords (⟨item.key, base⟩ :: tried)) := by
  refine ⟨fun items => ⟨Roster.columns_foldl_push items, (Columns.findsLast items).1, ?_⟩,
    fun items a => run_concat_findsLast, fun item others exclude base a => run_difference_findsLast⟩
  rw [← Roster.ofList_eq_foldl_push]
  exact Roster.findsLast_ofList items

/-- Four letters in a row, three of them under one key. -/
def letters : List (Keyed (Pattern Char)) :=
  [.named "x" (.one 'a'), .named "x" (.one 'b'), .named "y" (.one 'c'), .named "x" (.one 'd')]

/-- A letter and a text that are both under the key of the letter before them. -/
def letterOrText : List (Keyed (Pattern Char)) :=
  [.named "x" (.one 'a'), .named "x" (.text "ab")]

/-- In the row of letters the second hides the first, the one that is not there is found as well, and the one after it
was not attempted. In the difference, the text is attempted before the letter that it hides. -/
theorem letters_lookups_findLast :
    (∃ a, ({} : Grammar Char).run #['a', 'b', '?', 'd'] 0 (.concat letters) 0 4 = some a ∧
      a.record.get? "x" = some (.span ⟨1, 2, 2⟩) ∧ a.record.get? "y" = some (.span ⟨2, 3, 3⟩)) ∧
    ∃ a b, ({} : Grammar Char).run #['a', 'b'] 0
        (.difference (.named "x" (.one 'a') :: letterOrText) true) 0 2 = some a ∧
      ({} : Grammar Char).run #['a', 'b'] 0 (.text "ab") 0 1 = some b ∧ a.record.get? "x" = some b.record := by
  constructor
  · obtain ⟨a, ha⟩ : ∃ a, ({} : Grammar Char).run #['a', 'b', '?', 'd'] 0 (.concat letters) 0 4 = some a := ⟨_, rfl⟩
    obtain ⟨tried, htried, hlast⟩ := (run_lookups_findLast {} _ 0 0 4).2.1 letters a ha
    have htold : Attempted {} #['a', 'b', '?', 'd'] 0 4 0 letters _ :=
      .passed rfl rfl (.passed rfl rfl (.refused _ rfl Bool.false_ne_true))
    obtain rfl := htried.eq htold
    refine ⟨a, ha, (hlast.eq_some_iff _ _).2 ⟨[_], [_], rfl, ?_⟩, (hlast.eq_some_iff _ _).2 ⟨[_, _], [], rfl, ?_⟩⟩
    · decide
    · decide
  · have hbase : ({} : Grammar Char).run #['a', 'b'] 0 (.one 'a') 0 2 =
        some ⟨true, .span ⟨0, 1, 1⟩, .event (.read 0)⟩ := rfl
    obtain ⟨a, ha⟩ : ∃ a, ({} : Grammar Char).run #['a', 'b'] 0
        (.difference (.named "x" (.one 'a') :: letterOrText) true) 0 2 = some a := ⟨_, rfl⟩
    obtain ⟨tried, htried, hlast⟩ := (run_lookups_findLast {} _ 0 0 2).2.2 _ letterOrText true _ a hbase rfl ha
    obtain ⟨first, rest, -, hrest, rfl⟩ := List.forall₂_cons_left_iff.1 htried
    obtain ⟨⟨key, b⟩, rest, ⟨hkey, hb⟩, hnil, rfl⟩ := List.forall₂_cons_left_iff.1 hrest
    obtain rfl := List.forall₂_nil_left_iff.1 hnil
    obtain rfl : key = some "x" := hkey
    exact ⟨a, b, ha, hb, (hlast.eq_some_iff _ _).2 ⟨[_, _], [], rfl, List.forall_mem_nil _⟩⟩

end PegTrace
