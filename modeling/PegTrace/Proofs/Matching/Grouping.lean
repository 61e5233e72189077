import PegTrace.Proofs.Matching.Ends

/-!
# Grouping

Items that follow one another may be put together as an item of their own, and so may alternatives that are tried in
turn. The group begins with a reach of its own and may stop at any of its items, but the whole comes to the same ends,
on success and on failure (`run_ends_ungrouped`). What counts is that the items up to any place come to ends of their
own, from which the others go on (`Grammar.ends_run_concat_append`, `Grammar.ends_run_choice_append`).
-/

namespace PegTrace

lemma map_alsoReaching_max (reach reach' : Nat) (ends : Option (Bool × Nat × Nat)) :
    ends.map (alsoReaching (max reach reach')) = (ends.map (alsoReaching reach')).map (alsoReaching reach) := by
  rw [Option.map_map]
  congr 1
  funext ⟨success, stop, farthest⟩
  simp only [Function.comp_apply, alsoReaching, Nat.max_assoc]

/-- What goes on from some ends, and reaches as far as they do, may be told of a farther reach before or afterwards. -/
lemma bind_map_alsoReaching {next : Bool × Nat × Nat → Option (Bool × Nat × Nat)} {reach : Nat}
    (hnext : ∀ ends, next (alsoReaching reach ends) = (next ends).map (alsoReaching reach))
    (ends : Option (Bool × Nat × Nat)) :
    (ends.map (alsoReaching reach)).bind next = (ends.bind next).map (alsoReaching reach) := by
  cases ends with
  | none => rfl
  | some ends => exact hnext ends

/-- A framed attempt reaches its own start anyway. -/
lemma Matcher.Meets.map_alsoReaching_start {m : Matcher} {size : Nat} (hm : m.Meets (Framing size))
    (start bound : Nat) : (m.ends start bound).map (alsoReaching start) = m.ends start bound := by
  cases h : m.ends start bound with
  | none => rfl
  | some e =>
    obtain ⟨success, stop, reach⟩ := e
    obtain ⟨hstop, hreach⟩ := hm.le_of_ends h
    rw [Option.map_some, alsoReaching, Nat.max_eq_right (hstop.trans hreach)]

variable {α : Type} [DecidableEq α] [LE α] [DecidableLE α]

namespace Grammar

variable {g : Grammar α} {input : Array α} {steps start bound : Nat} {xs ys zs : List (Keyed (Pattern α))}

/-! ### Items up to any place -/

/-- The first items stop the whole if one of them fails, and otherwise the others go on from where they stop. -/
lemma ends_run_concat_append (hg : g.EditFree) (hxs : ∀ item ∈ xs, item.value.EditFree)
    (hys : ∀ item ∈ ys, item.value.EditFree) :
    (g.run input steps (.concat (xs ++ ys))).ends start bound =
      ((g.run input steps (.concat xs)).ends start bound).bind fun
        | (true, stop, reach) => ((g.run input steps (.concat ys)).ends stop bound).map (alsoReaching reach)
        | (false, stop, reach) => some (false, stop, reach) := by
  induction xs generalizing start with
  | nil =>
    have hnil : (g.run input steps (.concat [])).ends start bound = some (true, start, start) := Matcher.ends_concat_nil
    rw [List.nil_append, hnil]
    exact ((hg.run_framing (.concat hys) input steps).map_alsoReaching_start start bound).symm
  | cons item xs ih =>
    rw [List.forall_mem_cons] at hxs
    rw [List.cons_append, ends_run_concat_cons hg hxs.1, ends_run_concat_cons hg hxs.1]
    cases (g.run input steps item.value).ends start bound with
    | none => rfl
    | some e =>
      obtain ⟨success, stop, reach⟩ := e
      cases success with
      | false => rfl
      | true =>
        -- the reaches of the item, of the other `xs` and of `ys` are joined in either grouping
        simp only [Option.bind_some, ih hxs.2]
        refine (bind_map_alsoReaching (fun ends => ?_) _).symm
        obtain ⟨success, stop', reach'⟩ := ends
        cases success with
        | false => rfl
        | true => exact map_alsoReaching_max reach reach' _

/-- The first alternatives decide if one of them succeeds, and otherwise the others are tried. -/
lemma ends_run_choice_append (hg : g.EditFree) (hxs : ∀ item ∈ xs, item.value.EditFree)
    (hys : ∀ item ∈ ys, item.value.EditFree) :
    (g.run input steps (.choice (xs ++ ys))).ends start bound =
      ((g.run input steps (.choice xs)).ends start bound).bind fun
        | (true, stop, reach) => some (true, stop, reach)
        | (false, _, reach) => ((g.run input steps (.choice ys)).ends start bound).map (alsoReaching reach) := by
  induction xs with
  | nil =>
    have hnil : (g.run input steps (.choice [])).ends start bound = some (false, start, start) := by
      exact congrArg (fun reach => some (false, start, reach)) (Nat.max_self start)
    rw [List.nil_append, hnil]
    exact ((hg.run_framing (.choice hys) input steps).map_alsoReaching_start start bound).symm
  | cons item xs ih =>
    rw [List.forall_mem_cons] at hxs
    rw [List.cons_append, ends_run_choice_cons hg hxs.1, ends_run_choice_cons hg hxs.1]
    cases (g.run input steps item.value).ends start bound with
    | none => rfl
    | some e =>
      obtain ⟨success, stop, reach⟩ := e
      cases success with
      | true => rfl
      | false =>
        simp only [Option.bind_some, ih hxs.2]
        refine (bind_map_alsoReaching (fun ends => ?_) _).symm
        obtain ⟨success, stop', reach'⟩ := ends
        cases success with
        | true => rfl
        | false => exact map_alsoReaching_max reach reach' _

/-! ### Groups -/

/-- A group at the front is the same as its items. -/
lemma ends_run_concat_group (hg : g.EditFree) (key : Option Key) (hys : ∀ item ∈ ys, item.value.EditFree)
    (hzs : ∀ item ∈ zs, item.value.EditFree) :
    (g.run input steps (.concat (⟨key, .concat ys⟩ :: zs))).ends start bound =
      (g.run input steps (.concat (ys ++ zs))).ends start bound := by
  rw [ends_run_concat_append hg hys hzs]
  exact ends_run_concat_cons hg (.concat hys)

lemma ends_run_choice_group (hg : g.EditFree) (key : Option Key) (hys : ∀ item ∈ ys, item.value.EditFree)
    (hzs : ∀ item ∈ zs, item.value.EditFree) :
    (g.run input steps (.choice (⟨key, .choice ys⟩ :: zs))).ends start bound =
      (g.run input steps (.choice (ys ++ zs))).ends start bound := by
  rw [ends_run_choice_append hg hys hzs]
  exact ends_run_choice_cons hg (.choice hys)

end Grammar

/-- Items that are put together, under any key, come to the same ends as they do by themselves, both one after the other
and as alternatives. With the same steps there is an answer for both or for neither. -/
theorem run_ends_ungrouped {g : Grammar α} {xs ys zs : List (Keyed (Pattern α))} (hg : g.EditFree)
    (hxs : ∀ item ∈ xs, item.value.EditFree) (hys : ∀ item ∈ ys, item.value.EditFree)
    (hzs : ∀ item ∈ zs, item.value.EditFree) (key : Option Key) (input : Array α) (steps start bound : Nat) :
    (g.run input steps (.concat (xs ++ [⟨key, .concat ys⟩] ++ zs)) start bound).map Attempt.ends =
      (g.run input steps (.concat (xs ++ ys ++ zs)) start bound).map Attempt.ends ∧
    (g.run input steps (.choice (xs ++ [⟨key, .choice ys⟩] ++ zs)) start bound).map Attempt.ends =
      (g.run input steps (.choice (xs ++ ys ++ zs)) start bound).map Attempt.ends := by
  have hitems : ∀ item ∈ ys ++ zs, item.value.EditFree := List.forall_mem_append.2 ⟨hys, hzs⟩
  simp only [List.append_assoc, List.singleton_append]
  constructor
  · have hgrouped : ∀ item ∈ ⟨key, Pattern.concat ys⟩ :: zs, item.value.EditFree :=
      List.forall_mem_cons.2 ⟨.concat hys, hzs⟩
    change Matcher.ends _ start bound = Matcher.ends _ start bound
    rw [Grammar.ends_run_concat_append hg hxs hgrouped, Grammar.ends_run_concat_append hg hxs hitems]
    simp only [Grammar.ends_run_concat_group hg key hys hzs]
  · have hgrouped : ∀ item ∈ ⟨key, Pattern.choice ys⟩ :: zs, item.value.EditFree :=
      List.forall_mem_cons.2 ⟨.choice hys, hzs⟩
    change Matcher.ends _ start bound = Matcher.ends _ start bound
    rw [Grammar.ends_run_choice_append hg hxs hgrouped, Grammar.ends_run_choice_append hg hxs hitems]
    simp only [Grammar.ends_run_choice_group hg key hys hzs]

/-- What follows the opening parenthesis is put together, and the closing one is missing. As alternatives, none of them
matches, and the one that looks farthest is in the group. -/
theorem parens_ends_ungrouped :
    (Grammar.parens.run #['(', '(', 'x'] 4
        (.concat ([.plain (.one '(')] ++ [.named "rest" (.concat [.plain (.hole 0), .plain (.one ')')])] ++ []))
          0 3).map Attempt.ends = some (false, 2, 3) ∧
    (Grammar.parens.run #['(', '(', 'x'] 4
        (.choice ([.plain (.one ')')] ++ [.plain (.choice [.plain (.text "((("), .plain (.text "()")])] ++
          [.plain (.one 'x')])) 0 3).map Attempt.ends = some (false, 0, 3) := by
  have htext : ∀ s, (Pattern.text s).EditFree := by
    simp [Pattern.EditFree, Pattern.text, Pattern.sequence, Pattern.one, Keyed.plain]
  have hone : ∀ c : Char, (Pattern.one c).EditFree := fun c => .literal _
  constructor
  · refine (run_ends_ungrouped Grammar.editFree_parens ?_ ?_ ?_ (some "rest") _ 4 0 3).1.trans (by decide +kernel)
    · simpa [Keyed.plain] using hone '('
    · simpa [Keyed.plain] using And.intro (.hole 0) (hone ')')
    · simp
  · refine (run_ends_ungrouped Grammar.editFree_parens ?_ ?_ ?_ none _ 4 0 3).2.trans (by decide +kernel)
    · simpa [Keyed.plain] using hone ')'
    · simpa [Keyed.plain] using And.intro (htext "(((") (htext "()")
    · simpa [Keyed.plain] using hone 'x'

end PegTrace
