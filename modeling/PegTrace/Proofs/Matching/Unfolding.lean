import Mathlib.Logic.Relation
import PegTrace.Proofs.Matching.Lockstep

/-!
# Bound holes are transparent

A hole that is bound may be replaced by its body, at any places of a pattern and of the bodies of a grammar, those that
lead back to the hole among them. A run gives an answer with enough steps if and only if it does after the holes are
unfolded, and then the attempts agree in success and in their whole records (`run_iff_unfolded`). Entering a hole takes
a step, so that the unfolded pattern needs no more steps, and the original pattern no more than twice as many and one.
-/

namespace PegTrace

variable {α : Type}

/-- The first pattern is a hole, and the second its body. -/
inductive Pattern.Unfolds (g : Grammar α) : Pattern α → Pattern α → Prop
  | hole {id : Nat} {body : Pattern α} (h : g.body? id = some body) : Unfolds g (.hole id) body

/-- The second pattern is the first with bodies of `g` in the place of any number of holes. -/
def Pattern.Unfolded (g : Grammar α) (p p' : Pattern α) : Prop :=
  p.Revised (fun _ => True) Eq (Unfolds g) p'

/-- The bodies of the second grammar are those of the first with any number of holes unfolded once. -/
def Grammar.Unfolded (g g' : Grammar α) : Prop :=
  g.Revised (fun _ => True) Eq (Pattern.Unfolds g) g'

/-! ### Equal records -/

lemma Keyed.Rel.eq {β : Type} {item item' : Keyed β} (h : item.Rel Eq Eq item') : item = item' := by
  obtain ⟨key, value⟩ := item
  obtain ⟨key', value'⟩ := item'
  obtain ⟨rfl, rfl⟩ := h
  rfl

lemma Extent.Rel.eq {e e' : Extent} (h : e.Rel Eq e') : e = e' := by
  obtain ⟨start, stop, reach⟩ := e
  obtain ⟨start', stop', reach'⟩ := e'
  obtain ⟨rfl, rfl, rfl⟩ := h
  rfl

lemma eq_of_forall₂ {β : Type} {R : β → β → Prop} {items items' : List β} (h : List.Forall₂ R items items')
    (hR : ∀ item item', R item item' → item = item') : items = items' := by
  rw [← List.forall₂_eq_eq_eq]
  exact h.imp hR

/-- Equality is a likeness. -/
lemma likeness_eq : Likeness Eq Eq Eq where
  le_iff_le hi hj := by rw [hi, hj]
  key_none := rfl
  stop h := by rw [h]
  reach h := by rw [h]
  span he := by rw [he.eq]
  pair he h₁ h₂ := by rw [he.eq, h₁, h₂]
  choice he hk hc := by
    rw [he.eq, hk]
    cases hc with
    | none => rfl
    | some h => rw [h]
  all he h := by rw [he.eq, eq_of_forall₂ h fun _ _ => Keyed.Rel.eq]
  series he h := by rw [he.eq, eq_of_forall₂ h fun _ _ => id]

variable [DecidableEq α] [LE α] [DecidableLE α]

lemma coupling_eq (input : Array α) : Coupling input input (fun _ => True) Eq Eq Eq where
  toLikeness := likeness_eq
  literal _ := Matcher.followedBy_refl (fun _ => rfl) _
  custom _ _ _ h := by rw [h]

/-! ### Both directions -/

section Unfolded

variable {g g' : Grammar α} {p p' : Pattern α}

/-- A pattern that is not changed is followed by itself, whatever its edits. -/
lemma run_followed_self {input : Array α} {steps steps' : Nat} (hsteps : steps ≤ steps')
    (hh : ∀ id, (g.holes input steps id).FollowedBy Eq Eq (g'.holes input steps' id)) (p : Pattern α) :
    (g.run input steps p).FollowedBy Eq Eq (g'.run input steps' p) :=
  (coupling_eq input).matcher_followed_self (fun _ => rfl) hsteps hh (p.allEdits_of_forall fun _ => trivial)

/-- The unfolded pattern needs no more steps. -/
lemma Pattern.Unfolded.run_followed (hg : g.Unfolded g') (hp : p.Unfolded g p') (input : Array α) (steps : Nat) :
    (g.run input steps p).FollowedBy Eq Eq (g'.run input steps p') := by
  refine (coupling_eq input).run_followed hg Nat.le_refl Nat.lt_succ_self ?_ hp steps
  rintro steps hh _ body ⟨hbody⟩
  cases steps with
  | zero =>
    intro start start' bound bound' a _ _ h
    cases h
  | succ steps =>
    -- the step that was taken for entering the hole is to spare
    rw [g.run_hole_of_body? input steps hbody]
    intro start start' bound bound' a hstart hbound h
    exact run_followed_self (Nat.le_refl _) hh body hstart hbound (g.run_mono input body (Nat.le_succ steps) h)

/-- The original pattern needs one more step for each level that was unfolded. -/
lemma Pattern.Unfolded.run_followed_back (hg : g.Unfolded g') (hp : p.Unfolded g p') (input : Array α) (steps : Nat) :
    (g'.run input steps p').FollowedBy Eq Eq (g.run input (2 * steps + 1) p) := by
  have hflip : flip (Eq : Option Key → Option Key → Prop) = Eq := Std.Symm.flip_eq
  have hgrammar := Grammar.Revised.flip hg
  have hpattern := Pattern.Revised.flip hp
  rw [hflip] at hgrammar hpattern
  have hfn : ∀ steps, 2 * steps ≤ 2 * steps + 1 := fun steps => Nat.le_succ _
  have hnf : ∀ steps, 2 * steps + 1 < 2 * (steps + 1) := fun steps => by omega
  refine (coupling_eq input).run_followed hgrammar hfn hnf ?_ hpattern steps
  rintro steps hh body _ ⟨hbody⟩
  rw [g.run_hole_of_body? input (2 * steps) hbody]
  exact run_followed_self (by omega) hh body

end Unfolded

/-- Unfolding any number of bound holes, in a pattern and in the bodies that it needs, changes no match: there is an
answer with enough steps if and only if there is one for the unfolded pattern, and then both succeed or both fail, and
leave the same record. -/
theorem run_iff_unfolded {g g' : Grammar α} {p p' : Pattern α} (hg : g.Unfolded g') (hp : p.Unfolded g p')
    (input : Array α) (start bound : Nat) :
    ((∃ steps, (g.run input steps p start bound).isSome) ↔ ∃ steps, (g'.run input steps p' start bound).isSome) ∧
    ∀ steps steps' a a', g.run input steps p start bound = some a → g'.run input steps' p' start bound = some a' →
      a.success = a'.success ∧ a.record = a'.record := by
  refine ⟨⟨?_, ?_⟩, ?_⟩
  · rintro ⟨steps, hsome⟩
    obtain ⟨a, ha⟩ := Option.isSome_iff_exists.1 hsome
    obtain ⟨a', ha', _⟩ := hp.run_followed hg input steps rfl rfl ha
    exact ⟨steps, by rw [ha']; rfl⟩
  · rintro ⟨steps, hsome⟩
    obtain ⟨a', ha'⟩ := Option.isSome_iff_exists.1 hsome
    obtain ⟨a, ha, _⟩ := hp.run_followed_back hg input steps rfl rfl ha'
    -- each level that was unfolded asks for one more step
    exact ⟨2 * steps + 1, by rw [ha]; rfl⟩
  · intro steps steps' a a' ha ha'
    obtain ⟨b, hb, halike⟩ := hp.run_followed hg input steps rfl rfl ha
    rw [g'.run_unique input p' ha' hb]
    exact ⟨halike.success, halike.record⟩

/-! ### Parentheses two at a time -/

/-- The pattern between parentheses, or nothing. -/
def inParens (inner : Pattern Char) : Pattern Char :=
  .optional (.concat [.plain (.one '('), .named "inner" inner, .plain (.one ')')])

/-- The body of `Grammar.parens` with the hole in it unfolded: each time round there are two levels of parentheses. -/
def pairedParens : Grammar Char where
  bodies := #[some (inParens (inParens (.hole 0)))]

lemma parens_unfolds : Pattern.Unfolds Grammar.parens (.hole 0) (inParens (.hole 0)) := .hole rfl

lemma inParens_unfolded {inner inner' : Pattern Char} (h : inner.Unfolded Grammar.parens inner') :
    (inParens inner).Unfolded Grammar.parens (inParens inner') := by
  have hconcat := @Pattern.Revised.concat Char (fun _ => True) Eq (Pattern.Unfolds Grammar.parens)
    [(.plain (.one '('), .plain (.one '(')), (.named "inner" inner, .named "inner" inner'),
      (.plain (.one ')'), .plain (.one ')'))] (by simp [Keyed.plain, Keyed.named])
    (by simpa [Keyed.plain, Keyed.named, Pattern.one] using ⟨.literal _, h, .literal _⟩)
  exact @Pattern.Revised.choice Char (fun _ => True) Eq (Pattern.Unfolds Grammar.parens)
    [(.plain _, .plain _), (.plain .empty, .plain .empty)] (by simp [Keyed.plain])
    (by simpa [Keyed.plain] using ⟨hconcat, .empty⟩)

lemma Grammar.parens_unfolded : parens.Unfolded pairedParens := by
  intro id
  match id with
  | 0 => exact .some (inParens_unfolded (.change parens_unfolds))
  | id + 1 => simp [body?, parens, pairedParens]

/-- Of two holes that follow one another the first is unfolded, and so is the one in the body. Fewer steps are needed,
and the missing parenthesis at the end is recorded in the same way. -/
theorem parens_iff_unfolded :
    Grammar.parens.Unfolded pairedParens ∧
    Pattern.Unfolded Grammar.parens (.concat [.plain (.hole 0), .plain (.hole 0)])
      (.concat [.plain (inParens (.hole 0)), .plain (.hole 0)]) ∧
    ∃ a a', Grammar.parens.run #['(', '(', ')', ')', '('] 4 (.concat [.plain (.hole 0), .plain (.hole 0)]) 0 5 =
        some a ∧
      pairedParens.run #['(', '(', ')', ')', '('] 2 (.concat [.plain (inParens (.hole 0)), .plain (.hole 0)]) 0 5 =
        some a' ∧
      a.record.stop = 4 ∧ a.record.reach = 5 ∧ a.success = a'.success ∧ a.record = a'.record := by
  have hp : Pattern.Unfolded Grammar.parens (.concat [.plain (.hole 0), .plain (.hole 0)])
      (.concat [.plain (inParens (.hole 0)), .plain (.hole 0)]) :=
    @Pattern.Revised.concat Char (fun _ => True) Eq (Pattern.Unfolds Grammar.parens)
      [(.plain (.hole 0), .plain (inParens (.hole 0))), (.plain (.hole 0), .plain (.hole 0))] (by simp [Keyed.plain])
      (by simpa [Keyed.plain] using ⟨.change parens_unfolds, .hole 0⟩)
  have hrun : (Grammar.parens.run #['(', '(', ')', ')', '('] 4 (.concat [.plain (.hole 0), .plain (.hole 0)]) 0 5).any
      (fun a => a.record.stop = 4 && a.record.reach = 5) := by decide +kernel
  have hrun' : (pairedParens.run #['(', '(', ')', ')', '('] 2
      (.concat [.plain (inParens (.hole 0)), .plain (.hole 0)]) 0 5).isSome := by decide +kernel
  obtain ⟨a, ha, hends⟩ := (Option.any_eq_true _ _).1 hrun
  obtain ⟨a', ha'⟩ := Option.isSome_iff_exists.1 hrun'
  simp only [Bool.and_eq_true, decide_eq_true_eq] at hends
  exact ⟨Grammar.parens_unfolded, hp, a, a', ha, ha', hends.1, hends.2,
    (run_iff_unfolded Grammar.parens_unfolded hp _ 0 5).2 4 2 a a' ha ha'⟩

end PegTrace
