import Mathlib.Logic.Relation
import PegTrace.Proofs.Matching.Framing
import PegTrace.Proofs.Matching.Lockstep

/-!
# What matching does not depend on

Keys and the shape of records have no influence on matching. Parts of a pattern may be wrapped so that they keep no
parts in their records, or so that their records are edited without moving a stop or a reach, and items may be given
other keys, at any places of a pattern and of the bodies of its holes, and as often as one likes: whether an attempt
succeeds, where it stops and how far it reaches stays the same (`run_ends_eq_of_redressed`).
-/

namespace PegTrace

/-! ### Ends -/

/-- The records stop at the same place and reach equally far. -/
structure Record.SameEnds (r r' : Record) : Prop where
  stop : r.stop = r'.stop
  reach : r.reach = r'.reach

/-- The edit moves neither the stop nor the reach of a record. -/
def Record.KeepsEnds (edit : Record → Record) : Prop :=
  ∀ r : Record, r.SameEnds (edit r)

/-- Whether the attempt succeeded, where it stopped and how far it reached. -/
def Attempt.ends (a : Attempt) : Bool × Nat × Nat :=
  (a.success, a.record.stop, a.record.reach)

namespace Record.SameEnds

variable {r r' r'' : Record}

lemma refl (r : Record) : r.SameEnds r := ⟨rfl, rfl⟩

lemma symm (h : r.SameEnds r') : r'.SameEnds r := ⟨h.stop.symm, h.reach.symm⟩

lemma trans (h : r.SameEnds r') (h' : r'.SameEnds r'') : r.SameEnds r'' :=
  ⟨h.stop.trans h'.stop, h.reach.trans h'.reach⟩

end Record.SameEnds

lemma likeness_sameEnds : Likeness Eq (fun _ _ => True) Record.SameEnds where
  le_iff_le hi hj := by rw [hi, hj]
  key_none := trivial
  stop h := h.stop
  reach h := h.reach
  span he := ⟨he.stop, he.reach⟩
  pair he _ _ := ⟨he.stop, he.reach⟩
  choice he _ _ := ⟨he.stop, he.reach⟩
  all he _ := ⟨he.stop, he.reach⟩
  series he _ := ⟨he.stop, he.reach⟩

namespace Matcher

variable {m m' : Matcher} {edit : Record → Record}

/-- Collapsing or editing what follows keeps the ends. -/
lemma FollowedBy.collapse_right (h : m.FollowedBy Eq Record.SameEnds m') :
    m.FollowedBy Eq Record.SameEnds (collapse m') := by
  intro start start' bound bound' a hstart hbound ha
  obtain ⟨a', ha', halike⟩ := h hstart hbound ha
  rw [collapse, ha']
  exact ⟨_, rfl, halike.success, halike.record.stop, halike.record.reach⟩

lemma FollowedBy.custom_right (h : m.FollowedBy Eq Record.SameEnds m') (hedit : Record.KeepsEnds edit) :
    m.FollowedBy Eq Record.SameEnds (custom m' edit) := by
  intro start start' bound bound' a hstart hbound ha
  obtain ⟨a', ha', halike⟩ := h hstart hbound ha
  rw [custom, ha']
  exact ⟨_, rfl, halike.success, halike.record.trans (hedit _)⟩

lemma FollowedBy.collapse_left (h : m.FollowedBy Eq Record.SameEnds m') :
    (collapse m).FollowedBy Eq Record.SameEnds m' := by
  intro start start' bound bound' a hstart hbound ha
  obtain ⟨b, hb, ha⟩ := Option.bind_eq_some_iff.1 ha
  cases ha
  obtain ⟨b', hb', halike⟩ := h hstart hbound hb
  exact ⟨b', hb', halike.success, halike.record.stop, halike.record.reach⟩

lemma FollowedBy.custom_left (h : m.FollowedBy Eq Record.SameEnds m') (hedit : Record.KeepsEnds edit) :
    (custom m edit).FollowedBy Eq Record.SameEnds m' := by
  intro start start' bound bound' a hstart hbound ha
  obtain ⟨b, hb, ha⟩ := Option.bind_eq_some_iff.1 ha
  cases ha
  obtain ⟨b', hb', halike⟩ := h hstart hbound hb
  exact ⟨b', hb', halike.success, (hedit _).symm.trans halike.record⟩

/-- Matchers that follow each other give the same answers, up to what is not told of ends. -/
lemma map_ends_eq (h : m.FollowedBy Eq Record.SameEnds m') (h' : m'.FollowedBy Eq Record.SameEnds m)
    (start bound : Nat) : (m start bound).map Attempt.ends = (m' start bound).map Attempt.ends := by
  cases ha : m start bound with
  | some a =>
    obtain ⟨a', ha', halike⟩ := h rfl rfl ha
    simp [ha', Attempt.ends, halike.success, halike.record.stop, halike.record.reach]
  | none =>
    cases ha' : m' start bound with
    | none => rfl
    | some a' =>
      obtain ⟨a, hsome, _⟩ := h' rfl rfl ha'
      rw [ha] at hsome
      cases hsome

end Matcher

/-! ### Wrappers and keys -/

variable {α : Type}

/-- The second pattern is the first with a wrapper around it that keeps the ends. The edits that are wrapped are of the
same sort. -/
inductive Pattern.Wrapped : Pattern α → Pattern α → Prop
  | collapse {p : Pattern α} (hp : p.AllEdits Record.KeepsEnds) : Wrapped p (.collapse p)
  | custom {p : Pattern α} {edit : Record → Record} (he : Record.KeepsEnds edit) (hp : p.AllEdits Record.KeepsEnds) :
      Wrapped p (.custom p edit)

/-- The second pattern, with the grammar for its holes, is the first with wrappers around some parts and with other keys
for some items, in the pattern and in the bodies. -/
structure Redressed (s s' : Grammar α × Pattern α) : Prop where
  bodies : s.1.Revised Record.KeepsEnds (fun _ _ => True) Pattern.Wrapped s'.1
  pattern : s.2.Revised Record.KeepsEnds (fun _ _ => True) Pattern.Wrapped s'.2

variable [DecidableEq α] [LE α] [DecidableLE α]

lemma coupling_sameEnds (input : Array α) :
    Coupling input input Record.KeepsEnds Eq (fun _ _ => True) Record.SameEnds where
  toLikeness := likeness_sameEnds
  literal _ := Matcher.followedBy_refl .refl _
  custom he _ _ h := (he _).symm.trans (h.trans (he _))

namespace Redressed

variable {s s' : Grammar α × Pattern α}

lemma run_followed (h : Redressed s s') (input : Array α) (steps : Nat) :
    (s.1.run input steps s.2).FollowedBy Eq Record.SameEnds (s'.1.run input steps s'.2) := by
  refine (coupling_sameEnds input).run_followed h.bodies Nat.le_refl Nat.lt_succ_self ?_ h.pattern steps
  intro steps hh p p' hwrapped
  have hself : p.AllEdits Record.KeepsEnds → _ :=
    (coupling_sameEnds input).matcher_followed_self (fun _ => trivial) (Nat.le_refl steps) hh
  cases hwrapped with
  | collapse hp => exact (hself hp).collapse_right
  | custom he hp => exact (hself hp).custom_right he

lemma run_followed_back (h : Redressed s s') (input : Array α) (steps : Nat) :
    (s'.1.run input steps s'.2).FollowedBy Eq Record.SameEnds (s.1.run input steps s.2) := by
  refine (coupling_sameEnds input).run_followed h.bodies.flip Nat.le_refl Nat.lt_succ_self ?_ h.pattern.flip steps
  intro steps hh p p' hwrapped
  have hself : p'.AllEdits Record.KeepsEnds → _ :=
    (coupling_sameEnds input).matcher_followed_self (fun _ => trivial) (Nat.le_refl steps) hh
  cases hwrapped with
  | collapse hp => exact (hself hp).collapse_left
  | custom he hp => exact (hself hp).custom_left he

end Redressed

/-- Wrappers that keep the ends, put anywhere and any number of times, and other keys for items change neither whether
there is an answer nor whether the attempt succeeds, where it stops and how far it reaches. -/
theorem run_ends_eq_of_redressed {g g' : Grammar α} {p p' : Pattern α}
    (h : Relation.ReflTransGen Redressed (g, p) (g', p')) (input : Array α) (steps start bound : Nat) :
    (g.run input steps p start bound).map Attempt.ends = (g'.run input steps p' start bound).map Attempt.ends := by
  have hall : ∀ s : Grammar α × Pattern α, Relation.ReflTransGen Redressed (g, p) s →
      (g.run input steps p start bound).map Attempt.ends = (s.1.run input steps s.2 start bound).map Attempt.ends := by
    intro s hs
    induction hs with
    | refl => rfl
    | tail _ hstep ih =>
      rw [ih]
      exact Matcher.map_ends_eq (hstep.run_followed input steps) (hstep.run_followed_back input steps) start bound
  exact hall (g', p') h

lemma Record.keepsEnds_flattened : KeepsEnds flattened := fun _ => ⟨rfl, rfl⟩

/-- The body of the parentheses, with an edit around the parentheses inside. -/
lemma Grammar.parens_revised :
    parens.Revised Record.KeepsEnds (fun _ _ => True) Pattern.Wrapped nestedParens := by
  intro id
  match id with
  | 0 =>
    have hinner : Pattern.Revised Record.KeepsEnds (fun _ _ => True) Pattern.Wrapped (.hole 0 : Pattern Char)
        (.custom (.hole 0) Record.flattened) := .change (.custom Record.keepsEnds_flattened (.hole 0))
    have hconcat := @Pattern.Revised.concat Char Record.KeepsEnds (fun _ _ => True) Pattern.Wrapped
      [(.plain (.one '('), .plain (.one '(')),
        (.named "inner" (.hole 0), .named "inner" (.custom (.hole 0) Record.flattened)),
        (.plain (.one ')'), .plain (.one ')'))] (by simp)
      (by simpa [Keyed.plain, Keyed.named, Pattern.one] using ⟨.literal _, hinner, .literal _⟩)
    exact .some (@Pattern.Revised.choice Char Record.KeepsEnds (fun _ _ => True) Pattern.Wrapped
      [(.plain _, .plain _), (.plain .empty, .plain .empty)] (by simp)
      (by simpa [Keyed.plain] using ⟨hconcat, .empty⟩))
  | id + 1 => simp [body?, parens, nestedParens]

/-- First a key is dropped, then the whole is collapsed and the parentheses inside are edited. The last parenthesis is
missing, and the place where it was looked for is told all the same. -/
theorem parens_ends_eq :
    Relation.ReflTransGen Redressed (Grammar.parens, .concat [.named "outer" (.hole 0)])
      (nestedParens, .collapse (.concat [.plain (.hole 0)])) ∧
    (nestedParens.run #['(', '(', ')', 'x'] 4 (.collapse (.concat [.plain (.hole 0)])) 0 4).map Attempt.ends =
      some (true, 0, 4) := by
  have hrekeyed : Redressed (Grammar.parens, .concat [.named "outer" (.hole 0)])
      (Grammar.parens, .concat [.plain (.hole 0)]) := by
    refine ⟨fun id => ?_, ?_⟩
    · cases hbody : Grammar.parens.body? id with
      | none => exact .none
      | some body =>
        have hedits : body.AllEdits Record.KeepsEnds := (Grammar.editFree_parens hbody).mono fun _ => False.elim
        exact .some (hedits.revised fun _ => trivial)
    · exact @Pattern.Revised.concat Char Record.KeepsEnds (fun _ _ => True) Pattern.Wrapped
        [(.named "outer" (.hole 0), .plain (.hole 0))] (by simp)
        (by simpa [Keyed.plain, Keyed.named] using .hole 0)
  have hwrapped : Redressed (Grammar.parens, .concat [.plain (.hole 0)])
      (nestedParens, .collapse (.concat [.plain (.hole 0)])) :=
    ⟨Grammar.parens_revised, .change (.collapse (by simp [Keyed.plain]))⟩
  have hmany := Relation.ReflTransGen.tail (.single hrekeyed) hwrapped
  refine ⟨hmany, ?_⟩
  rw [← run_ends_eq_of_redressed hmany]
  decide +kernel

end PegTrace
