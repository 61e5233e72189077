import PegTrace.Proofs.Matching.Framing
import PegTrace.Proofs.Matching.Replay

/-!
# What an attempt depends on

An attempt depends on no character at or beyond its reach: on an input that agrees with the given one from the start up
to the reach, the same pattern comes to the same attempt with the same bound. If the reach stays short of the bound,
the attempt never asked where the input ends, and the bound may be any place from the reach on (`run_eq_of_agree`).
-/

namespace PegTrace

variable {α : Type}

/-- The inputs `x` and `y` agree on all that the attempt looked at, and the bound for `y` is that for `x` unless the
attempt stayed short of both. -/
structure Agree (x y : Array α) (bound bound' : Nat) (a : Attempt) : Prop where
  same : ∀ place, a.record.start ≤ place → place < a.record.reach → x[place]? = y[place]?
  start_le : a.record.start ≤ bound
  bound_le : bound ≤ x.size
  bound_le' : bound' ≤ y.size
  bounds : bound' = bound ∨ a.record.reach < bound ∧ a.record.reach ≤ bound'

namespace Agree

variable {x y : Array α} {start bound bound' : Nat} {a b : Attempt}

/-- An attempt that starts later and reaches less far depends on less. -/
lemma narrow (h : Agree x y bound bound' a) (hstart : a.record.start ≤ b.record.start)
    (hbound : b.record.start ≤ bound) (hreach : b.record.reach ≤ a.record.reach) :
    Agree x y bound bound' b where
  same place h₁ h₂ := h.same place (hstart.trans h₁) (h₂.trans_le hreach)
  start_le := hbound
  bound_le := h.bound_le
  bound_le' := h.bound_le'
  bounds := h.bounds.imp_right fun hlt => ⟨hreach.trans_lt hlt.1, hreach.trans hlt.2⟩

/-- A framed attempt stops within both bounds, so its stop can be the bound on either input. -/
lemma stop_le (h : Agree x y bound bound' a) (ha : Framing x.size start bound a) :
    a.stop ≤ bound ∧ a.stop ≤ bound' := by
  have hreach : a.record.reach ≤ bound :=
    ha.reach_le.trans (Nat.max_le.2 ⟨ha.start_eq ▸ h.start_le, Nat.min_le_left _ _⟩)
  refine ⟨ha.stop_le_reach.trans hreach, ?_⟩
  rcases h.bounds with heq | hlt
  · rw [heq]
    exact ha.stop_le_reach.trans hreach
  · exact ha.stop_le_reach.trans hlt.2

end Agree

variable [DecidableEq α] [LE α] [DecidableLE α]

/-- A single character that was read is read again; that there was none is found again with the same bound only. -/
lemma literal_replays (x y : Array α) (test : CharTest α) :
    (Matcher.literal x test).Replays (Agree x y) (Matcher.literal y test) := by
  intro start bound bound' a h ha
  simp only [Matcher.literal, Matcher.charAt?] at h ⊢
  by_cases hlt : start < bound
  · have hsize : start < x.size := hlt.trans_le ha.bound_le
    rw [if_pos hlt, Array.getElem?_eq_getElem hsize] at h
    cases h
    -- the attempt reaches past the start, so the other bound lies past the start too
    have hlt' : start < bound' := by
      rcases ha.bounds with heq | hreach
      · rwa [heq]
      · exact hreach.2
    have hchar : x[start]? = y[start]? := ha.same start (Nat.le_refl _) (Nat.lt_succ_self _)
    rw [if_pos hlt', ← hchar, Array.getElem?_eq_getElem hsize]
  · rw [if_neg hlt] at h
    cases h
    -- a failure at the bound does not stay short of it, so the bounds are the same
    have heq : bound' = bound := ha.bounds.resolve_right fun hreach => hlt hreach.1
    rw [heq, if_neg hlt]

lemma licence_of_agree (x y : Array α) :
    Licence x y (fun _ => False) (Framing x.size) (Agree x y) where
  heritable := {
    heritable_framing x with
    custom := fun he => he.elim }
  literal := literal_replays x y
  part hc ha hL hb := by
    obtain ⟨s, hs, hframed⟩ := hc.framed_of_start _ hb
    refine hL.narrow ?_ ?_ (ha.reach_le_of_mem hb)
    · rw [ha.start_eq, hframed.start_eq]
      exact hs
    · -- a part starts within its frame, which ends at the bound
      have hlimit := hframed.stop_le_reach.trans hframed.reach_le
      rw [hframed.start_eq]
      refine (hframed.start_le_stop.trans hlimit).trans (Nat.max_le.2 ⟨?_, Nat.min_le_left _ _⟩)
      rw [← ha.start_eq]
      exact hL.start_le
  inner hc ha hL hb hI := by
    have hwhole := (heritable_framing x).assembled hc ha
    have hstop := hL.stop_le hwhole
    exact {
      same := fun place h₁ h₂ =>
        hL.same place (by rwa [ha.start_eq, ← hI.start_eq]) (h₂.trans_le (ha.reach_le_of_mem hb))
      start_le := hI.start_eq.trans_le hwhole.start_le_stop
      bound_le := hstop.1.trans hL.bound_le
      bound_le' := hstop.2.trans hL.bound_le'
      bounds := .inl rfl }
  collapse hI hL := hL.narrow hI.start_eq.ge (hI.start_eq.trans_le hL.start_le) (Nat.le_refl _)
  custom he := he.elim

/-- On an input that agrees with `x` from the start up to the reach of an attempt, the attempt is made again: with the
same bound in any case, and with any bound from the reach on if the reach stayed short of the bound. -/
theorem run_eq_of_agree {g : Grammar α} {p : Pattern α} {x : Array α} {steps start bound : Nat}
    {a : Attempt} (hg : g.EditFree) (hp : p.EditFree) (hstart : start ≤ bound) (hbound : bound ≤ x.size)
    (h : g.run x steps p start bound = some a) :
    (∀ y : Array α, bound ≤ y.size →
      (∀ place, start ≤ place → place < a.record.reach → x[place]? = y[place]?) →
      g.run y steps p start bound = some a) ∧
    (a.record.reach < bound → ∀ (y : Array α) (bound' : Nat), a.record.reach ≤ bound' → bound' ≤ y.size →
      (∀ place, start ≤ place → place < a.record.reach → x[place]? = y[place]?) →
      g.run y steps p start bound' = some a) := by
  have hrecord : a.record.start = start := (hg.run_framing hp x steps h).start_eq
  refine ⟨fun y hy hsame => ?_, fun hreach y bound' hreach' hy hsame => ?_⟩
  · refine (licence_of_agree x y).run_replays hg hp (Nat.le_refl steps) h ?_
    exact ⟨by rwa [hrecord], by rwa [hrecord], hbound, hy, .inl rfl⟩
  · refine (licence_of_agree x y).run_replays hg hp (Nat.le_refl steps) h ?_
    exact ⟨by rwa [hrecord], by rwa [hrecord], hbound, hy, .inr ⟨hreach, hreach'⟩⟩

/-- What follows a closed pair of parentheses may be changed and cut off. -/
theorem parens_eq_of_agree :
    ∃ a, Grammar.parens.run #['(', ')', 'x', 'y'] 3 (.hole 0) 0 4 = some a ∧ a.record.reach = 2 ∧
      Grammar.parens.run #['(', ')', 'z', '('] 3 (.hole 0) 0 4 = some a ∧
      Grammar.parens.run #['(', ')'] 3 (.hole 0) 0 2 = some a := by
  have hrun : (Grammar.parens.run #['(', ')', 'x', 'y'] 3 (.hole 0) 0 4).any
      (·.record.reach = 2) := by decide +kernel
  obtain ⟨a, ha, hreach⟩ := (Option.any_eq_true _ _).1 hrun
  have hreach := of_decide_eq_true hreach
  have hmain := run_eq_of_agree Grammar.editFree_parens (.hole 0) (by decide) (by decide) ha
  refine ⟨a, ha, hreach, hmain.1 _ (by decide) ?_, hmain.2 (by omega) _ 2 hreach.le (by decide) ?_⟩
  all_goals
    intro place _ hplace
    have hcases : place = 0 ∨ place = 1 := by omega
    rcases hcases with rfl | rfl <;> rfl

end PegTrace
