import PegTrace.Proofs.Matching.Framing
import PegTrace.Proofs.Matching.Lockstep
import PegTrace.Proofs.Record.Shifted

/-!
# Matching within a window

A pattern looks at no character before its start and at none from its bound on, and at no place as such. So matching in
a window of an input is matching in the whole, with all places moved on by where the window begins: the one gives an
answer if and only if the other does, both succeed or both fail, and the record of the one is the record of the other,
shifted (`run_window_shifted`). The argument has two steps: characters at the bound or beyond it do not count
(`run_eq_of_agreeBelow`), and what is left over when a beginning is dropped is matched in lockstep with the whole
(`run_rel_shifted`).
-/

namespace PegTrace

variable {α : Type}

/-! ### Places moved on -/

lemma Extent.Rel.eq_shifted {low : Nat} {e e' : Extent} (h : e.Rel (fun i i' => i' = low + i) e') :
    e' = e.shifted low := by
  obtain ⟨start, stop, reach⟩ := e
  obtain ⟨start', stop', reach'⟩ := e'
  obtain ⟨rfl, rfl, rfl⟩ := h
  rfl

/-- Records are alike if one is the other, shifted. -/
lemma likeness_shifted (low : Nat) :
    Likeness (fun i i' => i' = low + i) Eq fun r r' => r' = r.shifted low where
  le_iff_le := by
    rintro i _ j _ rfl rfl
    exact (Nat.add_le_add_iff_left).symm
  key_none := rfl
  stop h := by rw [h, Record.stop_shifted]
  reach h := by rw [h, Record.reach_shifted]
  span he := by rw [he.eq_shifted, Record.shifted]
  pair he h₁ h₂ := by rw [he.eq_shifted, h₁, h₂, Record.shifted]
  choice he hk hc := by
    rw [he.eq_shifted, ← hk, Record.shifted]
    cases hc with
    | none => rfl
    | some h => rw [h, Record.shiftedOption]
  all he h := by
    rename_i items items'
    -- item by item the shifted records are the others, under the same keys
    have hitems : items.map (·.map (Record.shifted low)) = items'.map id :=
      map_eq_map_of_forall₂ h fun item item' hitem => by
        rw [Keyed.map, hitem.key, ← hitem.value, id]
    rw [List.map_id] at hitems
    rw [he.eq_shifted, Record.shifted_all_ofList, hitems]
  series he h := by
    rename_i items items'
    have hitems : items.map (Record.shifted low) = items'.map id :=
      map_eq_map_of_forall₂ h fun item item' hitem => hitem.symm
    rw [List.map_id] at hitems
    rw [he.eq_shifted, Record.shifted, Record.shiftedList_eq_map, hitems]

/-- Every record that is met on a walk is about the same characters in the window as, shifted, in the whole. -/
lemma symbols_window {input : Array α} {low high start bound : Nat} {a : Attempt} (hbound : low + bound ≤ high)
    (ha : Framing (input.extract low high).size start bound a) {v : Visit} (hv : v ∈ a.record.visits) :
    v.record.symbols (input.extract low high) = (v.record.shifted low).symbols input := by
  have hwithin := ha.within v.node (List.mem_map_of_mem hv)
  have hreach := ha.reach_le
  have hstop : low + v.record.stop ≤ high ∨ v.record.stop ≤ v.record.start := by
    have h₁ : start ≤ v.record.start := hwithin.low_le_start
    have h₂ : v.record.stop ≤ a.record.reach := hwithin.stop_le_reach.trans hwithin.reach_le_high
    omega
  rw [Record.symbols, Record.symbols, slice_window input hstop]
  simp [Record.start, Record.stop, Extent.shifted]

/-! ### What lies beyond the bound -/

/-- The inputs `x` and `y` agree from the start of the attempt up to its bound, which is the same for both. -/
structure AgreeBelow (x y : Array α) (bound bound' : Nat) (a : Attempt) : Prop where
  bound_eq : bound' = bound
  same : ∀ place, a.record.start ≤ place → place < bound → x[place]? = y[place]?

/-- An attempt that starts later, with a bound that lies no farther, depends on less. -/
lemma AgreeBelow.narrow {x y : Array α} {bound bound' bound'' : Nat} {a b : Attempt} (h : AgreeBelow x y bound bound' a)
    (hstart : a.record.start ≤ b.record.start)
    (hbound : ∀ place, b.record.start ≤ place → place < bound'' → place < bound) :
    AgreeBelow x y bound'' bound'' b where
  bound_eq := rfl
  same place h₁ h₂ := h.same place (hstart.trans h₁) (hbound place h₁ h₂)

variable [DecidableEq α] [LE α] [DecidableLE α]

lemma licence_of_agreeBelow (x y : Array α) :
    Licence x y (fun _ => False) (Framing x.size) (AgreeBelow x y) where
  heritable := {
    heritable_framing x with
    custom := fun he => he.elim }
  literal test := by
    intro start bound bound' a h ha
    obtain rfl := ha.bound_eq
    have hstart : a.record.start = start := ((heritable_framing x).literal test h).start_eq
    have hchar : Matcher.charAt? x start bound' = Matcher.charAt? y start bound' := by
      unfold Matcher.charAt?
      split
      · rename_i hlt
        exact ha.same start hstart.le hlt
      · rfl
    rw [← h, Matcher.literal, Matcher.literal, hchar]
  part hc ha hL hb := by
    obtain ⟨s, hs, hframed⟩ := hc.framed_of_start _ hb
    obtain rfl := hL.bound_eq
    refine hL.narrow ?_ fun place _ hlt => hlt
    rw [ha.start_eq, hframed.start_eq]
    exact hs
  inner hc ha hL hb hI := by
    -- the stop of the whole lies beyond the bound only where the whole starts beyond it
    have hwhole := (heritable_framing x).assembled hc ha
    have hstop := hwhole.stop_le_reach.trans hwhole.reach_le
    refine hL.narrow (by rw [ha.start_eq, hI.start_eq]) fun place hplace hlt => ?_
    rw [hI.start_eq] at hplace
    have : place < _ := lt_of_lt_of_le hlt hstop
    omega
  collapse hI hL := ⟨hL.bound_eq, fun place h₁ h₂ => hL.same place (hI.start_eq.ge.trans h₁) h₂⟩
  custom he := he.elim

/-- What stands at the bound or beyond it makes no difference. -/
lemma run_eq_of_agreeBelow {g : Grammar α} {p : Pattern α} (hg : g.EditFree) (hp : p.EditFree) {x y : Array α}
    {bound : Nat} (h : ∀ place, place < bound → x[place]? = y[place]?) (steps start : Nat) :
    g.run x steps p start bound = g.run y steps p start bound := by
  have hreplays : ∀ {x y : Array α}, (∀ place, place < bound → x[place]? = y[place]?) → ∀ a,
      g.run x steps p start bound = some a → g.run y steps p start bound = some a := by
    intro x y h a ha
    exact (licence_of_agreeBelow x y).run_replays hg hp (Nat.le_refl steps) ha ⟨rfl, fun place _ hlt => h place hlt⟩
  ext a
  exact ⟨hreplays h a, hreplays (fun place hlt => (h place hlt).symm) a⟩

/-! ### What is left over when a beginning is dropped -/

section Dropped

-- `w` is what is left over when the first `low` characters of `x` are dropped
variable {x w : Array α} {low : Nat} (hw : ∀ place, w[place]? = x[low + place]?)

include hw

/-- A single character is read or missed alike. -/
lemma literal_shifted (test : CharTest α) (start bound : Nat) :
    ∃ a a', Matcher.literal w test start bound = some a ∧
      Matcher.literal x test (low + start) (low + bound) = some a' ∧ a.Alike (fun r r' => r' = r.shifted low) a' := by
  have hchar : Matcher.charAt? x (low + start) (low + bound) = Matcher.charAt? w start bound := by
    simp only [Matcher.charAt?, hw, Nat.add_lt_add_iff_left]
  rw [Matcher.literal, Matcher.literal, hchar]
  cases Matcher.charAt? w start bound with
  | none => exact ⟨_, _, rfl, rfl, rfl, rfl⟩
  | some c => exact ⟨_, _, rfl, rfl, rfl, rfl⟩

lemma coupling_shifted :
    Coupling w x (fun _ => False) (fun i i' => i' = low + i) Eq fun r r' => r' = r.shifted low where
  toLikeness := likeness_shifted low
  literal test := by
    rintro start _ bound _ b rfl rfl hb
    obtain ⟨a, a', ha, ha', halike⟩ := literal_shifted hw test start bound
    obtain rfl : a = b := Option.some.inj (ha.symm.trans hb)
    exact ⟨a', ha', halike⟩
  custom he := he.elim

lemma coupling_shifted_flip : Coupling x w (fun _ => False) (flip fun i i' => i' = low + i) (flip Eq)
    (flip fun r r' => r' = r.shifted low) where
  toLikeness := (likeness_shifted low).flip
  literal test := by
    rintro _ start _ bound b rfl rfl hb
    obtain ⟨a, a', ha, ha', halike⟩ := literal_shifted hw test start bound
    obtain rfl : a' = b := Option.some.inj (ha'.symm.trans hb)
    exact ⟨a, ha, halike.success.symm, halike.record⟩
  custom he := he.elim

/-- What is left over is matched as it is in the whole. -/
lemma run_rel_shifted {g : Grammar α} {p : Pattern α} (hg : g.EditFree) (hp : p.EditFree) (steps start bound : Nat) :
    Option.Rel (Attempt.Alike fun r r' => r' = r.shifted low) (g.run w steps p start bound)
      (g.run x steps p (low + start) (low + bound)) := by
  cases ha : g.run w steps p start bound with
  | some a =>
    obtain ⟨a', ha', halike⟩ := (coupling_shifted hw).run_followed_self (fun _ => rfl) hg hp steps rfl rfl ha
    rw [ha']
    exact .some halike
  | none =>
    cases ha' : g.run x steps p (low + start) (low + bound) with
    | none => exact .none
    | some a' =>
      obtain ⟨a, hsome, _⟩ :=
        (coupling_shifted_flip hw).run_followed_self (fun _ => rfl) hg hp steps rfl rfl ha'
      rw [ha] at hsome
      cases hsome

end Dropped

/-! ### Windows -/

/-- With the same steps, the run in the window and the run in the whole come to attempts that are alike, or to none. -/
lemma run_rel_window {g : Grammar α} {p : Pattern α} (hg : g.EditFree) (hp : p.EditFree) {input : Array α}
    {low high : Nat} (hhigh : high ≤ input.size) (start : Nat) {bound : Nat} (hbound : bound ≤ high - low)
    (steps : Nat) :
    Option.Rel (Attempt.Alike fun r r' => r' = r.shifted low) (g.run (input.extract low high) steps p start bound)
      (g.run input steps p (low + start) (low + bound)) := by
  have hdropped : ∀ place, (input.extract low input.size)[place]? = input[low + place]? := by
    intro place
    rw [Array.getElem?_extract]
    split
    · rfl
    · rw [Array.getElem?_eq_none]
      omega
  -- below the bound the end of the window is not seen, so only the shift is left to account for
  have hbelow : ∀ place, place < bound →
      (input.extract low high)[place]? = (input.extract low input.size)[place]? := by
    intro place hplace
    rw [hdropped, Array.getElem?_extract, if_pos (by omega)]
  rw [run_eq_of_agreeBelow hg hp hbelow]
  exact run_rel_shifted hdropped hg hp steps start bound

/-- Matching within a window of the input is matching in the whole: with the same steps there is an answer for both or
for neither, both attempts succeed or both fail, and the record in the whole is the record in the window with all
cursors moved on by where the window begins. The records that walks through the two meet have the same depths and keys,
one by one, and are about the same characters. -/
theorem run_window_shifted {g : Grammar α} {p : Pattern α} (hg : g.EditFree) (hp : p.EditFree) {input : Array α}
    {low high : Nat} (hlow : low ≤ high) (hhigh : high ≤ input.size) (start : Nat) {bound : Nat}
    (hbound : bound ≤ high - low) :
    (∀ steps, (g.run (input.extract low high) steps p start bound).isSome ↔
      (g.run input steps p (low + start) (low + bound)).isSome) ∧
    ∀ steps steps' a a', g.run (input.extract low high) steps p start bound = some a →
      g.run input steps' p (low + start) (low + bound) = some a' →
      a.success = a'.success ∧ a'.record = a.record.shifted low ∧
      List.Forall₂ (fun v v' => v'.depth = v.depth ∧ v'.key = v.key ∧ v'.record = v.record.shifted low ∧
        v'.record.symbols input = v.record.symbols (input.extract low high)) a.record.visits a'.record.visits := by
  have hrel := run_rel_window hg hp hhigh start hbound
  refine ⟨fun steps => ?_, fun steps steps' a a' ha ha' => ?_⟩
  · have hsteps := hrel steps
    generalize g.run (input.extract low high) steps p start bound = window at hsteps ⊢
    generalize g.run input steps p (low + start) (low + bound) = whole at hsteps ⊢
    cases hsteps with
    | none => simp
    | some _ => simp
  · have hsteps := hrel steps
    rw [ha] at hsteps
    cases hwhole : g.run input steps p (low + start) (low + bound) with
    | none =>
      rw [hwhole] at hsteps
      cases hsteps
    | some b =>
      rw [hwhole] at hsteps
      obtain rfl : a' = b := g.run_unique input p ha' hwhole
      cases hsteps with
      | some halike =>
        refine ⟨halike.success, halike.record, ?_⟩
        rw [halike.record, Record.visits_shifted, List.forall₂_map_right_iff, List.forall₂_same]
        intro v hv
        -- what is visited lies in the frame of the match, and so in the window
        refine ⟨rfl, rfl, rfl, (symbols_window ?_ (hg.run_framing hp _ steps ha) hv).symm⟩
        omega

/-- Parentheses in the middle of a text: the outer one is not closed within the window, and what lies around the window
is not looked at. -/
theorem parens_window_shifted :
    ∃ a a', Grammar.parens.run (#['(', '(', '(', ')', ')'].extract 1 4) 4 (.hole 0) 0 3 = some a ∧
      Grammar.parens.run #['(', '(', '(', ')', ')'] 4 (.hole 0) 1 4 = some a' ∧ a.record.reach = 3 ∧
      a.success = a'.success ∧ a'.record = a.record.shifted 1 ∧
      List.Forall₂ (fun v v' => v'.depth = v.depth ∧ v'.key = v.key ∧ v'.record = v.record.shifted 1 ∧
        v'.record.symbols #['(', '(', '(', ')', ')'] =
          v.record.symbols (#['(', '(', '(', ')', ')'].extract 1 4)) a.record.visits a'.record.visits := by
  have hmain := @run_window_shifted _ _ _ _ _ (.hole 0) Grammar.editFree_parens (.hole 0) #['(', '(', '(', ')', ')'] 1 4
    (by decide) (by decide) 0 3 (by decide)
  have hrun : (Grammar.parens.run (#['(', '(', '(', ')', ')'].extract 1 4) 4 (.hole 0) 0 3).any
      (·.record.reach = 3) := by decide +kernel
  obtain ⟨a, ha, hreach⟩ := (Option.any_eq_true _ _).1 hrun
  obtain ⟨a', ha'⟩ := Option.isSome_iff_exists.1 ((hmain.1 4).1 (by rw [ha]; rfl))
  exact ⟨a, a', ha, ha', of_decide_eq_true hreach, hmain.2 4 4 a a' ha ha'⟩

end PegTrace
