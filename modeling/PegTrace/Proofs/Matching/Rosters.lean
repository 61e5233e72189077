import PegTrace.Proofs.Matching.Unfolding
import PegTrace.Proofs.Record.Preorder
import PegTrace.Record.Edit

/-!
# The rosters that matches leave

Matchers make rosters by adding items only, and the ways to reshape records keep them so: every record that is left has
rosters which were made by adding items (`run_pushed`). It follows that the flat list of a walk is enough to know what a
match or a failed attempt has left (`run_record_eq_iff_walk_eq`). To be pushed is a likeness of records with themselves,
and so it needs no induction over the operators of its own.
-/

namespace PegTrace

namespace Record

/-! ### Likeness -/

/-- The records are one and the same, and its rosters were made by adding items. -/
def SamePushed (r s : Record) : Prop :=
  r = s ∧ r.Pushed

lemma forall_pushed_of_forall₂ {items items' : List Record} (h : List.Forall₂ SamePushed items items') :
    items = items' ∧ ∀ r ∈ items, r.Pushed := by
  obtain rfl := eq_of_forall₂ h fun _ _ hr => hr.1
  exact ⟨rfl, fun r hr => (List.forall₂_same.1 h r hr).2⟩

lemma forall_pushed_of_keyedRel {items items' : List (Keyed Record)}
    (h : List.Forall₂ (Keyed.Rel Eq SamePushed) items items') :
    items = items' ∧ ∀ item ∈ items, item.value.Pushed := by
  obtain rfl := eq_of_forall₂ h fun _ _ hitem => Keyed.Rel.eq ⟨hitem.key, hitem.value.1⟩
  exact ⟨rfl, fun item hitem => (List.forall₂_same.1 h item hitem).value.2⟩

lemma likeness_samePushed : Likeness Eq Eq SamePushed where
  le_iff_le hi hj := by rw [hi, hj]
  key_none := rfl
  stop h := by rw [h.1]
  reach h := by rw [h.1]
  span he := ⟨by rw [he.eq], .span _⟩
  pair he h₁ h₂ := ⟨by rw [he.eq, h₁.1, h₂.1], .pair h₁.2 h₂.2⟩
  choice he hk hc := by
    obtain rfl := he.eq
    subst hk
    cases hc with
    | none => exact ⟨rfl, .choice nofun⟩
    | some h =>
      obtain ⟨rfl, hr⟩ := h
      refine ⟨rfl, .choice ?_⟩
      rintro r ⟨⟩
      exact hr
  all he h := by
    obtain rfl := he.eq
    obtain ⟨rfl, hitems⟩ := forall_pushed_of_keyedRel h
    -- a roster built at once is one built by adding its items
    rw [Roster.ofList_eq_foldl_push]
    exact ⟨rfl, .all hitems⟩
  series he h := by
    obtain rfl := he.eq
    obtain ⟨rfl, hitems⟩ := forall_pushed_of_forall₂ h
    exact ⟨rfl, .series hitems⟩

/-! ### Edits -/

/-- The edit makes no rosters but by adding items. -/
def KeepsPushed (edit : Record → Record) : Prop :=
  ∀ ⦃r : Record⦄, r.Pushed → (edit r).Pushed

lemma keepsPushed_flattened : KeepsPushed flattened :=
  fun _ _ => .span _

lemma keepsPushed_emptied : KeepsPushed emptied :=
  fun _ _ => .span _

lemma keepsPushed_wrapped : KeepsPushed wrapped :=
  fun _ h => .series (List.forall_mem_singleton.2 h)

lemma keepsPushed_moved (start stop reach : Int) : KeepsPushed (moved start stop reach) := by
  intro r h
  cases h with
  | span e => exact .span _
  | pair h₁ h₂ => exact .pair h₁ h₂
  | choice h => exact .choice h
  | all h => exact .all h
  | series h => exact .series h

lemma keepsPushed_part (index : Nat) : KeepsPushed (part index) := by
  intro r h
  unfold part
  split
  · rename_i c hc
    exact h.of_mem_children (List.mem_of_getElem? hc)
  · exact h

end Record

/-! ### Runs -/

variable {α : Type} [DecidableEq α] [LE α] [DecidableLE α]

lemma coupling_samePushed (input : Array α) : Coupling input input Record.KeepsPushed Eq Eq Record.SamePushed where
  toLikeness := Record.likeness_samePushed
  literal test := by
    rintro start _ bound _ a rfl rfl h
    refine ⟨a, h, rfl, rfl, ?_⟩
    simp only [Matcher.literal] at h
    split at h
    · cases h
      exact .span _
    · cases h
      exact .span _
  custom he r r' h := ⟨by rw [h.1], he h.2⟩

/-- Every record that an attempt leaves has rosters which were made by adding items. -/
theorem run_pushed {g : Grammar α} (hg : g.AllEdits Record.KeepsPushed) {p : Pattern α}
    (hp : p.AllEdits Record.KeepsPushed) {input : Array α} {steps start bound : Nat} {a : Attempt}
    (h : g.run input steps p start bound = some a) : a.record.Pushed := by
  obtain ⟨_, _, halike⟩ := (coupling_samePushed input).run_followed_self (fun _ => rfl) hg hp steps rfl rfl h
  exact halike.record.2

/-- Two attempts, of whatever patterns on whatever inputs, have left the same record if walks through what they left
show the same. -/
theorem run_record_eq_iff_walk_eq {g g' : Grammar α} (hg : g.AllEdits Record.KeepsPushed)
    (hg' : g'.AllEdits Record.KeepsPushed) {p p' : Pattern α} (hp : p.AllEdits Record.KeepsPushed)
    (hp' : p'.AllEdits Record.KeepsPushed) {input input' : Array α} {steps steps' start start' bound bound' : Nat}
    {a a' : Attempt} (h : g.run input steps p start bound = some a)
    (h' : g'.run input' steps' p' start' bound' = some a') :
    a.record = a'.record ↔ a.record.walk = a'.record.walk :=
  ⟨congrArg Record.walk, (run_pushed hg hp h).eq_of_walk_eq (run_pushed hg' hp' h')⟩

end PegTrace
