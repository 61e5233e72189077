import Mathlib.Data.Prod.Basic
import PegTrace.Proofs.Pattern.Edits

/-!
# Revisions of a pattern

`Pattern.Revised E K W p p'` says that `p'` is `p` with changes at any number of places: a part may be replaced by a
pattern that `W` relates to it, and the key of an item by a key that `K` relates to it. All else is kept, and the edits
that are kept satisfy `E`. A grammar is revised body by body.
-/

namespace PegTrace

variable {α : Type} {E : (Record → Record) → Prop} {K : Option Key → Option Key → Prop}
  {W : Pattern α → Pattern α → Prop}

/-- The second pattern is the first with any number of changes. The items of a pattern are listed in pairs, as they were
before and as they are after. -/
inductive Pattern.Revised (E : (Record → Record) → Prop) (K : Option Key → Option Key → Prop)
    (W : Pattern α → Pattern α → Prop) : Pattern α → Pattern α → Prop
  | change {p p' : Pattern α} (h : W p p') : Revised E K W p p'
  | empty : Revised E K W .empty .empty
  | literal (test : CharTest α) : Revised E K W (.literal test) (.literal test)
  | choice {items : List (Keyed (Pattern α) × Keyed (Pattern α))} (hk : ∀ i ∈ items, K i.1.key i.2.key)
      (h : ∀ i ∈ items, Revised E K W i.1.value i.2.value) :
      Revised E K W (.choice (items.map Prod.fst)) (.choice (items.map Prod.snd))
  | concat {items : List (Keyed (Pattern α) × Keyed (Pattern α))} (hk : ∀ i ∈ items, K i.1.key i.2.key)
      (h : ∀ i ∈ items, Revised E K W i.1.value i.2.value) :
      Revised E K W (.concat (items.map Prod.fst)) (.concat (items.map Prod.snd))
  | intersection {items : List (Keyed (Pattern α) × Keyed (Pattern α))} (hk : ∀ i ∈ items, K i.1.key i.2.key)
      (h : ∀ i ∈ items, Revised E K W i.1.value i.2.value) :
      Revised E K W (.intersection (items.map Prod.fst)) (.intersection (items.map Prod.snd))
  | difference {items : List (Keyed (Pattern α) × Keyed (Pattern α))} (exclude : Bool)
      (hk : ∀ i ∈ items, K i.1.key i.2.key) (h : ∀ i ∈ items, Revised E K W i.1.value i.2.value) :
      Revised E K W (.difference (items.map Prod.fst) exclude) (.difference (items.map Prod.snd) exclude)
  | repetition {inner inner' : Pattern α} (least : Nat) (most : Option Nat) (h : Revised E K W inner inner') :
      Revised E K W (.repetition inner least most) (.repetition inner' least most)
  | conditional {first first' second second' : Pattern α} (require : Bool) (h₁ : Revised E K W first first')
      (h₂ : Revised E K W second second') :
      Revised E K W (.conditional first second require) (.conditional first' second' require)
  | hole (id : Nat) : Revised E K W (.hole id) (.hole id)
  | collapse {inner inner' : Pattern α} (h : Revised E K W inner inner') :
      Revised E K W (.collapse inner) (.collapse inner')
  | custom {base base' : Pattern α} {edit : Record → Record} (he : E edit) (h : Revised E K W base base') :
      Revised E K W (.custom base edit) (.custom base' edit)

/-- The same holes are bound, and each body is revised. -/
def Grammar.Revised (E : (Record → Record) → Prop) (K : Option Key → Option Key → Prop)
    (W : Pattern α → Pattern α → Prop) (g g' : Grammar α) : Prop :=
  ∀ id, Option.Rel (Pattern.Revised E K W) (g.body? id) (g'.body? id)

/-! ### Nothing changed -/

lemma map_fst_diagonal {β : Type} (items : List β) : (items.map fun i => (i, i)).map Prod.fst = items := by
  simp [Function.comp_def]

lemma map_snd_diagonal {β : Type} (items : List β) : (items.map fun i => (i, i)).map Prod.snd = items := by
  simp [Function.comp_def]

/-- Every pattern is its own revision. -/
lemma Pattern.AllEdits.revised (hK : ∀ key, K key key) {p : Pattern α} (h : p.AllEdits E) : p.Revised E K W p := by
  induction h with
  | empty => exact .empty
  | literal test => exact .literal test
  | @choice items _ ih =>
    -- an unchanged list is revised pair by pair along its diagonal
    have hrevised : Revised E K W (.choice ((items.map fun i => (i, i)).map Prod.fst)) _ :=
      .choice (List.forall_mem_map.2 fun i _ => hK i.key) (List.forall_mem_map.2 ih)
    rwa [map_fst_diagonal, map_snd_diagonal] at hrevised
  | @concat items _ ih =>
    have hrevised : Revised E K W (.concat ((items.map fun i => (i, i)).map Prod.fst)) _ :=
      .concat (List.forall_mem_map.2 fun i _ => hK i.key) (List.forall_mem_map.2 ih)
    rwa [map_fst_diagonal, map_snd_diagonal] at hrevised
  | @intersection items _ ih =>
    have hrevised : Revised E K W (.intersection ((items.map fun i => (i, i)).map Prod.fst)) _ :=
      .intersection (List.forall_mem_map.2 fun i _ => hK i.key) (List.forall_mem_map.2 ih)
    rwa [map_fst_diagonal, map_snd_diagonal] at hrevised
  | @difference items exclude _ ih =>
    have hrevised : Revised E K W (.difference ((items.map fun i => (i, i)).map Prod.fst) exclude) _ :=
      .difference exclude (List.forall_mem_map.2 fun i _ => hK i.key) (List.forall_mem_map.2 ih)
    rwa [map_fst_diagonal, map_snd_diagonal] at hrevised
  | repetition least most _ ih => exact .repetition least most ih
  | conditional require _ _ ih₁ ih₂ => exact .conditional require ih₁ ih₂
  | hole id => exact .hole id
  | collapse _ ih => exact .collapse ih
  | custom he _ ih => exact .custom he ih

lemma Grammar.AllEdits.revised (hK : ∀ key, K key key) {g : Grammar α} (h : g.AllEdits E) : g.Revised E K W g := by
  intro id
  cases hbody : g.body? id with
  | none => exact .none
  | some body => exact .some ((h hbody).revised hK)

/-! ### Changes taken back -/

lemma map_fst_swap {β : Type} (items : List (β × β)) : (items.map Prod.swap).map Prod.fst = items.map Prod.snd := by
  simp [Function.comp_def]

lemma map_snd_swap {β : Type} (items : List (β × β)) : (items.map Prod.swap).map Prod.snd = items.map Prod.fst := by
  simp [Function.comp_def]

/-- A revision is taken back by the opposite changes. -/
lemma Pattern.Revised.flip {p p' : Pattern α} (h : p.Revised E K W p') : p'.Revised E (flip K) (flip W) p := by
  induction h with
  | change h => exact .change h
  | empty => exact .empty
  | literal test => exact .literal test
  | @choice items hk _ ih =>
    -- the pairs are swapped, so that the two lists change places
    rw [← map_fst_swap items, ← map_snd_swap items]
    refine .choice ?_ ?_
    · exact List.forall_mem_map.2 hk
    · exact List.forall_mem_map.2 ih
  | @concat items hk _ ih =>
    rw [← map_fst_swap items, ← map_snd_swap items]
    refine .concat ?_ ?_
    · exact List.forall_mem_map.2 hk
    · exact List.forall_mem_map.2 ih
  | @intersection items hk _ ih =>
    rw [← map_fst_swap items, ← map_snd_swap items]
    refine .intersection ?_ ?_
    · exact List.forall_mem_map.2 hk
    · exact List.forall_mem_map.2 ih
  | @difference items exclude hk _ ih =>
    rw [← map_fst_swap items, ← map_snd_swap items]
    refine .difference exclude ?_ ?_
    · exact List.forall_mem_map.2 hk
    · exact List.forall_mem_map.2 ih
  | repetition least most _ ih => exact .repetition least most ih
  | conditional require _ _ ih₁ ih₂ => exact .conditional require ih₁ ih₂
  | hole id => exact .hole id
  | collapse _ ih => exact .collapse ih
  | custom he _ ih => exact .custom he ih

lemma Grammar.Revised.flip {g g' : Grammar α} (h : g.Revised E K W g') : g'.Revised E (flip K) (flip W) g := by
  intro id
  have hid := h id
  generalize g.body? id = body at hid ⊢
  generalize g'.body? id = body' at hid ⊢
  cases hid with
  | none => exact .none
  | some hbody => exact .some hbody.flip

end PegTrace
