import Mathlib.Data.List.Forall2
import PegTrace.Proofs.Matching.Replay
import PegTrace.Proofs.Pattern.Revision

/-!
# Runs in lockstep

Two runs may differ in what their records look like and still go the same way. A likeness of records relates places,
keys and records of the one run to those of the other; it must keep places in order and hold of wholes whose parts are
alike (`Likeness`). A matcher is followed by another if what it comes to, the other comes to as well, up to the likeness
(`Matcher.FollowedBy`). There is one lemma for each operator: it is followed if its parts are. So a pattern is followed
by its revisions if its holes and the parts that were changed are (`Coupling.matcher_followed`), and so is its run under
a grammar, where the run that follows may be allowed more steps (`Coupling.run_followed`).
-/

namespace PegTrace

variable {P : Nat → Nat → Prop} {K : Option Key → Option Key → Prop} {Q : Record → Record → Prop}

/-! ### Likeness -/

/-- Items whose keys are related by `K` and whose values are related by `R`. -/
structure Keyed.Rel {β γ : Type} (K : Option Key → Option Key → Prop) (R : β → γ → Prop) (item : Keyed β)
    (item' : Keyed γ) : Prop where
  key : K item.key item'.key
  value : R item.value item'.value

/-- Extents whose cursors are related by `P`. -/
structure Extent.Rel (P : Nat → Nat → Prop) (e e' : Extent) : Prop where
  start : P e.start e'.start
  stop : P e.stop e'.stop
  reach : P e.reach e'.reach

/-- Records are alike by `Q`, which tells how far they came by places that are related by `P`. Records of the same kind
are alike if their cursors are related by `P`, their keys by `K`, and their parts are alike. -/
structure Likeness (P : Nat → Nat → Prop) (K : Option Key → Option Key → Prop) (Q : Record → Record → Prop) :
    Prop where
  le_iff_le {i i' j j' : Nat} (hi : P i i') (hj : P j j') : i ≤ j ↔ i' ≤ j'
  key_none : K none none
  stop {r r' : Record} (h : Q r r') : P r.stop r'.stop
  reach {r r' : Record} (h : Q r r') : P r.reach r'.reach
  span {e e' : Extent} (he : e.Rel P e') : Q (.span e) (.span e')
  pair {e e' : Extent} {first first' second second' : Record} (he : e.Rel P e') (h₁ : Q first first')
    (h₂ : Q second second') : Q (.pair e first second) (.pair e' first' second')
  choice {e e' : Extent} {index : Option Nat} {key key' : Option Key} {child child' : Option Record}
    (he : e.Rel P e') (hk : K key key') (hc : Option.Rel Q child child') :
    Q (.choice e index key child) (.choice e' index key' child')
  all {e e' : Extent} {items items' : List (Keyed Record)} (he : e.Rel P e')
    (h : List.Forall₂ (Keyed.Rel K Q) items items') : Q (.all e (.ofList items)) (.all e' (.ofList items'))
  series {e e' : Extent} {items items' : List Record} (he : e.Rel P e') (h : List.Forall₂ Q items items') :
    Q (.series e items) (.series e' items')

/-- Attempts that both succeed or both fail, with records that are alike. -/
structure Attempt.Alike (Q : Record → Record → Prop) (a a' : Attempt) : Prop where
  success : a.success = a'.success
  record : Q a.record a'.record

/-- What the first matcher comes to, the second comes to as well, from related places and up to the likeness. -/
def Matcher.FollowedBy (P : Nat → Nat → Prop) (Q : Record → Record → Prop) (m m' : Matcher) : Prop :=
  ∀ ⦃start start' bound bound' a⦄, P start start' → P bound bound' → m start bound = some a →
    ∃ a', m' start' bound' = some a' ∧ a.Alike Q a'

lemma Matcher.followedBy_refl (hQ : ∀ r, Q r r) (m : Matcher) : m.FollowedBy Eq Q m := by
  rintro start _ bound _ a rfl rfl h
  exact ⟨a, h, rfl, hQ a.record⟩

/-- A matcher that gives more answers follows as well. -/
lemma Matcher.FollowedBy.mono {m m' m'' : Matcher} (h : m.FollowedBy P Q m')
    (hmore : ∀ start bound a, m' start bound = some a → m'' start bound = some a) : m.FollowedBy P Q m'' := by
  intro start start' bound bound' a hstart hbound ha
  obtain ⟨a', ha', halike⟩ := h hstart hbound ha
  exact ⟨a', hmore _ _ _ ha', halike⟩

/-- Items that are followed one by one. -/
abbrev Matcher.AllFollowed (P : Nat → Nat → Prop) (K : Option Key → Option Key → Prop) (Q : Record → Record → Prop)
    (items items' : List (Keyed Matcher)) : Prop :=
  List.Forall₂ (Keyed.Rel K (FollowedBy P Q)) items items'

/-- Attempts that are alike one by one. -/
abbrev AllAlike (K : Option Key → Option Key → Prop) (Q : Record → Record → Prop)
    (tried tried' : List (Keyed Attempt)) : Prop :=
  List.Forall₂ (Keyed.Rel K (Attempt.Alike Q)) tried tried'

namespace Likeness

variable {i i' j j' start start' stop stop' reach reach' : Nat} {a a' : Attempt} {tried tried' : List (Keyed Attempt)}

lemma eq_iff_eq (hQ : Likeness P K Q) (hi : P i i') (hj : P j j') : i = j ↔ i' = j' := by
  rw [Nat.le_antisymm_iff, Nat.le_antisymm_iff, hQ.le_iff_le hi hj, hQ.le_iff_le hj hi]

/-- What is alike is alike the other way round. -/
lemma flip (hQ : Likeness P K Q) : Likeness (flip P) (flip K) (flip Q) where
  le_iff_le hi hj := (hQ.le_iff_le hi hj).symm
  key_none := hQ.key_none
  stop h := hQ.stop h
  reach h := hQ.reach h
  span he := hQ.span ⟨he.start, he.stop, he.reach⟩
  pair he h₁ h₂ := hQ.pair ⟨he.start, he.stop, he.reach⟩ h₁ h₂
  choice he hk hc := by
    refine hQ.choice ⟨he.start, he.stop, he.reach⟩ hk ?_
    cases hc with
    | none => exact .none
    | some h => exact .some h
  all he h := hQ.all ⟨he.start, he.stop, he.reach⟩ (List.Forall₂.flip (h.imp fun _ _ hc => ⟨hc.key, hc.value⟩))
  series he h := hQ.series ⟨he.start, he.stop, he.reach⟩ (List.Forall₂.flip h)

lemma max_rel (hQ : Likeness P K Q) (hi : P i i') (hj : P j j') : P (max i j) (max i' j') := by
  rcases Nat.le_total i j with hle | hle
  · have hle' : i' ≤ j' := (hQ.le_iff_le hi hj).1 hle
    rwa [Nat.max_eq_right hle, Nat.max_eq_right hle']
  · have hle' : j' ≤ i' := (hQ.le_iff_le hj hi).1 hle
    rwa [Nat.max_eq_left hle, Nat.max_eq_left hle']

lemma farthest_rel (hQ : Likeness P K Q) (hstart : P start start') {records records' : List Record}
    (h : List.Forall₂ Q records records') : P (Record.farthest start records) (Record.farthest start' records') := by
  refine List.rel_foldl ?_ hstart h
  intro reach reach' hreach r r' hr
  exact hQ.max_rel hreach (hQ.reach hr)

lemma covering_rel (hQ : Likeness P K Q) (hstart : P start start') (hstop : P stop stop') (hreach : P reach reach') :
    (Extent.covering start stop reach).Rel P (.covering start' stop' reach') :=
  ⟨hstart, hstop, hQ.max_rel hreach hstop⟩

lemma stop_rel (hQ : Likeness P K Q) (h : a.Alike Q a') : P a.stop a'.stop :=
  hQ.stop h.record

lemma covers_eq (hQ : Likeness P K Q) (h : a.Alike Q a') (hi : P i i') : a.covers i = a'.covers i' := by
  simp only [Attempt.covers, h.success, hQ.eq_iff_eq (hQ.stop_rel h) hi]

lemma reachOf_rel (hQ : Likeness P K Q) (hstart : P start start') (h : AllAlike K Q tried tried') :
    P (reachOf start tried) (reachOf start' tried') := by
  refine hQ.farthest_rel hstart ?_
  rw [List.forall₂_map_left_iff, List.forall₂_map_right_iff]
  exact h.imp fun _ _ ht => ht.value.record

end Likeness

/-! ### Lists of attempts -/

lemma forall₂_keyedRecords {tried tried' : List (Keyed Attempt)} (h : AllAlike K Q tried tried') :
    List.Forall₂ (Keyed.Rel K Q) (keyedRecords tried) (keyedRecords tried') := by
  rw [keyedRecords, keyedRecords, List.forall₂_map_left_iff, List.forall₂_map_right_iff]
  exact h.imp fun _ _ ht => ⟨ht.key, ht.value.record⟩

lemma map_eq_map_of_forall₂ {β γ δ : Type} {R : β → γ → Prop} {f : β → δ} {f' : γ → δ} {items : List β}
    {items' : List γ} (h : List.Forall₂ R items items') (hf : ∀ item item', R item item' → f item = f' item') :
    items.map f = items'.map f' := by
  rw [← List.forall₂_eq_eq_eq, List.forall₂_map_left_iff, List.forall₂_map_right_iff]
  exact h.imp hf

lemma all_eq_all_of_forall₂ {β γ : Type} {R : β → γ → Prop} {f : β → Bool} {f' : γ → Bool} {items : List β}
    {items' : List γ} (h : List.Forall₂ R items items') (hf : ∀ item item', R item item' → f item = f' item') :
    items.all f = items'.all f' := by
  have hmap := congrArg (List.all · id) (map_eq_map_of_forall₂ h hf)
  simpa only [List.all_map, Function.id_comp] using hmap

lemma head?_rel {β γ : Type} {R : β → γ → Prop} {items : List β} {items' : List γ}
    (h : List.Forall₂ R items items') : Option.Rel R items.head? items'.head? := by
  cases h with
  | nil => exact .none
  | cons hhead _ => exact .some hhead

lemma getLast?_rel {β γ : Type} {R : β → γ → Prop} {items : List β} {items' : List γ}
    (h : List.Forall₂ R items items') : Option.Rel R items.getLast? items'.getLast? := by
  rw [List.getLast?_eq_head?_reverse, List.getLast?_eq_head?_reverse]
  exact head?_rel (List.rel_reverse h)

namespace Matcher

variable {items items' : List (Keyed Matcher)} {tried : List (Keyed Attempt)} {start start' bound bound' : Nat}

lemma tryInTurn_followed (hitems : AllFollowed P K Q items items') (hstart : P start start') (hbound : P bound bound')
    (h : tryInTurn start bound items = some tried) :
    ∃ tried', tryInTurn start' bound' items' = some tried' ∧ AllAlike K Q tried tried' := by
  induction hitems generalizing tried with
  | nil =>
    cases h
    exact ⟨[], rfl, .nil⟩
  | cons hm _ ih =>
    simp only [tryInTurn, Option.bind_eq_bind, Option.bind_eq_some_iff] at h
    obtain ⟨a, ha, h⟩ := h
    obtain ⟨a', ha', halike⟩ := hm.value hstart hbound ha
    rw [tryInTurn, ha', Option.bind_eq_bind, Option.bind_some, ← halike.success]
    split at h
    · rename_i hs
      cases h
      -- the first success ends both lists here, whatever still follows in them
      exact ⟨_, if_pos hs, .cons ⟨hm.key, halike⟩ .nil⟩
    · rename_i hs
      obtain ⟨later, hlater, h⟩ := Option.bind_eq_some_iff.1 h
      cases h
      obtain ⟨later', hlater', hlike⟩ := ih hlater
      rw [if_neg hs, hlater']
      exact ⟨_, rfl, .cons ⟨hm.key, halike⟩ hlike⟩

lemma tryInSequence_followed (hQ : Likeness P K Q) (hitems : AllFollowed P K Q items items') (hstart : P start start')
    (hbound : P bound bound') (h : tryInSequence bound start items = some tried) :
    ∃ tried', tryInSequence bound' start' items' = some tried' ∧ AllAlike K Q tried tried' := by
  induction hitems generalizing tried start start' with
  | nil =>
    cases h
    exact ⟨[], rfl, .nil⟩
  | cons hm _ ih =>
    simp only [tryInSequence, Option.bind_eq_bind, Option.bind_eq_some_iff] at h
    obtain ⟨a, ha, h⟩ := h
    obtain ⟨a', ha', halike⟩ := hm.value hstart hbound ha
    rw [tryInSequence, ha', Option.bind_eq_bind, Option.bind_some, ← halike.success]
    split at h
    · rename_i hs
      obtain ⟨later, hlater, h⟩ := Option.bind_eq_some_iff.1 h
      cases h
      obtain ⟨later', hlater', hlike⟩ := ih (hQ.stop_rel halike) hlater
      rw [if_pos hs, hlater']
      exact ⟨_, rfl, .cons ⟨hm.key, halike⟩ hlike⟩
    · rename_i hs
      cases h
      exact ⟨_, if_neg hs, .cons ⟨hm.key, halike⟩ .nil⟩

lemma tryInAgreement_followed (hQ : Likeness P K Q) (hitems : AllFollowed P K Q items items') (hstart : P start start')
    (hbound : P bound bound') {agreed agreed' : Option Nat} (hagreed : Option.Rel P agreed agreed')
    (h : tryInAgreement start bound agreed items = some tried) :
    ∃ tried', tryInAgreement start' bound' agreed' items' = some tried' ∧ AllAlike K Q tried tried' := by
  induction hitems generalizing tried agreed agreed' with
  | nil =>
    cases h
    exact ⟨[], rfl, .nil⟩
  | cons hm _ ih =>
    simp only [tryInAgreement, Option.bind_eq_bind, Option.bind_eq_some_iff] at h
    obtain ⟨a, ha, h⟩ := h
    obtain ⟨a', ha', halike⟩ := hm.value hstart hbound ha
    -- both sides agree with their own agreed stop or both do not, for the stops stand in the same order
    have hagrees : agreed.all (· = a.stop) = agreed'.all (· = a'.stop) := by
      cases hagreed with
      | none => rfl
      | some hstop => simp [hQ.eq_iff_eq hstop (hQ.stop_rel halike)]
    rw [tryInAgreement, ha', Option.bind_eq_bind, Option.bind_some, ← halike.success, ← hagrees]
    split at h
    · rename_i hs
      obtain ⟨later, hlater, h⟩ := Option.bind_eq_some_iff.1 h
      cases h
      obtain ⟨later', hlater', hlike⟩ := ih (.some (hQ.stop_rel halike)) hlater
      rw [if_pos hs, hlater']
      exact ⟨_, rfl, .cons ⟨hm.key, halike⟩ hlike⟩
    · rename_i hs
      cases h
      exact ⟨_, if_neg hs, .cons ⟨hm.key, halike⟩ .nil⟩

lemma tryEach_followed (hitems : AllFollowed P K Q items items') (hstart : P start start') (hbound : P bound bound')
    (h : tryEach start bound items = some tried) :
    ∃ tried', tryEach start' bound' items' = some tried' ∧ AllAlike K Q tried tried' := by
  induction hitems generalizing tried with
  | nil =>
    cases h
    exact ⟨[], rfl, .nil⟩
  | cons hm _ ih =>
    simp only [tryEach, Option.bind_eq_bind, Option.bind_eq_some_iff] at h
    obtain ⟨a, ha, later, hlater, h⟩ := h
    cases h
    obtain ⟨a', ha', halike⟩ := hm.value hstart hbound ha
    obtain ⟨later', hlater', hlike⟩ := ih hlater
    rw [tryEach, ha', hlater']
    exact ⟨_, rfl, .cons ⟨hm.key, halike⟩ hlike⟩

/-! ### Runs of repetitions -/

/-- Runs that ended for the same reason. -/
inductive Ending.Alike (Q : Record → Record → Prop) : Ending → Ending → Prop
  | full : Alike Q .full .full
  | refused {a a' : Attempt} (h : a.Alike Q a') : Alike Q (.refused a) (.refused a')
  | idle {a a' : Attempt} (h : a.Alike Q a') : Alike Q (.idle a) (.idle a')

/-- Runs with as many repetitions that are alike one by one, and that ended for the same reason. -/
structure Run.Alike (Q : Record → Record → Prop) (run run' : Run) : Prop where
  accepted : List.Forall₂ (Attempt.Alike Q) run.accepted run'.accepted
  ending : run.ending.Alike Q run'.ending

lemma repeatFrom_followed (hQ : Likeness P K Q) {m m' : Matcher} (hm : m.FollowedBy P Q m') (hstart : P start start')
    (hbound : P bound bound') {bounded : Bool} {limit limit' : Nat} (hlimit : limit ≤ limit')
    (hbounded : bounded → limit = limit') {run : Run} (h : repeatFrom m bound bounded limit start = some run) :
    ∃ run', repeatFrom m' bound' bounded limit' start' = some run' ∧ run.Alike Q run' := by
  induction limit generalizing limit' start start' run with
  | zero =>
    simp only [repeatFrom] at h
    split at h
    · -- an upper bound on the rounds is met on both sides at once: the limits are equal then
      rename_i hb
      cases h
      rw [← hbounded hb]
      exact ⟨_, if_pos hb, .nil, .full⟩
    · cases h
  | succ limit ih =>
    obtain ⟨limit', rfl⟩ := Nat.exists_eq_add_of_lt hlimit
    simp only [repeatFrom, Option.bind_eq_bind, Option.bind_eq_some_iff] at h
    obtain ⟨a, ha, h⟩ := h
    obtain ⟨a', ha', halike⟩ := hm hstart hbound ha
    -- a round that does not move on does not move on there either
    have hidle : a.stop ≤ start ↔ a'.stop ≤ start' := hQ.le_iff_le (hQ.stop_rel halike) hstart
    rw [repeatFrom, ha', Option.bind_eq_bind, Option.bind_some, ← halike.success]
    simp only [← hidle]
    split at h
    · rename_i hs
      cases h
      exact ⟨_, if_pos hs, .nil, .refused halike⟩
    · rename_i hs
      rw [if_neg hs]
      split at h
      · rename_i hi
        cases h
        exact ⟨_, if_pos hi, .nil, .idle halike⟩
      · rename_i hi
        obtain ⟨later, hlater, h⟩ := Option.bind_eq_some_iff.1 h
        cases h
        have hrest : bounded → limit = limit + limit' := by
          intro hb
          have := hbounded hb
          omega
        obtain ⟨later', hlater', hlike⟩ := ih (hQ.stop_rel halike) (Nat.le_add_right _ _) hrest hlater
        rw [if_neg hi, hlater']
        exact ⟨_, rfl, .cons halike hlike.accepted, hlike.ending⟩

lemma repeatWithin_followed (hQ : Likeness P K Q) {m m' : Matcher} (hm : m.FollowedBy P Q m') (hstart : P start start')
    (hbound : P bound bound') {most : Option Nat} {steps steps' : Nat} (hsteps : steps ≤ steps') {run : Run}
    (h : repeatWithin m bound start most steps = some run) :
    ∃ run', repeatWithin m' bound' start' most steps' = some run' ∧ run.Alike Q run' := by
  cases most with
  | none => exact repeatFrom_followed hQ hm hstart hbound hsteps (by simp) h
  | some most => exact repeatFrom_followed hQ hm hstart hbound (Nat.le_refl most) (fun _ => rfl) h

namespace Run.Alike

variable {run run' : Run}

lemma attempts (h : run.Alike Q run') : List.Forall₂ (Attempt.Alike Q) run.attempts run'.attempts := by
  obtain ⟨accepted, ending⟩ := run
  obtain ⟨accepted', ending'⟩ := run'
  obtain ⟨haccepted, hending⟩ := h
  refine List.rel_append haccepted ?_
  cases hending with
  | full => exact .nil
  | refused ha => exact .cons ha .nil
  | idle ha => exact .cons ha .nil

lemma satisfies_eq (h : run.Alike Q run') (least : Nat) : run.satisfies least = run'.satisfies least := by
  obtain ⟨accepted, ending⟩ := run
  obtain ⟨accepted', ending'⟩ := run'
  obtain ⟨haccepted, hending⟩ := h
  have hlength : accepted.length = accepted'.length := haccepted.length_eq
  cases hending with
  | full => simp only [Run.satisfies, hlength]
  | refused _ => simp only [Run.satisfies, hlength]
  | idle _ => rfl

lemma cursor_rel (h : run.Alike Q run') (hQ : Likeness P K Q) (hstart : P start start') :
    P (run.cursor start) (run'.cursor start') := by
  have hlast := getLast?_rel h.accepted
  unfold Run.cursor
  generalize run.accepted.getLast? = last at hlast ⊢
  generalize run'.accepted.getLast? = last' at hlast ⊢
  cases hlast with
  | none => exact hstart
  | some halike => exact hQ.stop_rel halike

lemma stop_rel (h : run.Alike Q run') (hQ : Likeness P K Q) (hstart : P start start') (least : Nat) :
    P (run.stop start least) (run'.stop start' least) := by
  have hcursor := h.cursor_rel hQ hstart
  have hsatisfies := h.satisfies_eq least
  obtain ⟨accepted, ending⟩ := run
  obtain ⟨accepted', ending'⟩ := run'
  cases h.ending with
  | full => exact hcursor
  | idle _ => exact hcursor
  | refused ha =>
    simp only [Run.stop, hsatisfies]
    split
    · exact hcursor
    · exact hQ.max_rel (hQ.stop_rel ha) hcursor

end Run.Alike

end Matcher

/-! ### Operators -/

namespace Likeness

variable {items items' : List (Keyed Matcher)} {m m' first first' second second' : Matcher} {start start' : Nat}
  {tried tried' : List (Keyed Attempt)}

lemma empty_followed (hQ : Likeness P K Q) : Matcher.empty.FollowedBy P Q Matcher.empty := by
  intro start start' bound bound' a hstart _ h
  cases h
  exact ⟨_, rfl, rfl, hQ.span ⟨hstart, hstart, hstart⟩⟩

lemma unbound_followed (hQ : Likeness P K Q) : Matcher.unbound.FollowedBy P Q Matcher.unbound := by
  intro start start' bound bound' a hstart _ h
  cases h
  exact ⟨_, rfl, rfl, hQ.span ⟨hstart, hstart, hstart⟩⟩

lemma choice_followed (hQ : Likeness P K Q) (hitems : Matcher.AllFollowed P K Q items items') :
    (Matcher.choice items).FollowedBy P Q (Matcher.choice items') := by
  intro start start' bound bound' a hstart hbound h
  simp only [Matcher.choice, Option.bind_eq_bind, Option.bind_eq_some_iff] at h
  obtain ⟨tried, htried, h⟩ := h
  obtain ⟨tried', htried', hlike⟩ := Matcher.tryInTurn_followed hitems hstart hbound htried
  have hreach := hQ.reachOf_rel hstart hlike
  have hlength : tried.length = tried'.length := hlike.length_eq
  -- the last attempt decides: the earlier ones are failures
  have hlast := getLast?_rel hlike
  simp only [Matcher.choice, htried', Option.bind_eq_bind, Option.bind_some]
  generalize tried.getLast? = last at h hlast
  generalize tried'.getLast? = last' at hlast ⊢
  cases hlast with
  | none =>
    cases h
    exact ⟨_, rfl, rfl, hQ.choice (hQ.covering_rel hstart hstart hreach) hQ.key_none .none⟩
  | @some t t' ht =>
    obtain ⟨key, b⟩ := t
    obtain ⟨key', b'⟩ := t'
    have hsuccess : b.success = b'.success := ht.value.success
    simp only at h ⊢
    rw [← hsuccess, ← hlength]
    split at h
    · rename_i hs
      cases h
      refine ⟨_, if_pos hs, rfl, ?_⟩
      exact hQ.choice (hQ.covering_rel hstart (hQ.stop_rel ht.value) hreach) ht.key (.some ht.value.record)
    · rename_i hs
      cases h
      refine ⟨_, if_neg hs, rfl, ?_⟩
      exact hQ.choice (hQ.covering_rel hstart hstart hreach) hQ.key_none (.some ht.value.record)

lemma lastStop_rel (hQ : Likeness P K Q) (hstart : P start start') (h : AllAlike K Q tried tried') :
    P (Matcher.lastStop start tried) (Matcher.lastStop start' tried') := by
  have hlast := getLast?_rel h
  unfold Matcher.lastStop
  generalize tried.getLast? = last at hlast ⊢
  generalize tried'.getLast? = last' at hlast ⊢
  cases hlast with
  | none => exact hstart
  | some ht => exact hQ.stop_rel ht.value

lemma firstStop_rel (hQ : Likeness P K Q) (hstart : P start start') (h : AllAlike K Q tried tried') :
    P (Matcher.firstStop start tried) (Matcher.firstStop start' tried') := by
  cases h with
  | nil => exact hstart
  | cons ht _ => exact hQ.stop_rel ht.value

/-- Records of all attempts, over the same stretch. -/
lemma all_alike (hQ : Likeness P K Q) {success : Bool} {stop stop' : Nat} {trace trace' : Trace}
    (hstart : P start start') (hstop : P stop stop') (h : AllAlike K Q tried tried') :
    Attempt.Alike Q
      ⟨success, .all (.covering start stop (reachOf start tried)) (.ofList (keyedRecords tried)), trace⟩
      ⟨success, .all (.covering start' stop' (reachOf start' tried')) (.ofList (keyedRecords tried')), trace'⟩ :=
  ⟨rfl, hQ.all (hQ.covering_rel hstart hstop (hQ.reachOf_rel hstart h)) (forall₂_keyedRecords h)⟩

lemma concat_followed (hQ : Likeness P K Q) (hitems : Matcher.AllFollowed P K Q items items') :
    (Matcher.concat items).FollowedBy P Q (Matcher.concat items') := by
  intro start start' bound bound' a hstart hbound h
  simp only [Matcher.concat, Option.bind_eq_bind, Option.bind_eq_some_iff] at h
  obtain ⟨tried, htried, h⟩ := h
  cases h
  obtain ⟨tried', htried', hlike⟩ := Matcher.tryInSequence_followed hQ hitems hstart hbound htried
  have hsuccess : tried.all (·.value.success) = tried'.all (·.value.success) :=
    all_eq_all_of_forall₂ hlike fun _ _ ht => ht.value.success
  rw [Matcher.concat, htried', hsuccess]
  exact ⟨_, rfl, hQ.all_alike hstart (hQ.lastStop_rel hstart hlike) hlike⟩

lemma intersection_followed (hQ : Likeness P K Q) (hitems : Matcher.AllFollowed P K Q items items') :
    (Matcher.intersection items).FollowedBy P Q (Matcher.intersection items') := by
  intro start start' bound bound' a hstart hbound h
  simp only [Matcher.intersection, Option.bind_eq_bind, Option.bind_eq_some_iff] at h
  obtain ⟨tried, htried, h⟩ := h
  cases h
  obtain ⟨tried', htried', hlike⟩ := Matcher.tryInAgreement_followed hQ hitems hstart hbound .none htried
  have hstop := hQ.firstStop_rel hstart hlike
  have hsuccess : tried.all (·.value.covers (Matcher.firstStop start tried)) =
      tried'.all (·.value.covers (Matcher.firstStop start' tried')) :=
    all_eq_all_of_forall₂ hlike fun _ _ ht => hQ.covers_eq ht.value hstop
  rw [Matcher.intersection, htried', hsuccess]
  exact ⟨_, rfl, hQ.all_alike hstart hstop hlike⟩

lemma difference_followed (hQ : Likeness P K Q) (hitems : Matcher.AllFollowed P K Q items items') (exclude : Bool) :
    (Matcher.difference items exclude).FollowedBy P Q (Matcher.difference items' exclude) := by
  intro start start' bound bound' a hstart hbound h
  cases hitems with
  | nil =>
    cases h
    exact ⟨_, rfl, rfl, hQ.span ⟨hstart, hstart, hstart⟩⟩
  | @cons m m' others others' hm hothers =>
    obtain ⟨base, hbase, _⟩ := Option.bind_eq_some_iff.1 h
    obtain ⟨base', hbase', halike⟩ := hm.value hstart hbound hbase
    have hstop := hQ.stop_rel halike
    by_cases hs : base.success
    · have hs' : base'.success := halike.success ▸ hs
      rw [Matcher.difference_of_success hbase hs] at h
      obtain ⟨tried, htried, rfl⟩ := Option.map_eq_some_iff.1 h
      -- the others are tried from the last to the first, up to the stop of the base
      obtain ⟨tried', htried', hlike⟩ := Matcher.tryEach_followed (List.rel_reverse hothers) hstart hstop htried
      have hkept : AllAlike K Q (⟨m.key, base⟩ :: tried.reverse) (⟨m'.key, base'⟩ :: tried'.reverse) :=
        .cons ⟨hm.key, halike⟩ (List.rel_reverse hlike)
      have hverdicts : tried.reverse.map (·.value.covers base.stop) = tried'.reverse.map (·.value.covers base'.stop) :=
        map_eq_map_of_forall₂ (List.rel_reverse hlike) fun _ _ ht => hQ.covers_eq ht.value hstop
      rw [Matcher.difference_of_success hbase' hs', htried', hverdicts]
      exact ⟨_, rfl, hQ.all_alike hstart hstop hkept⟩
    · -- a failure of the base is returned as it is, and the others are not tried
      have hs' : ¬ base'.success := halike.success ▸ hs
      rw [Matcher.difference_of_failure hbase hs] at h
      cases h
      exact ⟨base', Matcher.difference_of_failure hbase' hs' _ _, halike⟩

lemma repetition_followed (hQ : Likeness P K Q) (hm : m.FollowedBy P Q m') (least : Nat) (most : Option Nat)
    {steps steps' : Nat} (hsteps : steps ≤ steps') :
    (Matcher.repetition m least most steps).FollowedBy P Q (Matcher.repetition m' least most steps') := by
  intro start start' bound bound' a hstart hbound h
  simp only [Matcher.repetition, Option.bind_eq_bind, Option.bind_eq_some_iff] at h
  obtain ⟨run, hrun, h⟩ := h
  cases h
  obtain ⟨run', hrun', hlike⟩ := Matcher.repeatWithin_followed hQ hm hstart hbound hsteps hrun
  have hrecords : ∀ {attempts attempts'}, List.Forall₂ (Attempt.Alike Q) attempts attempts' →
      List.Forall₂ Q (attempts.map Attempt.record) (attempts'.map Attempt.record) := by
    intro attempts attempts' hattempts
    rw [List.forall₂_map_left_iff, List.forall₂_map_right_iff]
    exact hattempts.imp fun _ _ ha => ha.record
  have hreach := hQ.farthest_rel hstart (hrecords hlike.attempts)
  rw [Matcher.repetition, hrun', hlike.satisfies_eq]
  refine ⟨_, rfl, rfl, hQ.series (hQ.covering_rel hstart (hlike.stop_rel hQ hstart least) hreach) ?_⟩
  exact hrecords hlike.accepted

lemma conditional_followed (hQ : Likeness P K Q) (h₁ : first.FollowedBy P Q first') (h₂ : second.FollowedBy P Q second')
    (require : Bool) :
    (Matcher.conditional first second require).FollowedBy P Q (Matcher.conditional first' second' require) := by
  intro start start' bound bound' a hstart hbound h
  obtain ⟨base, hbase, _⟩ := Option.bind_eq_some_iff.1 h
  obtain ⟨base', hbase', halike⟩ := h₁ hstart hbound hbase
  have hstop := hQ.stop_rel halike
  by_cases hs : base.success
  · have hs' : base'.success := halike.success ▸ hs
    rw [Matcher.conditional_of_success hbase hs] at h
    obtain ⟨b, hb, rfl⟩ := Option.map_eq_some_iff.1 h
    obtain ⟨b', hb', hlike⟩ := h₂ hstart hstop hb
    have hreach := hQ.farthest_rel hstart (.cons halike.record (.cons hlike.record .nil))
    rw [Matcher.conditional_of_success hbase' hs', hb', hQ.covers_eq hlike hstop]
    exact ⟨_, rfl, rfl, hQ.pair (hQ.covering_rel hstart hstop hreach) halike.record hlike.record⟩
  · have hs' : ¬ base'.success := halike.success ▸ hs
    rw [Matcher.conditional_of_failure hbase hs] at h
    cases h
    exact ⟨base', Matcher.conditional_of_failure hbase' hs' _ _, halike⟩

lemma collapse_followed (hQ : Likeness P K Q) (hm : m.FollowedBy P Q m') :
    (Matcher.collapse m).FollowedBy P Q (Matcher.collapse m') := by
  intro start start' bound bound' a hstart hbound h
  obtain ⟨b, hb, h⟩ := Option.bind_eq_some_iff.1 h
  cases h
  obtain ⟨b', hb', halike⟩ := hm hstart hbound hb
  rw [Matcher.collapse, hb']
  exact ⟨_, rfl, halike.success, hQ.span ⟨hstart, hQ.stop halike.record, hQ.reach halike.record⟩⟩

end Likeness

/-- Edits that keep records alike. -/
lemma Matcher.custom_followed {m m' : Matcher} (hm : m.FollowedBy P Q m') {edit : Record → Record}
    (hedit : ∀ {r r'}, Q r r' → Q (edit r) (edit r')) : (custom m edit).FollowedBy P Q (custom m' edit) := by
  intro start start' bound bound' a hstart hbound h
  obtain ⟨b, hb, h⟩ := Option.bind_eq_some_iff.1 h
  cases h
  obtain ⟨b', hb', halike⟩ := hm hstart hbound hb
  rw [custom, hb']
  exact ⟨_, rfl, halike.success, hedit halike.record⟩

/-! ### Patterns -/

variable {α : Type} [DecidableEq α] [LE α] [DecidableLE α] {x y : Array α} {E : (Record → Record) → Prop}
  {W : Pattern α → Pattern α → Prop}

/-- A likeness between runs on the input `x` and runs on the input `y`: single characters are read alike, and edits that
satisfy `E` keep records alike. -/
structure Coupling (x y : Array α) (E : (Record → Record) → Prop) (P : Nat → Nat → Prop)
    (K : Option Key → Option Key → Prop) (Q : Record → Record → Prop) : Prop extends Likeness P K Q where
  literal (test : CharTest α) : (Matcher.literal x test).FollowedBy P Q (Matcher.literal y test)
  custom {edit : Record → Record} (he : E edit) {r r' : Record} (h : Q r r') : Q (edit r) (edit r')

namespace Coupling

variable {holes holes' : Nat → Matcher} {rounds rounds' : Nat}

lemma matchers_followed {items : List (Keyed (Pattern α) × Keyed (Pattern α))} (hk : ∀ i ∈ items, K i.1.key i.2.key)
    (h : ∀ i ∈ items, (i.1.value.matcher x holes rounds).FollowedBy P Q (i.2.value.matcher y holes' rounds')) :
    Matcher.AllFollowed P K Q (Pattern.matchers x holes rounds (items.map Prod.fst))
      (Pattern.matchers y holes' rounds' (items.map Prod.snd)) := by
  simp only [Pattern.matchers_eq_map, Matcher.AllFollowed, List.forall₂_map_left_iff, List.forall₂_map_right_iff,
    List.forall₂_same]
  exact fun i hi => ⟨hk i hi, h i hi⟩

/-- A pattern is followed by its revision if its holes and the parts that were changed are followed. -/
lemma matcher_followed (hC : Coupling x y E P K Q) (hrounds : rounds ≤ rounds')
    (hh : ∀ id, (holes id).FollowedBy P Q (holes' id))
    (hW : ∀ p p', W p p' → (p.matcher x holes rounds).FollowedBy P Q (p'.matcher y holes' rounds')) {p p' : Pattern α}
    (h : p.Revised E K W p') : (p.matcher x holes rounds).FollowedBy P Q (p'.matcher y holes' rounds') := by
  induction h with
  | change h => exact hW _ _ h
  | empty => exact hC.empty_followed
  | literal test => exact hC.literal test
  | choice hk _ ih => exact hC.choice_followed (matchers_followed hk ih)
  | concat hk _ ih => exact hC.concat_followed (matchers_followed hk ih)
  | intersection hk _ ih => exact hC.intersection_followed (matchers_followed hk ih)
  | difference exclude hk _ ih => exact hC.difference_followed (matchers_followed hk ih) exclude
  | repetition least most _ ih => exact hC.repetition_followed ih least most hrounds
  | conditional require _ _ ih₁ ih₂ => exact hC.conditional_followed ih₁ ih₂ require
  | hole id => exact hh id
  | collapse _ ih => exact hC.collapse_followed ih
  | custom he _ ih => exact Matcher.custom_followed ih fun h => hC.custom he h

/-- A pattern that is not changed is followed by itself if its holes are followed. -/
lemma matcher_followed_self (hC : Coupling x y E P K Q) (hK : ∀ key, K key key) (hrounds : rounds ≤ rounds')
    (hh : ∀ id, (holes id).FollowedBy P Q (holes' id)) {p : Pattern α} (hp : p.AllEdits E) :
    (p.matcher x holes rounds).FollowedBy P Q (p.matcher y holes' rounds') :=
  hC.matcher_followed hrounds hh (fun _ _ h => False.elim h) (hp.revised hK)

/-! ### Runs under a grammar -/

section Runs

-- the run that follows is allowed `f steps` steps for a hole and `n steps` steps for a pattern outside of holes
variable {g g' : Grammar α} {f n : Nat → Nat} (hC : Coupling x y E P K Q) (hg : g.Revised E K W g')
  (hfn : ∀ steps, f steps ≤ n steps) (hnf : ∀ steps, n steps < f (steps + 1))
  (hW : ∀ steps, (∀ id, (g.holes x steps id).FollowedBy P Q (g'.holes y (f steps) id)) →
    ∀ p p', W p p' → (g.run x steps p).FollowedBy P Q (g'.run y (n steps) p'))

include hC hg hfn hnf hW

omit hg in
/-- The step from the holes to the patterns that have these holes. -/
lemma run_followed_of_holes {steps : Nat}
    (hh : ∀ id, (g.holes x steps id).FollowedBy P Q (g'.holes y (f steps) id)) {p p' : Pattern α}
    (hp : p.Revised E K W p') : (g.run x steps p).FollowedBy P Q (g'.run y (n steps) p') := by
  have hle : ∀ steps, steps ≤ f steps := by
    intro steps
    induction steps with
    | zero => exact Nat.zero_le _
    | succ steps ih => exact Nat.lt_of_le_of_lt (Nat.le_trans ih (hfn steps)) (hnf steps)
  have hmore : ∀ id, (g.holes x steps id).FollowedBy P Q (g'.holes y (n steps) id) :=
    fun id => (hh id).mono fun _ _ _ h => g'.run_mono y (.hole id) (hfn steps) h
  exact hC.matcher_followed (Nat.le_trans (hle steps) (hfn steps)) hmore (hW steps hh) hp

lemma holes_followed (steps id : Nat) : (g.holes x steps id).FollowedBy P Q (g'.holes y (f steps) id) := by
  induction steps generalizing id with
  | zero =>
    intro start start' bound bound' a _ _ h
    cases h
  | succ steps ih =>
    have hid := hg id
    have hbody : (g.holes x (steps + 1) id).FollowedBy P Q (g'.holes y (n steps + 1) id) := by
      intro start start' bound bound' a hstart hbound h
      simp only [Grammar.holes] at h ⊢
      generalize g.body? id = body at hid h
      generalize g'.body? id = body' at hid ⊢
      cases hid with
      | none => exact hC.unbound_followed hstart hbound h
      | some hrevised => exact hC.run_followed_of_holes hfn hnf hW ih hrevised hstart hbound h
    exact hbody.mono fun _ _ _ h => g'.run_mono y (.hole id) (hnf steps) h

/-- The runs of a pattern are followed by the runs of its revision. -/
theorem run_followed {p p' : Pattern α} (hp : p.Revised E K W p') (steps : Nat) :
    (g.run x steps p).FollowedBy P Q (g'.run y (n steps) p') :=
  hC.run_followed_of_holes hfn hnf hW (hC.holes_followed hg hfn hnf hW steps) hp

end Runs

/-- The runs of a pattern are followed by its own runs, on the other input. -/
lemma run_followed_self (hC : Coupling x y E P K Q) (hK : ∀ key, K key key) {g : Grammar α} (hg : g.AllEdits E)
    {p : Pattern α} (hp : p.AllEdits E) (steps : Nat) : (g.run x steps p).FollowedBy P Q (g.run y steps p) :=
  hC.run_followed (hg.revised hK) Nat.le_refl Nat.lt_succ_self (fun _ _ _ _ h => False.elim h) (hp.revised hK) steps

end Coupling

end PegTrace
