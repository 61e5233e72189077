import PegTrace.Proofs.Matching.Parts

/-!
# Attempts made again

Two runs that are given different inputs, bounds or steps come to the same attempt if they come to the same attempts
in all parts. A licence says under which bounds an attempt may be expected again, and must pass from an attempt to its
parts; then whole patterns replay what they replay in their holes (`Licence.matcher_replays`). The licence that asks
for nothing but equal bounds shows that more steps change no answer (`Grammar.run_mono`).
-/

namespace PegTrace

/-- What the first matcher comes to with one bound the second comes to with the other, where `L` allows it. -/
def Matcher.Replays (L : Nat → Nat → Attempt → Prop) (m m' : Matcher) : Prop :=
  ∀ ⦃start bound bound' a⦄, m start bound = some a → L bound bound' a → m' start bound' = some a

variable {α β : Type} {L : Nat → Nat → Attempt → Prop}

/-! ### Lists of attempts -/

namespace Matcher

variable {f f' : β → Matcher} {items : List (Keyed β)} {tried : List (Keyed Attempt)}
  {start bound bound' : Nat}

lemma tryInTurn_replays (hf : ∀ item ∈ items, (f item.value).Replays L (f' item.value))
    (h : tryInTurn start bound (items.map (·.map f)) = some tried)
    (hL : ∀ b ∈ tried.map Keyed.value, L bound bound' b) :
    tryInTurn start bound' (items.map (·.map f')) = some tried := by
  induction items generalizing tried with
  | nil => exact h
  | cons item items ih =>
    rw [List.forall_mem_cons] at hf
    simp only [List.map_cons, tryInTurn, Keyed.map, Option.bind_eq_bind, Option.bind_eq_some_iff] at h ⊢
    obtain ⟨a, ha, h⟩ := h
    split at h
    · rename_i hs
      cases h
      exact ⟨a, hf.1 ha (hL a List.mem_cons_self), by rw [if_pos hs]; rfl⟩
    · rename_i hs
      obtain ⟨later, hlater, h⟩ := Option.bind_eq_some_iff.1 h
      cases h
      rw [List.map_cons, List.forall_mem_cons] at hL
      refine ⟨a, hf.1 ha hL.1, ?_⟩
      rw [if_neg hs]
      exact Option.bind_eq_some_iff.2 ⟨later, ih hf.2 hlater hL.2, rfl⟩

lemma tryInAgreement_replays {agreed : Option Nat}
    (hf : ∀ item ∈ items, (f item.value).Replays L (f' item.value))
    (h : tryInAgreement start bound agreed (items.map (·.map f)) = some tried)
    (hL : ∀ b ∈ tried.map Keyed.value, L bound bound' b) :
    tryInAgreement start bound' agreed (items.map (·.map f')) = some tried := by
  induction items generalizing tried agreed with
  | nil => exact h
  | cons item items ih =>
    rw [List.forall_mem_cons] at hf
    simp only [List.map_cons, tryInAgreement, Keyed.map, Option.bind_eq_bind,
      Option.bind_eq_some_iff] at h ⊢
    obtain ⟨a, ha, h⟩ := h
    split at h
    · rename_i hs
      obtain ⟨later, hlater, h⟩ := Option.bind_eq_some_iff.1 h
      cases h
      rw [List.map_cons, List.forall_mem_cons] at hL
      refine ⟨a, hf.1 ha hL.1, ?_⟩
      rw [if_pos hs]
      exact Option.bind_eq_some_iff.2 ⟨later, ih hf.2 hlater hL.2, rfl⟩
    · rename_i hs
      cases h
      exact ⟨a, hf.1 ha (hL a List.mem_cons_self), by rw [if_neg hs]; rfl⟩

lemma tryInSequence_replays (hf : ∀ item ∈ items, (f item.value).Replays L (f' item.value))
    (h : tryInSequence bound start (items.map (·.map f)) = some tried)
    (hL : ∀ b ∈ tried.map Keyed.value, L bound bound' b) :
    tryInSequence bound' start (items.map (·.map f')) = some tried := by
  induction items generalizing tried start with
  | nil => exact h
  | cons item items ih =>
    rw [List.forall_mem_cons] at hf
    simp only [List.map_cons, tryInSequence, Keyed.map, Option.bind_eq_bind,
      Option.bind_eq_some_iff] at h ⊢
    obtain ⟨a, ha, h⟩ := h
    split at h
    · rename_i hs
      obtain ⟨later, hlater, h⟩ := Option.bind_eq_some_iff.1 h
      cases h
      rw [List.map_cons, List.forall_mem_cons] at hL
      refine ⟨a, hf.1 ha hL.1, ?_⟩
      rw [if_pos hs]
      exact Option.bind_eq_some_iff.2 ⟨later, ih hf.2 hlater hL.2, rfl⟩
    · rename_i hs
      cases h
      exact ⟨a, hf.1 ha (hL a List.mem_cons_self), by rw [if_neg hs]; rfl⟩

lemma tryEach_replays (hf : ∀ item ∈ items, (f item.value).Replays L (f' item.value))
    (h : tryEach start bound (items.map (·.map f)) = some tried)
    (hL : ∀ b ∈ tried.map Keyed.value, L bound bound' b) :
    tryEach start bound' (items.map (·.map f')) = some tried := by
  induction items generalizing tried with
  | nil => exact h
  | cons item items ih =>
    rw [List.forall_mem_cons] at hf
    simp only [List.map_cons, tryEach, Keyed.map, Option.bind_eq_bind, Option.bind_eq_some_iff] at h ⊢
    obtain ⟨a, ha, later, hlater, h⟩ := h
    cases h
    rw [List.map_cons, List.forall_mem_cons] at hL
    exact ⟨a, hf.1 ha hL.1, later, ih hf.2 hlater hL.2, rfl⟩

lemma repeatFrom_replays {m m' : Matcher} (hm : m.Replays L m') {bounded : Bool} {limit limit' : Nat}
    (hlimit : limit ≤ limit') (hbounded : bounded → limit = limit') {run : Run}
    (h : repeatFrom m bound bounded limit start = some run) (hL : ∀ b ∈ run.attempts, L bound bound' b) :
    repeatFrom m' bound' bounded limit' start = some run := by
  induction limit generalizing limit' start run with
  | zero =>
    simp only [repeatFrom] at h
    split at h
    · rename_i hb
      -- the bound on the rounds is used up, and it is the same bound there
      rw [← hbounded hb, repeatFrom, if_pos hb]
      exact h
    · cases h
  | succ limit ih =>
    obtain ⟨limit', rfl⟩ := Nat.exists_eq_add_of_lt hlimit
    simp only [repeatFrom, Option.bind_eq_bind, Option.bind_eq_some_iff] at h ⊢
    obtain ⟨a, ha, h⟩ := h
    split at h
    · rename_i hs
      cases h
      exact ⟨a, hm ha (hL a List.mem_cons_self), by rw [if_pos hs]; rfl⟩
    · rename_i hs
      split at h
      · rename_i hidle
        cases h
        exact ⟨a, hm ha (hL a List.mem_cons_self), by rw [if_neg hs, if_pos hidle]; rfl⟩
      · rename_i hidle
        obtain ⟨later, hlater, h⟩ := Option.bind_eq_some_iff.1 h
        cases h
        rw [Run.attempts, List.cons_append, List.forall_mem_cons] at hL
        refine ⟨a, hm ha hL.1, ?_⟩
        rw [if_neg hs, if_neg hidle]
        -- this round moved on, so the rest runs with one round less on both sides
        refine Option.bind_eq_some_iff.2 ⟨later, ih (by omega) (fun hb => ?_) hlater hL.2, rfl⟩
        have := hbounded hb
        omega

lemma repeatWithin_replays {m m' : Matcher} (hm : m.Replays L m') {most : Option Nat} {steps steps' : Nat}
    (hsteps : steps ≤ steps') {run : Run} (h : repeatWithin m bound start most steps = some run)
    (hL : ∀ b ∈ run.attempts, L bound bound' b) : repeatWithin m' bound' start most steps' = some run := by
  cases most with
  | none => exact repeatFrom_replays hm hsteps (by simp) h hL
  | some most => exact repeatFrom_replays hm (Nat.le_refl most) (fun _ => rfl) h hL

end Matcher

/-! ### Patterns -/

variable [DecidableEq α] [LE α] [DecidableLE α]

/-- When attempts on the input `x` may be expected again on the input `y`: single characters are read alike, and the
licence for an attempt covers its parts, those that are bounded by its stop also under that bound. The property `I`
holds of all attempts on `x`, and the edits that are met satisfy `E`. -/
structure Licence (x y : Array α) (E : (Record → Record) → Prop) (I : Nat → Nat → Attempt → Prop)
    (L : Nat → Nat → Attempt → Prop) : Prop where
  heritable : Heritable x E I
  literal (test : CharTest α) : (Matcher.literal x test).Replays L (Matcher.literal y test)
  part {start bound bound' : Nat} {parts : List Attempt} {a b : Attempt}
    (hc : Course I [start] [bound] parts) (ha : a.Assembled start parts) (hL : L bound bound' a)
    (hb : b ∈ parts) : L bound bound' b
  inner {start bound bound' : Nat} {parts : List Attempt} {a b : Attempt}
    (hc : Course I [start] [bound] parts) (ha : a.Assembled start parts) (hL : L bound bound' a)
    (hb : b ∈ parts) (hI : I start a.stop b) : L a.stop a.stop b
  collapse {start bound bound' : Nat} {a : Attempt} (hI : I start bound a)
    (hL : L bound bound' { a with record := .span ⟨start, a.record.stop, a.record.reach⟩ }) :
    L bound bound' a
  custom {bound bound' : Nat} {a : Attempt} {edit : Record → Record} (he : E edit)
    (hL : L bound bound' { a with record := edit a.record }) : L bound bound' a

namespace Licence

variable {x y : Array α} {E : (Record → Record) → Prop} {I : Nat → Nat → Attempt → Prop}
  {f f' : β → Matcher} {items : List (Keyed β)}

lemma choice_replays (hL : Licence x y E I L) (hm : ∀ item ∈ items, (f item.value).Meets I)
    (hf : ∀ item ∈ items, (f item.value).Replays L (f' item.value)) :
    (Matcher.choice (items.map (·.map f))).Replays L (Matcher.choice (items.map (·.map f'))) := by
  intro start bound bound' a h ha
  obtain ⟨tried, htried, hc, hassembled⟩ := Matcher.choice_assembled (List.forall_mem_map.2 hm) h
  have htried' := Matcher.tryInTurn_replays hf htried fun b hb => hL.part hc hassembled ha hb
  simp only [Matcher.choice, htried, htried'] at h ⊢
  exact h

lemma concat_replays (hL : Licence x y E I L) (hm : ∀ item ∈ items, (f item.value).Meets I)
    (hf : ∀ item ∈ items, (f item.value).Replays L (f' item.value)) :
    (Matcher.concat (items.map (·.map f))).Replays L (Matcher.concat (items.map (·.map f'))) := by
  intro start bound bound' a h ha
  obtain ⟨tried, htried, hc, hassembled⟩ := Matcher.concat_assembled (List.forall_mem_map.2 hm) h
  have htried' := Matcher.tryInSequence_replays hf htried fun b hb => hL.part hc hassembled ha hb
  simp only [Matcher.concat, htried, htried'] at h ⊢
  exact h

lemma intersection_replays (hL : Licence x y E I L) (hm : ∀ item ∈ items, (f item.value).Meets I)
    (hf : ∀ item ∈ items, (f item.value).Replays L (f' item.value)) :
    (Matcher.intersection (items.map (·.map f))).Replays L (Matcher.intersection (items.map (·.map f'))) := by
  intro start bound bound' a h ha
  obtain ⟨tried, htried, hc, hassembled⟩ := Matcher.intersection_assembled (List.forall_mem_map.2 hm) h
  have htried' := Matcher.tryInAgreement_replays hf htried fun b hb => hL.part hc hassembled ha hb
  simp only [Matcher.intersection, htried, htried'] at h ⊢
  exact h

lemma difference_replays (hL : Licence x y E I L) (exclude : Bool)
    (hm : ∀ item ∈ items, (f item.value).Meets I)
    (hf : ∀ item ∈ items, (f item.value).Replays L (f' item.value)) :
    (Matcher.difference (items.map (·.map f)) exclude).Replays L
      (Matcher.difference (items.map (·.map f')) exclude) := by
  intro start bound bound' a h ha
  cases items with
  | nil => exact h
  | cons item items =>
    rw [List.forall_mem_cons] at hm hf
    obtain ⟨base, hbase, _⟩ := Option.bind_eq_some_iff.1 h
    by_cases hs : base.success
    · obtain ⟨tried, htried, hstop, hc, hassembled⟩ :=
        Matcher.difference_assembled hm.1 (List.forall_mem_map.2 hm.2) hbase hs h
      have hbase' : f' item.value start bound' = some base :=
        hf.1 hbase (hL.part hc hassembled ha List.mem_cons_self)
      rw [← List.map_reverse] at htried
      -- the other items are bounded by the stop of the base, which is that of the whole
      have hinner : ∀ b ∈ tried.map Keyed.value, L base.stop base.stop b := by
        intro b hb
        have hmeets : I start base.stop b :=
          Matcher.tryEach_meets (List.forall_mem_map.2 fun i hi => hm.2 i (List.mem_reverse.1 hi))
            htried b hb
        rw [← hstop] at hmeets ⊢
        refine hL.inner hc hassembled ha (List.mem_cons_of_mem _ ?_) hmeets
        rwa [List.map_reverse, List.mem_reverse]
      have htried' := Matcher.tryEach_replays (fun i hi => hf.2 i (List.mem_reverse.1 hi)) htried hinner
      rw [List.map_reverse] at htried htried'
      rw [List.map_cons, Matcher.difference_of_success hbase hs, htried] at h
      rw [List.map_cons, Matcher.difference_of_success hbase' hs, htried']
      exact h
    · rw [List.map_cons, Matcher.difference_of_failure hbase hs] at h
      cases h
      exact Matcher.difference_of_failure (hf.1 hbase ha) hs _ _

lemma repetition_replays (hL : Licence x y E I L) {m m' : Matcher} (hm : m.Meets I)
    (hr : m.Replays L m') (least : Nat) (most : Option Nat) {steps steps' : Nat} (hsteps : steps ≤ steps') :
    (Matcher.repetition m least most steps).Replays L (Matcher.repetition m' least most steps') := by
  intro start bound bound' a h ha
  obtain ⟨run, hrun, hc, hassembled⟩ := Matcher.repetition_assembled hm h
  have hrun' := Matcher.repeatWithin_replays hr hsteps hrun fun b hb => hL.part hc hassembled ha hb
  simp only [Matcher.repetition, hrun, hrun'] at h ⊢
  exact h

lemma conditional_replays (hL : Licence x y E I L) {first first' second second' : Matcher} (require : Bool)
    (hm₁ : first.Meets I) (hm₂ : second.Meets I) (h₁ : first.Replays L first')
    (h₂ : second.Replays L second') :
    (Matcher.conditional first second require).Replays L (Matcher.conditional first' second' require) := by
  intro start bound bound' a h ha
  obtain ⟨base, hbase, _⟩ := Option.bind_eq_some_iff.1 h
  by_cases hs : base.success
  · obtain ⟨b, hb, hstop, hc, hassembled⟩ := Matcher.conditional_assembled hm₁ hm₂ hbase hs h
    have hbase' : first' start bound' = some base := h₁ hbase (hL.part hc hassembled ha List.mem_cons_self)
    -- the second part runs up to the stop of the first, not up to the bound
    have hmeets : I start a.stop b := hstop ▸ hm₂ hb
    have hinner := hL.inner hc hassembled ha (List.mem_cons_of_mem _ List.mem_cons_self) hmeets
    rw [hstop] at hinner
    have hb' : second' start base.stop = some b := h₂ hb hinner
    rw [Matcher.conditional_of_success hbase hs, hb] at h
    rw [Matcher.conditional_of_success hbase' hs, hb']
    exact h
  · rw [Matcher.conditional_of_failure hbase hs] at h
    cases h
    exact Matcher.conditional_of_failure (h₁ hbase ha) hs _ _

/-- A pattern replays what it replays in its holes. -/
lemma matcher_replays (hL : Licence x y E I L) {holes holes' : Nat → Matcher} {rounds rounds' : Nat}
    (hrounds : rounds ≤ rounds') (hh : ∀ id, (holes id).Meets I)
    (hr : ∀ id, (holes id).Replays L (holes' id)) {p : Pattern α} (hp : p.AllEdits E) :
    (p.matcher x holes rounds).Replays L (p.matcher y holes' rounds') := by
  have hm : ∀ {q : Pattern α}, q.AllEdits E → (q.matcher x holes rounds).Meets I :=
    hL.heritable.matcher_meets rounds hh
  induction hp with
  | empty =>
    intro start bound bound' a h _
    exact h
  | literal test => exact hL.literal test
  | choice hparts ih =>
    intro start bound bound' a h ha
    simp only [Pattern.matcher, Pattern.matchers_eq_map] at h ⊢
    exact hL.choice_replays (fun item hitem => hm (hparts item hitem)) ih h ha
  | concat hparts ih =>
    intro start bound bound' a h ha
    simp only [Pattern.matcher, Pattern.matchers_eq_map] at h ⊢
    exact hL.concat_replays (fun item hitem => hm (hparts item hitem)) ih h ha
  | intersection hparts ih =>
    intro start bound bound' a h ha
    simp only [Pattern.matcher, Pattern.matchers_eq_map] at h ⊢
    exact hL.intersection_replays (fun item hitem => hm (hparts item hitem)) ih h ha
  | difference exclude hparts ih =>
    intro start bound bound' a h ha
    simp only [Pattern.matcher, Pattern.matchers_eq_map] at h ⊢
    exact hL.difference_replays exclude (fun item hitem => hm (hparts item hitem)) ih h ha
  | repetition least most hinner ih => exact hL.repetition_replays (hm hinner) ih least most hrounds
  | conditional require h₁ h₂ ih₁ ih₂ => exact hL.conditional_replays require (hm h₁) (hm h₂) ih₁ ih₂
  | hole id => exact hr id
  | collapse hinner ih =>
    intro start bound bound' a h ha
    obtain ⟨b, hb, h⟩ := Option.bind_eq_some_iff.1 h
    cases h
    exact Option.bind_eq_some_iff.2 ⟨b, ih hb (hL.collapse (hm hinner hb) ha), rfl⟩
  | custom he hbase ih =>
    intro start bound bound' a h ha
    obtain ⟨b, hb, h⟩ := Option.bind_eq_some_iff.1 h
    cases h
    exact Option.bind_eq_some_iff.2 ⟨b, ih hb (hL.custom he ha), rfl⟩

/-- Holes replay in a grammar that has all the bodies of the first, by induction on the steps of the first run. It may
have more of them, if the licence allows for it. -/
lemma holes_replay (hL : Licence x y E I L) {g g' : Grammar α} (hg : g.AllEdits E)
    (hbound : ∀ {id body}, g.body? id = some body → g'.body? id = some body)
    (hunbound : ∀ {id}, g.body? id = none → ∀ steps, Matcher.unbound.Replays L (g'.holes y (steps + 1) id))
    {steps steps' : Nat} (hsteps : steps ≤ steps') (id : Nat) :
    (g.holes x steps id).Replays L (g'.holes y steps' id) := by
  induction steps generalizing steps' id with
  | zero =>
    intro start bound bound' a h _
    cases h
  | succ steps ih =>
    intro start bound bound' a h ha
    obtain ⟨steps', rfl⟩ := Nat.exists_eq_add_of_lt hsteps
    cases hbody : g.body? id with
    | some body =>
      have hle : steps ≤ steps + steps' := Nat.le_add_right _ _
      have hmeets : ∀ id, (g.holes x steps id).Meets I := fun id => hL.heritable.run_meets hg (.hole id) steps
      simp only [Grammar.holes, hbody, hbound hbody] at h ⊢
      exact hL.matcher_replays hle hmeets (fun id => ih hle id) (hg hbody) h ha
    | none =>
      simp only [Grammar.holes, hbody] at h
      -- unbound here, the hole may be bound there: what its body may do then is a hypothesis
      exact hunbound hbody (steps + steps') h ha

/-- A licence lets every attempt under a grammar be made again, also with more steps. -/
theorem run_replays (hL : Licence x y E I L) {g : Grammar α} (hg : g.AllEdits E) {p : Pattern α}
    (hp : p.AllEdits E) {steps steps' : Nat} (hsteps : steps ≤ steps') :
    (g.run x steps p).Replays L (g.run y steps' p) := by
  have hmeets : ∀ id, (g.holes x steps id).Meets I := fun id => hL.heritable.run_meets hg (.hole id) steps
  refine hL.matcher_replays hsteps hmeets (hL.holes_replay hg id (fun hnone steps => ?_) hsteps) hp
  intro start bound bound' a h _
  simp only [Grammar.holes, hnone]
  exact h

end Licence

/-! ### More steps -/

lemma licence_of_bound_eq (input : Array α) :
    Licence input input (fun _ => True) (fun _ _ _ => True) fun bound bound' _ => bound = bound' where
  heritable := {
    unbound := fun _ _ _ _ => trivial
    literal := fun _ _ _ _ _ => trivial
    assembled := fun _ _ => trivial
    collapse := fun _ => trivial
    custom := fun _ _ => trivial }
  literal test := by
    rintro start bound _ a h rfl
    exact h
  part _ _ h _ := h
  inner _ _ _ _ _ := rfl
  collapse _ h := h
  custom _ h := h

/-- More steps change no answer. -/
theorem Grammar.run_mono (g : Grammar α) (input : Array α) (p : Pattern α) {steps steps' start bound : Nat}
    {a : Attempt} (hsteps : steps ≤ steps') (h : g.run input steps p start bound = some a) :
    g.run input steps' p start bound = some a := by
  have hall : ∀ q : Pattern α, q.AllEdits fun _ => True := Pattern.allEdits_of_forall fun _ => trivial
  exact (licence_of_bound_eq input).run_replays (fun _ body _ => hall body) (hall p) hsteps h rfl

/-- Where there is an answer, there is one with more steps. -/
lemma Grammar.exists_run_mono (g : Grammar α) (input : Array α) (p : Pattern α) {start bound : Nat} ⦃steps steps' : Nat⦄
    (hsteps : steps ≤ steps') (h : ∃ a, g.run input steps p start bound = some a) :
    ∃ a, g.run input steps' p start bound = some a :=
  h.imp fun _ ha => g.run_mono input p hsteps ha

/-- A repetition that gives an answer gives it with more steps and more rounds. -/
lemma Grammar.repetition_mono (g : Grammar α) (input : Array α) (p : Pattern α) {steps steps' rounds rounds' : Nat}
    (hsteps : steps ≤ steps') (hrounds : rounds ≤ rounds') {least : Nat} {most : Option Nat} {start bound : Nat}
    {a : Attempt} (h : Matcher.repetition (g.run input steps p) least most rounds start bound = some a) :
    Matcher.repetition (g.run input steps' p) least most rounds' start bound = some a := by
  have hreplays : (g.run input steps p).Replays (fun bound bound' _ => bound = bound') (g.run input steps' p) := by
    rintro start bound _ a ha rfl
    exact g.run_mono input p hsteps ha
  exact (licence_of_bound_eq input).repetition_replays (fun _ _ _ _ => trivial) hreplays least most hrounds h rfl

/-- Steps that are enough for each of some things are enough for all of them together. -/
lemma exists_steps_forall_mem {β : Type} {P : β → Nat → Prop} (hmono : ∀ x ⦃m n⦄, m ≤ n → P x m → P x n) {l : List β}
    (h : ∀ x ∈ l, ∃ steps, P x steps) : ∃ steps, ∀ x ∈ l, P x steps := by
  induction l with
  | nil => exact ⟨0, by simp⟩
  | cons x l ih =>
    rw [List.forall_mem_cons] at h
    obtain ⟨m, hm⟩ := h.1
    obtain ⟨n, hn⟩ := ih h.2
    refine ⟨max m n, ?_⟩
    rw [List.forall_mem_cons]
    exact ⟨hmono x (Nat.le_max_left m n) hm, fun y hy => hmono y (Nat.le_max_right m n) (hn y hy)⟩

/-- Two runs that give an answer give the same one. -/
lemma Grammar.run_unique (g : Grammar α) (input : Array α) (p : Pattern α) {steps steps' start bound : Nat}
    {a a' : Attempt} (h : g.run input steps p start bound = some a)
    (h' : g.run input steps' p start bound = some a') : a = a' := by
  have h₁ := g.run_mono input p (Nat.le_max_left steps steps') h
  have h₂ := g.run_mono input p (Nat.le_max_right steps steps') h'
  rw [h₁] at h₂
  exact Option.some.inj h₂

end PegTrace
