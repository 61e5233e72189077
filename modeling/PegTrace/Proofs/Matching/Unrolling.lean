import PegTrace.Proofs.Matching.Ends

/-!
# Repetitions unrolled

A bounded repetition is the concatenation of as many copies as the lower bound asks for, followed by what may come
beyond it: any number of repetitions without an upper bound, and otherwise copies that are optional, each within the one
before it. Both come to the same ends, on success and on failure, also where a copy matches without moving on
(`times_iff_unrolled`). With an upper bound both need the same steps; without one, the copies are matched outside of the
rounds of the repetition that follows them.
-/

namespace PegTrace

variable {α : Type}

namespace Pattern

/-- At most so many copies, each within the one before it. -/
def upTo (p : Pattern α) : Nat → Pattern α
  | 0 => empty
  | n + 1 => optional (concat [.plain p, .plain (p.upTo n)])

/-- What may follow the copies that the lower bound asks for. -/
def surplus (p : Pattern α) (least : Nat) : Option Nat → Pattern α
  | none => p.star
  | some most => p.upTo (max least most - least)

/-- The copies that the lower bound asks for, and what may follow them. -/
def unrolled (p : Pattern α) (least : Nat) (most : Option Nat) : Pattern α :=
  concat (List.replicate least (.plain p) ++ [.plain (p.surplus least most)])

variable {p : Pattern α}

lemma EditFree.pair {q : Pattern α} (hp : p.EditFree) (hq : q.EditFree) :
    (concat [.plain p, .plain q]).EditFree :=
  .concat (by simpa [Keyed.plain, EditFree] using And.intro hp hq)

lemma EditFree.upTo (hp : p.EditFree) (n : Nat) : (p.upTo n).EditFree := by
  induction n with
  | zero => exact .empty
  | succ n ih => exact .choice (by simpa [Keyed.plain, EditFree] using And.intro hp ih)

lemma EditFree.surplus (hp : p.EditFree) (least : Nat) (most : Option Nat) : (p.surplus least most).EditFree := by
  cases most with
  | none => exact .repetition 0 none hp
  | some most => exact hp.upTo _

end Pattern

namespace Grammar

variable [DecidableEq α] [LE α] [DecidableLE α] {g : Grammar α} {p : Pattern α} {input : Array α}
  {steps start bound : Nat}

/-! ### Optional copies -/

lemma ends_upTo (hg : g.EditFree) (hp : p.EditFree) (n : Nat) :
    (g.run input steps (p.upTo n)).ends start bound =
      (Matcher.repetition (g.run input steps p) 0 (some n) steps).ends start bound := by
  induction n generalizing start with
  | zero =>
    rw [Matcher.ends_repetition]
    exact congrArg (fun reach => some (true, start, reach)) (Nat.max_self start).symm
  | succ n ih =>
    have hpair : (Pattern.concat [.plain p, .plain (p.upTo n)]).EditFree := hp.pair (hp.upTo n)
    -- With an upper bound the steps are not asked for.
    change _ = (Matcher.repetition (g.run input steps p) 0 (some (n + 1)) (steps + 1)).ends start bound
    rw [Pattern.upTo, ends_run_optional hg hpair, ends_run_pair hg hp (hp.upTo n),
      Matcher.ends_repetition_succ (hg.run_framing hp input steps) (.inr (by simp)) (by simp)]
    cases (g.run input steps p).ends start bound with
    | none => rfl
    | some e =>
      obtain ⟨success, stop, reach⟩ := e
      cases success with
      | false => rfl
      | true =>
        simp only [Option.bind_some, ih, Nat.zero_sub, Option.map_some, Nat.add_sub_cancel]
        cases h : (Matcher.repetition (g.run input steps p) 0 (some n) steps).ends stop bound with
        | none => rfl
        | some e =>
          obtain ⟨success, stop', reach'⟩ := e
          obtain rfl := Matcher.success_of_ends_repetition_zero h
          rfl

/-! ### Copies that are asked for -/

/-- Copies that are matched before the others count as the repetitions that are asked for. -/
lemma ends_run_copies {t : Pattern α} {extra : Option Nat} (hg : g.EditFree) (hp : p.EditFree) (ht : t.EditFree)
    (hextra : extra = none → 0 < steps)
    (h : ∀ start, (g.run input steps t).ends start bound =
      (Matcher.repetition (g.run input steps p) 0 extra steps).ends start bound) (least : Nat) :
    (g.run input steps (.concat (List.replicate least (.plain p) ++ [.plain t]))).ends start bound =
      (Matcher.repetition (g.run input steps p) least (extra.map (least + ·)) (least + steps)).ends start bound := by
  induction least generalizing start with
  | zero =>
    have hitem : (Keyed.plain t).value.EditFree := ht
    rw [List.replicate_zero, List.nil_append, ends_run_concat_singleton hg hitem]
    simpa [Keyed.plain] using h start
  | succ least ih =>
    have hitem : (Keyed.plain p).value.EditFree := hp
    rw [List.replicate_succ, List.cons_append, ends_run_concat_cons hg hitem, Nat.add_right_comm,
      Matcher.ends_repetition_succ (hg.run_framing hp input steps) (.inl least.succ_pos)]
    · -- one copy fewer lowers both bounds by one
      have hless : (extra.map (least + 1 + ·)).map (· - 1) = extra.map (least + ·) := by
        rw [Option.map_map]
        congr 1
        funext k
        simp only [Function.comp_apply]
        omega
      simp only [ih, hless]
      rfl
    · intro hnone
      -- without an upper bound there is a step for the round that is split off
      have := hextra (by simpa using hnone)
      omega

/-- With an upper bound both need the same steps. -/
lemma ends_unrolled_some (hg : g.EditFree) (hp : p.EditFree) (least most : Nat) :
    (g.run input steps (p.unrolled least (some most))).ends start bound =
      (g.run input steps (p.times least (some most))).ends start bound := by
  have hmost : least + (max least most - least) = max least most := by omega
  have h : (g.run input steps (p.unrolled least (some most))).ends start bound =
      (Matcher.repetition (g.run input steps p) least (some (least + (max least most - least))) (least + steps)).ends
        start bound :=
    ends_run_copies hg hp (hp.surplus least (some most)) (by simp) (fun _ => ends_upTo hg hp _) least
  rw [hmost] at h
  exact h

lemma ends_unrolled_none (hg : g.EditFree) (hp : p.EditFree) (hsteps : 0 < steps) (least : Nat) :
    (g.run input steps (p.unrolled least none)).ends start bound =
      (Matcher.repetition (g.run input steps p) least none (least + steps)).ends start bound :=
  ends_run_copies hg hp (hp.surplus least none) (fun _ => hsteps) (fun _ => rfl) least

lemma ends_times_zero_one (hg : g.EditFree) (hp : p.EditFree) :
    (g.run input steps (p.times 0 (some 1))).ends start bound = (g.run input steps p.optional).ends start bound := by
  have hpair : (g.run input steps (.concat [.plain p, .plain .empty])).ends start bound =
      (g.run input steps p).ends start bound := by
    have hitem : (Keyed.plain p).value.EditFree := hp
    have hitems : ∀ item ∈ [Keyed.plain p], item.value.EditFree := by simpa using hitem
    exact (ends_run_concat_append_empty hg hitems).trans (ends_run_concat_singleton hg hitem)
  calc (g.run input steps (p.times 0 (some 1))).ends start bound
      = (g.run input steps (p.upTo 1)).ends start bound := (ends_upTo hg hp 1).symm
    _ = (g.run input steps p.optional).ends start bound := by
      rw [Pattern.upTo, Pattern.upTo, ends_run_optional hg (hp.pair .empty), ends_run_optional hg hp, hpair]

lemma ends_times_self (hg : g.EditFree) (hp : p.EditFree) (n : Nat) :
    (g.run input steps (p.times n (some n))).ends start bound =
      (g.run input steps (.concat (List.replicate n (.plain p)))).ends start bound := by
  have hitems : ∀ item ∈ List.replicate n (Keyed.plain p), item.value.EditFree := by
    intro item hitem
    rw [List.eq_of_mem_replicate hitem]
    exact hp
  rw [← ends_unrolled_some hg hp, Pattern.unrolled, Pattern.surplus, Nat.max_self, Nat.sub_self]
  exact ends_run_concat_append_empty hg hitems

/-! ### Enough steps -/

lemma comesTo_unrolled_none {ends : Bool × Nat × Nat} (hg : g.EditFree) (hp : p.EditFree) (least : Nat) :
    g.ComesTo input (p.unrolled least none) start bound ends ↔
      g.ComesTo input (p.times least none) start bound ends := by
  constructor
  · rintro ⟨steps, h⟩
    have hsteps := ends_mono (Nat.le_succ steps) h
    rw [ends_unrolled_none hg hp steps.succ_pos] at hsteps
    obtain ⟨a, ha, hends⟩ := Option.map_eq_some_iff.1 hsteps
    exact ⟨least + (steps + 1),
      Option.map_eq_some_iff.2 ⟨a, g.repetition_mono input p (Nat.le_add_left _ _) le_rfl ha, hends⟩⟩
  · rintro ⟨steps, h⟩
    obtain ⟨a, ha, hends⟩ := Option.map_eq_some_iff.1 h
    -- one step more, so that there is a step even where there was none
    refine ⟨steps + 1, (ends_unrolled_none hg hp steps.succ_pos least).trans ?_⟩
    exact Option.map_eq_some_iff.2 ⟨a, g.repetition_mono input p (Nat.le_succ steps) (by omega) ha, hends⟩

lemma comesTo_unrolled {ends : Bool × Nat × Nat} (hg : g.EditFree) (hp : p.EditFree) (least : Nat) (most : Option Nat) :
    g.ComesTo input (p.unrolled least most) start bound ends ↔
      g.ComesTo input (p.times least most) start bound ends := by
  cases most with
  | none => exact comesTo_unrolled_none hg hp least
  | some most => exact comesTo_congr fun _ => ends_unrolled_some hg hp least most

end Grammar

variable [DecidableEq α] [LE α] [DecidableLE α] {g : Grammar α} {p : Pattern α}

/-- A bounded repetition and its unrolling come to the same ends. In particular, at least one repetition is one or more,
at most one is an option, and a given number of them is so many copies. -/
theorem times_iff_unrolled (hg : g.EditFree) (hp : p.EditFree) (input : Array α) (start bound : Nat)
    (ends : Bool × Nat × Nat) :
    (∀ least most, g.ComesTo input (p.times least most) start bound ends ↔
      g.ComesTo input (p.unrolled least most) start bound ends) ∧
    (g.ComesTo input (p.times 1 none) start bound ends ↔ g.ComesTo input p.oneOrMore start bound ends) ∧
    (g.ComesTo input (p.times 0 (some 1)) start bound ends ↔ g.ComesTo input p.optional start bound ends) ∧
    ∀ n, g.ComesTo input (p.times n (some n)) start bound ends ↔
      g.ComesTo input (.concat (List.replicate n (.plain p))) start bound ends :=
  ⟨fun least most => (Grammar.comesTo_unrolled hg hp least most).symm,
    (Grammar.comesTo_unrolled hg hp 1 none).symm,
    Grammar.comesTo_congr fun _ => Grammar.ends_times_zero_one hg hp,
    fun n => Grammar.comesTo_congr fun _ => Grammar.ends_times_self hg hp n⟩

/-- The second time round, the parentheses are not closed. If nothing will do as well, that is as good as any number of
repetitions; otherwise the place where they should be closed is told. -/
theorem parens_iff_unrolled :
    Grammar.parens.ComesTo #['(', ')', '(', 'x'] ((Pattern.hole 0).unrolled 3 none) 0 4 (true, 2, 4) ∧
    Grammar.parens.ComesTo #['(', ')', '(', 'x'] ((Pattern.text "()").unrolled 2 (some 3)) 0 4 (false, 4, 4) := by
  have htext : (Pattern.text "()").EditFree := by
    simp [Pattern.EditFree, Pattern.text, Pattern.sequence, Pattern.one, Keyed.plain]
  exact ⟨((times_iff_unrolled Grammar.editFree_parens (.hole 0) _ 0 4 _).1 3 none).1 ⟨4, by decide +kernel⟩,
    ((times_iff_unrolled Grammar.editFree_parens htext _ 0 4 _).1 2 (some 3)).1 ⟨1, by decide +kernel⟩⟩

end PegTrace
