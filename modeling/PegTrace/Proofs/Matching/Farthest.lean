import PegTrace.Proofs.Matching.Exactness

/-!
# Where a diagnostic points

An attempt looks for a character where it reads one and also where there is none left. The farthest place where it looks
is its reach if it looks there, and otherwise the place just before its reach, where it read a character. A diagnostic
goes by the stop and the reach, which do not tell whether the attempt looked at its reach. So it points at the farthest
look, and shows what is there, only if stop and reach coincide exactly when there was such a look. Otherwise it points
one place too far or one place short (`run_diagnostic_pointsAt_iff`): behind a single character that is refused, and
before the end of the text if one of several alternatives runs out of text (`farthestLook_not_shown`).
-/

namespace PegTrace

/-! ### Looking for a character -/

namespace Attempt

/-- The places where the attempt looked for a character, whether there was one or not. -/
def looks (a : Attempt) : Finset Nat :=
  (a.trace.events.filterMap fun
    | .read place | .exhausted place => some place
    | .unbound _ => none).toFinset

/-- The farthest place where the attempt looked for a character, or the first place of all if it never did. -/
def farthestLook (a : Attempt) : Nat :=
  a.looks.sup id

lemma mem_looks {a : Attempt} {place : Nat} :
    place ∈ a.looks ↔ place ∈ a.reads ∨ .exhausted place ∈ a.trace.events := by
  rw [looks, List.mem_toFinset, List.mem_filterMap, mem_reads]
  constructor
  · rintro ⟨e, he, hplace⟩
    cases e with
    | read q =>
      cases hplace
      exact .inl he
    | exhausted q =>
      cases hplace
      exact .inr he
    | unbound q => cases hplace
  · rintro (h | h)
    · exact ⟨.read place, h, rfl⟩
    · exact ⟨.exhausted place, h, rfl⟩

lemma le_farthestLook {a : Attempt} {place : Nat} (h : place ∈ a.looks) : place ≤ a.farthestLook :=
  Finset.le_sup (f := id) h

end Attempt

/-- The attempt misses no character beyond its reach. -/
def MissesWithinReach (_start _bound : Nat) (a : Attempt) : Prop :=
  ∀ place, .exhausted place ∈ a.trace.events → place ≤ a.record.reach

section

variable {α : Type} [DecidableEq α] [LE α] [DecidableLE α]

lemma literal_missesWithinReach (input : Array α) (test : CharTest α) :
    (Matcher.literal input test).Meets MissesWithinReach := by
  intro start bound a h
  simp only [Matcher.literal] at h
  split at h
  · cases h
    intro place hplace
    obtain rfl : place = start := by simpa using hplace
    exact Nat.le_refl _
  · cases h
    simp [MissesWithinReach]

lemma heritable_missesWithinReach (input : Array α) :
    Heritable input (fun _ => False) MissesWithinReach where
  unbound := by
    intro start bound a h
    cases h
    simp [MissesWithinReach]
  literal := literal_missesWithinReach input
  assembled hc ha := by
    intro place hplace
    obtain ⟨b, hb, hplace⟩ := (ha.mem_events _).1 hplace
    obtain ⟨_, _, hmisses⟩ := hc.forall_mem b hb
    exact (hmisses place hplace).trans (ha.reach_le_of_mem hb)
  collapse ha := ha
  custom he := he.elim

end

namespace Exact

variable {size start bound : Nat} {a : Attempt}

lemma le_reach_of_mem_looks (ha : Exact size start bound a) (hm : MissesWithinReach start bound a) {place : Nat}
    (hplace : place ∈ a.looks) : place ≤ a.record.reach := by
  rcases Attempt.mem_looks.1 hplace with hread | hmiss
  · exact (ha.lt_reach place hread).le
  · exact hm place hmiss

/-- From the first place on, the farthest look is at the reach or at the place before it. -/
lemma farthestLook_eq (ha : Exact size 0 bound a) (hm : MissesWithinReach 0 bound a) :
    a.farthestLook = if a.record.reach ∈ a.looks then a.record.reach else a.record.reach - 1 := by
  apply Nat.le_antisymm
  · refine Finset.sup_le fun place hplace => ?_
    have hle := ha.le_reach_of_mem_looks hm hplace
    split
    · exact hle
    · rename_i hno
      exact Nat.le_sub_one_of_lt (hle.lt_of_ne fun heq => hno (heq ▸ hplace))
  · split
    · rename_i hlook
      exact Attempt.le_farthestLook hlook
    · rcases Nat.eq_zero_or_pos a.record.reach with hzero | hpos
      · rw [hzero]
        exact Nat.zero_le _
      · have hread := (ha.isGreatest_reads_of_start_lt hpos).1
        exact Attempt.le_farthestLook (Attempt.mem_looks.2 (.inl hread))

end Exact

/-! ### Diagnostics -/

namespace Diagnostic

/-- The diagnostic points at the place and shows what is there: a character, or that the text ends. -/
structure PointsAt (d : Diagnostic) (text : Array Char) (place : Nat) : Prop where
  reachedAt_eq : d.reachedAt = place
  found_eq : d.found = text[place]?
  found_eq_none_iff : d.found = none ↔ place = text.size

lemma examined_eq {e : Extent} (h : e.stop ≤ e.reach) :
    examined e = if e.stop = e.reach then e.reach else e.reach - 1 := by
  rw [examined]
  rcases h.eq_or_lt with heq | hlt
  · rw [if_neg (Nat.not_lt.2 heq.ge), if_pos heq, heq]
  · rw [if_pos hlt, if_neg hlt.ne]

lemma pointsAt_iff {r : Record} {text : Array Char} {place : Nat} (h : place ≤ text.size) :
    (ofRecord r text).PointsAt text place ↔ examined r.extent = place := by
  constructor
  · exact fun hpoints => hpoints.reachedAt_eq
  · intro heq
    have hfound : (ofRecord r text).found = text[place]? := congrArg (text[·]?) heq
    refine ⟨heq, hfound, ?_⟩
    rw [hfound, Array.getElem?_eq_none_iff]
    exact ⟨fun hsize => h.antisymm hsize, Eq.ge⟩

end Diagnostic

/-- A diagnostic of a match over a whole text points at the farthest place where a character was looked for, and shows
what is there, if and only if nothing was read, or else the attempt stops as far as it reaches exactly when it looked
there. In any case it points at most one place away. -/
theorem run_diagnostic_pointsAt_iff {g : Grammar Char} {p : Pattern Char} {text : Array Char} {steps : Nat}
    {a : Attempt} (hg : g.EditFree) (hp : p.EditFree) (h : g.run text steps p 0 text.size = some a) :
    ((Diagnostic.ofRecord a.record text).PointsAt text a.farthestLook ↔
      a.record.reach = 0 ∨ (a.record.stop = a.record.reach ↔ a.record.reach ∈ a.looks)) ∧
    (Diagnostic.ofRecord a.record text).reachedAt ≤ a.farthestLook + 1 ∧
    a.farthestLook ≤ (Diagnostic.ofRecord a.record text).reachedAt + 1 := by
  have ha : Exact text.size 0 text.size a := (heritable_exact text).run_meets hg hp steps h
  have hm : MissesWithinReach 0 text.size a := (heritable_missesWithinReach text).run_meets hg hp steps h
  -- the farthest look is at the reach, where it failed there, or just before it, where it read a character
  have hfarthest := ha.farthestLook_eq hm
  have hexamined : Diagnostic.examined a.record.extent =
      if a.record.stop = a.record.reach then a.record.reach else a.record.reach - 1 :=
    Diagnostic.examined_eq ha.framing.stop_le_reach
  have hreach : a.record.reach ≤ text.size := by
    simpa using ha.framing.reach_le
  have hreachedAt : (Diagnostic.ofRecord a.record text).reachedAt = Diagnostic.examined a.record.extent := rfl
  have hsize : a.farthestLook ≤ text.size := by
    rw [hfarthest]
    split <;> omega
  rw [Diagnostic.pointsAt_iff hsize, hreachedAt, hexamined, hfarthest]
  by_cases hlook : a.record.reach ∈ a.looks
  · -- a look at the reach itself found no character there
    by_cases hstop : a.record.stop = a.record.reach
    · simp [hlook, hstop]
    · simp only [hlook, hstop, if_true, if_false, iff_true, or_false]
      omega
  · by_cases hstop : a.record.stop = a.record.reach
    · simp only [hlook, hstop, if_true, if_false, iff_false, not_true_eq_false, or_false]
      omega
    · simp only [hlook, hstop, if_false, iff_self, or_true, true_and]
      omega

/-- The second parenthesis is not closed. That is found out beyond the place where the attempt stops, and the diagnostic
shows what stands there instead. -/
theorem parens_diagnostic_pointsAt :
    ∃ a, Grammar.parens.run #['(', '(', 'x'] 4 (.concat [.plain (.hole 0), .plain (.one ')')]) 0 3 = some a ∧
      ¬a.success ∧ a.record.stop = 1 ∧ a.farthestLook = 2 ∧
      (Diagnostic.ofRecord a.record #['(', '(', 'x']).PointsAt #['(', '(', 'x'] a.farthestLook := by
  have hrun : (Grammar.parens.run #['(', '(', 'x'] 4 (.concat [.plain (.hole 0), .plain (.one ')')]) 0 3).any
      (fun a => !a.success && a.record.stop = 1 && a.record.reach = 3 && a.farthestLook = 2) := by decide +kernel
  obtain ⟨a, ha, htold⟩ := (Option.any_eq_true _ _).1 hrun
  simp only [Bool.and_eq_true, Bool.not_eq_true', decide_eq_true_eq] at htold
  obtain ⟨⟨⟨hfail, hstop⟩, hreach⟩, hfarthest⟩ := htold
  have hp : (Pattern.concat [.plain (.hole 0), .plain (.one ')')]).EditFree := by
    simp [Pattern.EditFree, Pattern.one, Keyed.plain]
  have hlook : a.record.reach ∉ a.looks := by
    intro hlook
    have := Attempt.le_farthestLook hlook
    omega
  have hstay : a.record.stop ≠ a.record.reach := by omega
  refine ⟨a, ha, by simp [hfail], hstop, hfarthest, ?_⟩
  exact (run_diagnostic_pointsAt_iff Grammar.editFree_parens hp ha).1.2 (.inr (iff_of_false hstay hlook))

/-- A single character is refused, and the diagnostic tells of the end of the text behind it. Two alternatives fail, the
first one at the end of the text, and the diagnostic shows the character before that. -/
theorem farthestLook_not_shown :
    (∃ a, Grammar.parens.run #['b'] 0 (.one 'a') 0 1 = some a ∧ ¬a.success ∧ a.farthestLook = 0 ∧
      (Diagnostic.ofRecord a.record #['b']).reachedAt = 1 ∧ (Diagnostic.ofRecord a.record #['b']).found = none) ∧
    ∃ a, Grammar.parens.run #['a'] 0 (.choice [.plain (.text "ab"), .plain (.one 'c')]) 0 1 = some a ∧ ¬a.success ∧
      a.farthestLook = 1 ∧ (Diagnostic.ofRecord a.record #['a']).reachedAt = 0 ∧
      (Diagnostic.ofRecord a.record #['a']).found = some 'a' := by
  constructor
  · have hrun : (Grammar.parens.run #['b'] 0 (.one 'a') 0 1).any (fun a => !a.success && a.farthestLook = 0 &&
        (Diagnostic.ofRecord a.record #['b']).reachedAt = 1 && (Diagnostic.ofRecord a.record #['b']).found = none) := by
      decide +kernel
    simpa [Option.any_eq_true, and_assoc] using hrun
  · have hrun : (Grammar.parens.run #['a'] 0 (.choice [.plain (.text "ab"), .plain (.one 'c')]) 0 1).any
        (fun a => !a.success && a.farthestLook = 1 && (Diagnostic.ofRecord a.record #['a']).reachedAt = 0 &&
          (Diagnostic.ofRecord a.record #['a']).found = some 'a') := by
      decide +kernel
    simpa [Option.any_eq_true, and_assoc] using hrun

end PegTrace
