import PegTrace.Proofs.Matching.Parts
import PegTrace.Proofs.Record.Framed
import PegTrace.Record.Edit

/-!
# Every attempt leaves a framed record

Whatever a pattern matches or fails to match from `start` with a bound, its record is framed from `start` up to the
bound and the end of the input, whichever comes first (`run_cursors_ordered`). Edits are allowed if they keep records
framed.
-/

namespace PegTrace

/-- The record of the attempt is framed from its start up to its bound and the end of an input of the given size. -/
def Framing (size start bound : Nat) (a : Attempt) : Prop :=
  a.record.Framed start (max start (min bound size))

/-- The edit keeps every record framed, for every start and bound on an input of the given size. -/
def Record.KeepsFrames (size : Nat) (edit : Record → Record) : Prop :=
  ∀ ⦃start bound : Nat⦄ ⦃r : Record⦄, r.Framed start (max start (min bound size)) →
    (edit r).Framed start (max start (min bound size))

/-! ### Parts within the whole -/

/-- Parts that start no earlier than `low` and are bounded by `high` are framed between the two. -/
lemma Course.framed {size low high : Nat} {places bounds : List Nat} {parts : List Attempt}
    (h : Course (Framing size) places bounds parts) (hp : ∀ place ∈ places, low ≤ place ∧ place ≤ high)
    (hb : ∀ bound ∈ bounds, min bound size ≤ high) :
    ∀ b ∈ parts, ∃ start, low ≤ start ∧ b.record.Framed start high := by
  induction h with
  | nil => simp
  | @cons places bounds start bound a later hs hbound ha _ ih =>
    have hframed : a.record.Framed start high :=
      ha.mono (Nat.max_le.2 ⟨(hp start hs).2, hb bound hbound⟩)
    have hstop : low ≤ a.stop ∧ a.stop ≤ high :=
      ⟨(hp start hs).1.trans hframed.start_le_stop, hframed.stop_le_reach.trans hframed.reach_le⟩
    rw [List.forall_mem_cons]
    refine ⟨⟨start, (hp start hs).1, hframed⟩, ih ?_ ?_⟩
    · rw [List.forall_mem_cons]
      exact ⟨hstop, hp⟩
    · rw [List.forall_mem_cons]
      exact ⟨(Nat.min_le_left _ _).trans hstop.2, hb⟩

/-- Every part of an attempt is framed between the start of the whole and its limit. -/
lemma Course.framed_of_start {size start bound : Nat} {parts : List Attempt}
    (h : Course (Framing size) [start] [bound] parts) :
    ∀ b ∈ parts, ∃ s, start ≤ s ∧ b.record.Framed s (max start (min bound size)) := by
  refine h.framed ?_ ?_
  · simp
  · simp

/-- What is assembled from framed parts is framed. -/
lemma Attempt.Assembled.framed {a : Attempt} {start high : Nat} {parts : List Attempt}
    (ha : a.Assembled start parts) (hhigh : start ≤ high)
    (hparts : ∀ b ∈ parts, ∃ s, start ≤ s ∧ b.record.Framed s high) : a.record.Framed start high := by
  -- the stop is the start or that of a part, and a part starts no earlier
  have hstop : start ≤ a.stop ∧ a.stop ≤ high := by
    rcases List.mem_cons.1 ha.stop_mem with heq | hmem
    · exact ⟨heq.ge, heq.trans_le hhigh⟩
    · obtain ⟨b, hb, heq⟩ := List.mem_map.1 hmem
      obtain ⟨s, hs, hframed⟩ := hparts b hb
      rw [← heq]
      exact ⟨hs.trans hframed.start_le_stop, hframed.stop_le_reach.trans hframed.reach_le⟩
  refine ⟨ha.start_eq, ?_, (Record.forall_mem_walk_iff (Extent.Within · start a.record.reach) _).2 ⟨?_, ?_⟩⟩
  · rw [ha.reach_eq, Nat.max_le, Record.farthest_le_iff]
    refine ⟨⟨hhigh, ?_⟩, hstop.2⟩
    intro r hr
    obtain ⟨b, hb, rfl⟩ := List.mem_map.1 hr
    obtain ⟨s, _, hframed⟩ := hparts b hb
    exact hframed.reach_le
  · refine ⟨ha.start_eq.ge, ha.start_eq.trans_le hstop.1, ?_, Nat.le_refl _⟩
    exact (Nat.le_max_right _ _).trans_eq ha.reach_eq.symm
  · intro c hc
    obtain ⟨b, hb, heq⟩ := List.mem_map.1 (ha.child_mem c hc)
    obtain ⟨s, hs, hframed⟩ := hparts b hb
    rw [← heq]
    exact fun n hn => (hframed.within n hn).mono hs (ha.reach_le_of_mem hb)

/-! ### Every attempt -/

variable {α : Type} [DecidableEq α] [LE α] [DecidableLE α]

lemma heritable_framing (input : Array α) :
    Heritable input (Record.KeepsFrames input.size) (Framing input.size) where
  unbound := by
    intro start bound a h
    cases h
    exact .span (Nat.le_refl _) (Nat.le_refl _) (Nat.le_max_left _ _)
  literal test := by
    intro start bound a h
    simp only [Matcher.literal] at h
    split at h
    · cases h
      exact .span (Nat.le_refl _) (Nat.le_refl _) (Nat.le_max_left _ _)
    · -- a character is taken only before the bound and before the end of the input
      rename_i c hc
      cases h
      obtain ⟨hbound, hc⟩ := Matcher.charAt?_eq_some_iff.1 hc
      have hsize : start < input.size := (Array.getElem?_eq_some_iff.1 hc).1
      exact .span (Nat.le_succ _) (Nat.le_refl _) ((Nat.lt_min.2 ⟨hbound, hsize⟩).trans_le (Nat.le_max_right _ _))
  assembled hc ha := ha.framed (Nat.le_max_left _ _) hc.framed_of_start
  collapse ha := .span ha.start_le_stop ha.stop_le_reach ha.reach_le
  custom he ha := he ha

/-- Every attempt of a pattern without edits leaves a framed record. -/
lemma Grammar.EditFree.run_framing {g : Grammar α} (hg : g.EditFree) {p : Pattern α} (hp : p.EditFree)
    (input : Array α) (steps : Nat) : (g.run input steps p).Meets (Framing input.size) :=
  (heritable_framing input).run_meets (fun _ _ h => (hg h).mono fun _ => False.elim)
    (hp.mono fun _ => False.elim) steps

/-- The record of an attempt starts where the attempt started, and the cursors of every record in it are in order:
none lies before that start, none beyond the reach of the whole, and none beyond the bound or the end of the input.
Nothing is asked of patterns without edits; edits must keep records framed. -/
theorem run_cursors_ordered {g : Grammar α} {p : Pattern α} {input : Array α} {steps start bound : Nat}
    {a : Attempt} (hg : g.AllEdits (Record.KeepsFrames input.size))
    (hp : p.AllEdits (Record.KeepsFrames input.size)) (h : g.run input steps p start bound = some a) :
    a.record.start = start ∧ ∀ n ∈ a.record.walk,
      a.record.start ≤ n.extent.start ∧ n.extent.start ≤ n.extent.stop ∧
      n.extent.stop ≤ n.extent.reach ∧ n.extent.reach ≤ max start (min bound input.size) ∧
      n.extent.reach ≤ a.record.reach := by
  have hframed : a.record.Framed start (max start (min bound input.size)) :=
    (heritable_framing input).run_meets hg hp steps h
  refine ⟨hframed.start_eq, fun n hn => ?_⟩
  have hn := hframed.within n hn
  rw [hframed.start_eq]
  exact ⟨hn.low_le_start, hn.start_le_stop, hn.stop_le_reach, hn.reach_le_high.trans hframed.reach_le,
    hn.reach_le_high⟩

lemma Record.keepsFrames_flattened (size : Nat) : KeepsFrames size flattened := by
  intro start bound r h
  have hextent : r.flattened = .span ⟨start, r.stop, r.reach⟩ := by
    rw [← h.start_eq]
    rfl
  rw [hextent]
  exact .span h.start_le_stop h.stop_le_reach h.reach_le

/-- Parentheses in parentheses, with a record that is flattened at each level. -/
def nestedParens : Grammar Char where
  bodies := #[some (.optional (.concat
    [.plain (.one '('), .named "inner" (.custom (.hole 0) Record.flattened), .plain (.one ')')]))]

lemma nestedParens_allEdits (size : Nat) : nestedParens.AllEdits (Record.KeepsFrames size) := by
  intro id body h
  match id with
  | 0 =>
    cases h
    simp [Pattern.optional, Pattern.one, Keyed.plain, Keyed.named, Record.keepsFrames_flattened]
  | id + 1 => simp [Grammar.body?, nestedParens] at h

/-- A parenthesis is missing within the bound, and the hole that is tried last has no body. -/
theorem nestedParens_cursors_ordered :
    ∃ a, nestedParens.run #['(', '(', ')', 'x'] 4 (.concat [.plain (.hole 0), .plain (.hole 1)]) 0 3 = some a ∧
      a.record.start = 0 ∧ ∀ n ∈ a.record.walk,
        a.record.start ≤ n.extent.start ∧ n.extent.start ≤ n.extent.stop ∧
        n.extent.stop ≤ n.extent.reach ∧ n.extent.reach ≤ max 0 (min 3 4) ∧
        n.extent.reach ≤ a.record.reach := by
  obtain ⟨a, ha⟩ := Option.isSome_iff_exists.1 (show (nestedParens.run #['(', '(', ')', 'x'] 4
    (.concat [.plain (.hole 0), .plain (.hole 1)]) 0 3).isSome by decide +kernel)
  exact ⟨a, ha, run_cursors_ordered (nestedParens_allEdits _) (by simp [Keyed.plain]) ha⟩

end PegTrace
