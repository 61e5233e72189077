import Mathlib
import PegTrace.Diagnostic
import PegTrace.Proofs.Matching.Framing
import PegTrace.Proofs.Text.Position

/-!
# The reach is exact

The reach of an attempt is one past the farthest character that any part of it read, or its start if none was read.
Most of the parts that read far leave nothing in the record, so the characters are those of the trace. A limit that no
part starts or reads beyond is not passed by the reach of a part, nor by a stop where another part starts
(`Course.reach_le`). A diagnostic that looks beyond the stop shows the farthest character that was read
(`run_reach_exact`).
-/

namespace PegTrace

/-- The places of the characters that the attempt read. -/
def Attempt.reads (a : Attempt) : Finset Nat :=
  (a.trace.events.filterMap fun
    | .read place => some place
    | .exhausted _ | .unbound _ => none).toFinset

lemma Attempt.mem_reads {a : Attempt} {place : Nat} : place ∈ a.reads ↔ .read place ∈ a.trace.events := by
  rw [reads, List.mem_toFinset, List.mem_filterMap]
  constructor
  · rintro ⟨e, he, hplace⟩
    cases e with
    | read q =>
      cases hplace
      exact he
    | exhausted q => cases hplace
    | unbound q => cases hplace
  · intro h
    exact ⟨.read place, h, rfl⟩

lemma Attempt.Assembled.mem_reads {a : Attempt} {start : Nat} {parts : List Attempt} (ha : a.Assembled start parts)
    {place : Nat} : place ∈ a.reads ↔ ∃ b ∈ parts, place ∈ b.reads := by
  simp only [Attempt.mem_reads]
  exact ha.mem_events _

/-- The attempt is framed, reads nothing outside its frame, and reaches no farther than its start and the characters
that it read account for. -/
structure Exact (size start bound : Nat) (a : Attempt) : Prop where
  framing : Framing size start bound a
  start_le : ∀ place ∈ a.reads, a.record.start ≤ place
  lt_reach : ∀ place ∈ a.reads, place < a.record.reach
  reach_le : ∀ limit, start ≤ limit → (∀ place ∈ a.reads, place < limit) → a.record.reach ≤ limit

/-! ### Parts and wholes -/

/-- No part reaches beyond a limit if none starts or reads beyond it. -/
lemma Course.reach_le {size limit : Nat} {places bounds : List Nat} {parts : List Attempt}
    (h : Course (Exact size) places bounds parts) (hp : ∀ place ∈ places, place ≤ limit)
    (hr : ∀ b ∈ parts, ∀ place ∈ b.reads, place < limit) : ∀ b ∈ parts, b.record.reach ≤ limit := by
  induction h with
  | nil => simp
  | @cons places bounds start bound a later hs _ ha _ ih =>
    rw [List.forall_mem_cons] at hr ⊢
    have hreach : a.record.reach ≤ limit := ha.reach_le limit (hp start hs) hr.1
    refine ⟨hreach, ih ?_ hr.2⟩
    rw [List.forall_mem_cons]
    exact ⟨ha.framing.stop_le_reach.trans hreach, hp⟩

/-- What is assembled from parts that are exact is exact. -/
lemma Attempt.Assembled.exact {a : Attempt} {size start bound : Nat} {parts : List Attempt}
    (ha : a.Assembled start parts) (hc : Course (Exact size) [start] [bound] parts) :
    Exact size start bound a := by
  have hframed := (hc.imp fun _ _ _ h => h.framing).framed_of_start
  have hexact := hc.forall_mem
  refine ⟨ha.framed (Nat.le_max_left _ _) hframed, ?_, ?_, ?_⟩
  · intro place hplace
    obtain ⟨b, hb, hplace⟩ := ha.mem_reads.1 hplace
    obtain ⟨s, hs, hb'⟩ := hframed b hb
    obtain ⟨_, _, hbexact⟩ := hexact b hb
    rw [ha.start_eq]
    exact (hs.trans hb'.start_eq.ge).trans (hbexact.start_le place hplace)
  · intro place hplace
    obtain ⟨b, hb, hplace⟩ := ha.mem_reads.1 hplace
    obtain ⟨_, _, hbexact⟩ := hexact b hb
    exact (hbexact.lt_reach place hplace).trans_le (ha.reach_le_of_mem hb)
  · intro limit hstart hreads
    -- a limit above all the places read is above those of every part, and the parts are exact themselves
    have hparts : ∀ b ∈ parts, b.record.reach ≤ limit := by
      refine hc.reach_le (by simpa using hstart) fun b hb place hplace => ?_
      exact hreads place (ha.mem_reads.2 ⟨b, hb, hplace⟩)
    rw [ha.reach_eq, Nat.max_le, Record.farthest_le_iff]
    refine ⟨⟨hstart, List.forall_mem_map.2 hparts⟩, ?_⟩
    rcases List.mem_cons.1 ha.stop_mem with heq | hmem
    · exact heq.trans_le hstart
    · obtain ⟨b, hb, heq⟩ := List.mem_map.1 hmem
      obtain ⟨_, _, hbexact⟩ := hexact b hb
      rw [← heq]
      exact hbexact.framing.stop_le_reach.trans (hparts b hb)

/-! ### Every attempt -/

variable {α : Type} [DecidableEq α] [LE α] [DecidableLE α]

lemma literal_exact (input : Array α) (test : CharTest α) :
    (Matcher.literal input test).Meets (Exact input.size) := by
  intro start bound a h
  have hframing := (heritable_framing input).literal test h
  simp only [Matcher.literal] at h
  split at h
  · -- nothing to read at the bound or at the end
    cases h
    refine ⟨hframing, ?_, ?_, fun _ hstart _ => hstart⟩
    · simp [Attempt.mem_reads]
    · simp [Attempt.mem_reads]
  · -- the one character at the start is read, whether it passes or not
    cases h
    refine ⟨hframing, ?_, ?_, fun _ _ hreads => hreads start ?_⟩
    · intro place hplace
      obtain rfl : place = start := by simpa [Attempt.mem_reads] using hplace
      exact Nat.le_refl _
    · intro place hplace
      obtain rfl : place = start := by simpa [Attempt.mem_reads] using hplace
      exact Nat.lt_succ_self _
    · simp [Attempt.mem_reads]

lemma heritable_exact (input : Array α) : Heritable input (fun _ => False) (Exact input.size) where
  unbound := by
    intro start bound a h
    have hframing := (heritable_framing input).unbound h
    cases h
    refine ⟨hframing, ?_, ?_, fun _ hstart _ => hstart⟩
    · simp [Attempt.mem_reads]
    · simp [Attempt.mem_reads]
  literal := literal_exact input
  assembled hc ha := ha.exact hc
  collapse ha := {
    framing := (heritable_framing input).collapse ha.framing
    start_le := fun place hplace => ha.framing.start_eq.ge.trans (ha.start_le place hplace)
    lt_reach := ha.lt_reach
    reach_le := ha.reach_le }
  custom he := he.elim

lemma Exact.reach_eq {size start bound : Nat} {a : Attempt} (ha : Exact size start bound a) :
    a.record.reach = max start (a.reads.sup (· + 1)) := by
  apply Nat.le_antisymm
  · refine ha.reach_le _ (Nat.le_max_left _ _) fun place hplace => ?_
    exact Nat.le_trans (Finset.le_sup (f := (· + 1)) hplace) (Nat.le_max_right _ _)
  · rw [Nat.max_le]
    exact ⟨ha.framing.start_le_stop.trans ha.framing.stop_le_reach, Finset.sup_le ha.lt_reach⟩

/-- A character that was read is one of the input below the bound. -/
lemma Exact.lt_size {size start bound : Nat} {a : Attempt} (ha : Exact size start bound a) {place : Nat}
    (hplace : place ∈ a.reads) : start ≤ place ∧ place < min bound size := by
  have hstart : start ≤ place := ha.framing.start_eq.ge.trans (ha.start_le place hplace)
  have hreach := (ha.lt_reach place hplace).trans_le ha.framing.reach_le
  rcases lt_max_iff.1 hreach with hlt | hlt
  · exact absurd hstart (Nat.not_le.2 hlt)
  · exact ⟨hstart, hlt⟩

/-- A reach beyond the start is one past the farthest character that was read. -/
lemma Exact.isGreatest_reads_of_start_lt {size start bound : Nat} {a : Attempt} (ha : Exact size start bound a)
    (h : start < a.record.reach) : IsGreatest ↑a.reads (a.record.reach - 1) := by
  have hle : ∀ place ∈ a.reads, place ≤ a.record.reach - 1 := fun place hplace =>
    Nat.le_sub_one_of_lt (ha.lt_reach place hplace)
  refine ⟨?_, hle⟩
  by_contra hno
  -- otherwise a limit that is one less would do
  have hshort : a.record.reach ≤ a.record.reach - 1 := by
    refine ha.reach_le _ (Nat.le_sub_one_of_lt h) fun place hplace => ?_
    exact (hle place hplace).lt_of_ne fun heq => hno (heq ▸ hplace)
  omega

/-- So is a reach beyond the stop. -/
lemma Exact.isGreatest_reads {size start bound : Nat} {a : Attempt} (ha : Exact size start bound a)
    (h : a.record.stop < a.record.reach) : IsGreatest ↑a.reads (a.record.reach - 1) :=
  ha.isGreatest_reads_of_start_lt (ha.framing.start_le_stop.trans_lt h)

/-- The reach of an attempt is its start or one past the farthest character that was read on the way, and all characters
that were read lie between the start and the bound. If the reach is beyond the stop, a diagnostic over a text of the
length of the input, as the input itself if it is a text, points at the farthest character that was read, shows it, and
places it no earlier than the stop. -/
theorem run_reach_exact {g : Grammar α} {p : Pattern α} {input : Array α} {steps start bound : Nat} {a : Attempt}
    (hg : g.EditFree) (hp : p.EditFree) (h : g.run input steps p start bound = some a) :
    a.record.reach = max start (a.reads.sup (· + 1)) ∧
    (∀ place ∈ a.reads, start ≤ place ∧ place < min bound input.size) ∧
    (a.record.stop < a.record.reach → ∀ text : Array Char, text.size = input.size →
      ∃ place c, IsGreatest ↑a.reads place ∧ text[place]? = some c ∧
        (Diagnostic.ofRecord a.record text).reachedAt = place ∧
        (Diagnostic.ofRecord a.record text).found = some c ∧
        (Diagnostic.ofRecord a.record text).stopped ≤ (Diagnostic.ofRecord a.record text).reached) := by
  have ha : Exact input.size start bound a := (heritable_exact input).run_meets hg hp steps h
  refine ⟨ha.reach_eq, fun place hplace => ha.lt_size hplace, fun hreach text htext => ?_⟩
  have hgreatest := ha.isGreatest_reads hreach
  have hexamined : Diagnostic.examined a.record.extent = a.record.reach - 1 := if_pos hreach
  have hsize : a.record.reach - 1 < text.size := by
    rw [htext]
    exact (Nat.lt_min.1 (ha.lt_size hgreatest.1).2).2
  refine ⟨a.record.reach - 1, text[a.record.reach - 1], hgreatest, Array.getElem?_eq_getElem hsize, hexamined, ?_, ?_⟩
  · exact (congrArg (text[·]?) hexamined).trans (Array.getElem?_eq_getElem hsize)
  · simp only [Diagnostic.ofRecord, hexamined]
    exact Text.Position.ofIndex_mono _ (Nat.le_sub_one_of_lt hreach)

/-- A closing parenthesis is missing: the attempt gives up all that it read, and the diagnostic shows what stands in the
place of the parenthesis. -/
theorem parens_reach_exact :
    ∃ a, Grammar.parens.run #['(', '(', 'x'] 4 (.hole 0) 0 3 = some a ∧ a.record.stop < a.record.reach ∧
      ∃ place c, IsGreatest ↑a.reads place ∧ #['(', '(', 'x'][place]? = some c ∧
        (Diagnostic.ofRecord a.record #['(', '(', 'x']).reachedAt = place ∧
        (Diagnostic.ofRecord a.record #['(', '(', 'x']).found = some c ∧
        (Diagnostic.ofRecord a.record #['(', '(', 'x']).stopped ≤
          (Diagnostic.ofRecord a.record #['(', '(', 'x']).reached := by
  have hrun : (Grammar.parens.run #['(', '(', 'x'] 4 (.hole 0) 0 3).any
      (fun a => a.record.stop < a.record.reach) := by decide +kernel
  obtain ⟨a, ha, hreach⟩ := (Option.any_eq_true _ _).1 hrun
  have hreach := of_decide_eq_true hreach
  exact ⟨a, ha, hreach, (run_reach_exact Grammar.editFree_parens (.hole 0) ha).2.2 hreach _ rfl⟩

end PegTrace
