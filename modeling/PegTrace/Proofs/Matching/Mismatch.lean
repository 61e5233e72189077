import PegTrace.Proofs.Matching.SignedTests
import PegTrace.Proofs.Shorthand.Denotation

/-!
# Where a text stops

A text is matched character by character up to the first that differs. How many characters it has in common with the
input decides everything else: whether it matches, where it stops and how far it reaches, and which characters were
attempted (`run_text_stopsAtMismatch`). A character that differs is read and counts, so that a text that fails stops
after it, unless there was no character left to read.
-/

namespace PegTrace

/-! ### Common prefixes -/

/-- The longest common prefix of two lists has this length. -/
structure IsCommonLength {β : Type} (xs ys : List β) (n : Nat) : Prop where
  exists_prefix : ∃ zs, zs <+: xs ∧ zs <+: ys ∧ zs.length = n
  length_le : ∀ zs, zs <+: xs → zs <+: ys → zs.length ≤ n

namespace IsCommonLength

variable {β : Type} {x y : β} {xs ys : List β} {n n' : Nat}

lemma eq (h : IsCommonLength xs ys n) (h' : IsCommonLength xs ys n') : n = n' := by
  obtain ⟨zs, hxs, hys, rfl⟩ := h.exists_prefix
  obtain ⟨zs', hxs', hys', rfl⟩ := h'.exists_prefix
  exact Nat.le_antisymm (h'.length_le zs hxs hys) (h.length_le zs' hxs' hys')

lemma nil_left (ys : List β) : IsCommonLength [] ys 0 where
  exists_prefix := ⟨[], List.nil_prefix, List.nil_prefix, rfl⟩
  length_le := fun _ hxs _ => hxs.length_le

lemma nil_right (xs : List β) : IsCommonLength xs [] 0 where
  exists_prefix := ⟨[], List.nil_prefix, List.nil_prefix, rfl⟩
  length_le := fun _ _ hys => hys.length_le

lemma cons (h : IsCommonLength xs ys n) (x : β) : IsCommonLength (x :: xs) (x :: ys) (n + 1) where
  exists_prefix := by
    obtain ⟨zs, hxs, hys, rfl⟩ := h.exists_prefix
    exact ⟨x :: zs, List.cons_prefix_cons.2 ⟨rfl, hxs⟩, List.cons_prefix_cons.2 ⟨rfl, hys⟩, rfl⟩
  length_le := by
    intro zs hxs hys
    cases zs with
    | nil => exact Nat.zero_le _
    | cons z zs =>
      exact Nat.succ_le_succ (h.length_le zs (List.cons_prefix_cons.1 hxs).2 (List.cons_prefix_cons.1 hys).2)

lemma of_ne (h : x ≠ y) (xs ys : List β) : IsCommonLength (x :: xs) (y :: ys) 0 where
  exists_prefix := ⟨[], List.nil_prefix, List.nil_prefix, rfl⟩
  length_le := by
    intro zs hxs hys
    cases zs with
    | nil => exact Nat.le_refl 0
    | cons z zs => exact absurd ((List.cons_prefix_cons.1 hxs).1.symm.trans (List.cons_prefix_cons.1 hys).1) h

end IsCommonLength

/-! ### Stopping at a mismatch -/

/-- Where a text of the given length stops that has `common` characters in common with what stands before the bound:
at its end or, if it does not match, after the first character that differs, as far as there is one. -/
def mismatchStop (start bound length common : Nat) : Nat :=
  if common = length then start + common else min (start + common + 1) bound

lemma mismatchStop_succ (start bound length common : Nat) :
    mismatchStop start bound (length + 1) (common + 1) = mismatchStop (start + 1) bound length common := by
  simp only [mismatchStop, Nat.add_right_cancel_iff]
  rw [Nat.add_assoc start 1 common, Nat.add_comm 1 common, Nat.add_assoc start]

/-- The attempt at a text of the given length that has `common` characters in common with what stands before the
bound. -/
structure Attempt.StopsAtMismatch (a : Attempt) (start bound length common : Nat) : Prop where
  success_iff : a.success ↔ common = length
  stop_eq : a.record.stop = mismatchStop start bound length common
  reach_eq : a.record.reach = mismatchStop start bound length common
  /-- The characters in common were attempted, and the first that differs. -/
  starts_eq : a.record.children.map (·.value.start) = List.range' start (min (common + 1) length)

namespace Matcher

/-- The attempts at the characters of such a text. -/
structure TriesToMismatch (start bound length common : Nat) (tried : List (Keyed Attempt)) : Prop where
  all_success : tried.all (·.value.success) = decide (common = length)
  lastStop_eq : lastStop start tried = mismatchStop start bound length common
  reachOf_eq : reachOf start tried = mismatchStop start bound length common
  starts_eq : tried.map (·.value.record.start) = List.range' start (min (common + 1) length)

variable {α : Type} {start bound length common : Nat} {a : Attempt} {tried : List (Keyed Attempt)}

lemma triesToMismatch_nil (start bound : Nat) : TriesToMismatch start bound 0 0 [] where
  all_success := rfl
  lastStop_eq := rfl
  reachOf_eq := rfl
  starts_eq := rfl

/-- A character that differs, or the want of one, ends the attempts. -/
lemma triesToMismatch_of_failure (hs : ¬ a.success)
    (hextent : a.record.extent = ⟨start, min (start + 1) bound, min (start + 1) bound⟩) (hbound : start ≤ bound)
    (key : Option Key) (length : Nat) : TriesToMismatch start bound (length + 1) 0 [⟨key, a⟩] where
  all_success := by simp [hs]
  lastStop_eq := congrArg Extent.stop hextent
  reachOf_eq := by
    have hreach : a.record.reach = min (start + 1) bound := congrArg Extent.reach hextent
    have hle : start ≤ a.record.reach := hreach ▸ Nat.le_min.2 ⟨Nat.le_succ start, hbound⟩
    exact (Record.farthest_cons hle []).trans hreach
  starts_eq := by
    have hstart : a.record.start = start := congrArg Extent.start hextent
    simp [hstart]

/-- A character in common is one more. -/
lemma TriesToMismatch.cons (h : TriesToMismatch (start + 1) bound length common tried) :
    TriesToMismatch start bound (length + 1) (common + 1) (.plain (.reading start true) :: tried) where
  all_success := by simp [Keyed.plain, Attempt.reading, h.all_success]
  lastStop_eq := by
    rw [mismatchStop_succ, ← h.lastStop_eq, lastStop_cons]
    rfl
  reachOf_eq := by
    rw [mismatchStop_succ, ← h.reachOf_eq]
    exact Record.farthest_cons (r := (Attempt.reading start true).record) (Nat.le_succ start) _
  starts_eq := by
    rw [List.map_cons, h.starts_eq, Nat.add_min_add_right, List.range'_succ]
    rfl

lemma TriesToMismatch.attempt (h : TriesToMismatch start bound length common tried) (trace : Trace) :
    Attempt.StopsAtMismatch
      ⟨tried.all (·.value.success), .all (.covering start (lastStop start tried) (reachOf start tried))
        (.ofList (keyedRecords tried)), trace⟩ start bound length common where
  success_iff := by simp [h.all_success]
  stop_eq := h.lastStop_eq
  reach_eq := by
    rw [← Nat.max_self (mismatchStop start bound length common)]
    exact congrArg₂ max h.reachOf_eq h.lastStop_eq
  starts_eq := by
    rw [← h.starts_eq, Record.children, Roster.entries_ofList, keyedRecords, List.map_map]
    rfl

/-! ### Characters in turn -/

variable {m : Keyed Matcher}

lemma tryInSequence_cons_of_accepted (ha : m.value start bound = some a) (hs : a.success)
    (items : List (Keyed Matcher)) :
    tryInSequence bound start (m :: items) = (tryInSequence bound a.stop items).map (⟨m.key, a⟩ :: ·) := by
  rw [tryInSequence, ha, Option.bind_eq_bind, Option.bind_some, if_pos hs, Option.map_eq_bind]
  rfl

lemma tryInSequence_cons_of_refused (ha : m.value start bound = some a) (hs : ¬ a.success)
    (items : List (Keyed Matcher)) : tryInSequence bound start (m :: items) = some [⟨m.key, a⟩] := by
  rw [tryInSequence, ha, Option.bind_eq_bind, Option.bind_some, if_neg hs]
  rfl

variable [DecidableEq α] [LE α] [DecidableLE α] {input : Array α} {β : Type} [DecidableEq β] {view : α → β}
  {test : α → CharTest α}

/-- Where no character is left, none is in common. -/
lemma tryInSequence_exhausted (c : α) (chars : List α) (hstart : start ≤ bound) (hbound : bound ≤ input.size)
    (hslice : slice input start bound = []) :
    ∃ tried, tryInSequence bound start ((c :: chars).map fun c => .plain (literal input (test c))) = some tried ∧
      TriesToMismatch start bound (chars.length + 1) 0 tried := by
  have hmet : start = bound := by
    have hlength := length_slice input start bound
    rw [hslice, Nat.min_eq_left hbound] at hlength
    exact Nat.le_antisymm hstart (Nat.sub_eq_zero_iff_le.1 hlength.symm)
  have hnone : charAt? input start bound = none := by rw [← head?_slice, hslice, List.head?_nil]
  have ha := literal_of_charAt?_eq_none hnone (test c)
  have hmin : start = min (start + 1) bound := by omega
  refine ⟨_, tryInSequence_cons_of_refused ha Bool.false_ne_true _, ?_⟩
  refine triesToMismatch_of_failure Bool.false_ne_true ?_ hstart none chars.length
  rw [← hmin]
  rfl

/-- The characters are attempted in turn as long as they look the same. -/
lemma exists_tryInSequence_triesToMismatch (htest : ∀ c d, (test c).accepts d = decide (view d = view c))
    (chars : List α) (hstart : start ≤ bound) (hbound : bound ≤ input.size) :
    ∃ tried common, tryInSequence bound start (chars.map fun c => .plain (literal input (test c))) = some tried ∧
      IsCommonLength (chars.map view) ((slice input start bound).map view) common ∧
      TriesToMismatch start bound chars.length common tried := by
  induction chars generalizing start with
  | nil => exact ⟨[], 0, rfl, .nil_left _, triesToMismatch_nil start bound⟩
  | cons c chars ih =>
    cases hslice : slice input start bound with
    | nil =>
      -- no character is left before the bound: the next test fails there
      obtain ⟨tried, htried, htold⟩ := tryInSequence_exhausted c chars hstart hbound hslice
      exact ⟨tried, 0, htried, .nil_right _, htold⟩
    | cons d rest =>
      have hhead : charAt? input start bound = some d := by rw [← head?_slice, hslice, List.head?_cons]
      have hlt : start < bound := (charAt?_eq_some_iff.1 hhead).1
      have ha := literal_of_charAt? hhead (test c)
      by_cases hcd : view d = view c
      · rw [htest, decide_eq_true hcd] at ha
        obtain ⟨tried, common, htried, hcommon, htold⟩ := ih hlt
        refine ⟨.plain (.reading start true) :: tried, common + 1, ?_, ?_, htold.cons⟩
        · exact (tryInSequence_cons_of_accepted ha rfl _).trans (congrArg (Option.map _) htried)
        · rw [List.map_cons, List.map_cons, hcd, ← slice_succ_of_eq_cons hslice]
          exact hcommon.cons (view c)
      · -- the first character that differs is read and refused, and the sequence ends
        rw [htest, decide_eq_false hcd] at ha
        refine ⟨_, 0, tryInSequence_cons_of_refused ha Bool.false_ne_true _, .of_ne (Ne.symm hcd) _ _, ?_⟩
        refine triesToMismatch_of_failure Bool.false_ne_true ?_ hstart none chars.length
        rw [Nat.min_eq_left hlt]
        rfl

/-- A text of which each character is matched by a test of how it looks. -/
lemma exists_concat_stopsAtMismatch (htest : ∀ c d, (test c).accepts d = decide (view d = view c))
    (chars : List α) (hstart : start ≤ bound) (hbound : bound ≤ input.size) :
    ∃ a common, concat (chars.map fun c => .plain (literal input (test c))) start bound = some a ∧
      IsCommonLength (chars.map view) ((slice input start bound).map view) common ∧
      a.StopsAtMismatch start bound chars.length common := by
  obtain ⟨tried, common, htried, hcommon, htold⟩ := exists_tryInSequence_triesToMismatch htest chars hstart hbound
  refine ⟨_, common, ?_, hcommon, htold.attempt (traceOf tried)⟩
  rw [concat, htried]
  rfl

end Matcher

/-! ### Texts -/

lemma exists_run_sequence_stopsAtMismatch {α : Type} [DecidableEq α] [LE α] [DecidableLE α] (g : Grammar α)
    (chars : List α) {input : Array α} (steps : Nat) {start bound : Nat} (hstart : start ≤ bound)
    (hbound : bound ≤ input.size) :
    ∃ a common, g.run input steps (.sequence chars) start bound = some a ∧
      IsCommonLength chars (slice input start bound) common ∧
      a.StopsAtMismatch start bound chars.length common := by
  have htest : ∀ c d : α, (CharTest.equals c).accepts d = decide (id d = id c) := by
    intro c d
    simp [CharTest.accepts, eq_comm]
  obtain ⟨a, common, ha, hcommon, htold⟩ := Matcher.exists_concat_stopsAtMismatch htest chars hstart hbound
  rw [List.map_id, List.map_id] at hcommon
  refine ⟨a, common, ?_, hcommon, htold⟩
  rw [← ha, Grammar.run, Pattern.sequence, Pattern.matcher, Pattern.matchers_eq_map, List.map_map]
  rfl

lemma exists_run_textIgnoringCase_stopsAtMismatch (g : Grammar Char) (text : String) {input : Array Char} (steps : Nat)
    {start bound : Nat} (hstart : start ≤ bound) (hbound : bound ≤ input.size) :
    ∃ a common, g.run input steps (.textIgnoringCase text) start bound = some a ∧
      IsCommonLength (text.toList.map Char.toLower) ((slice input start bound).map Char.toLower) common ∧
      a.StopsAtMismatch start bound text.toList.length common := by
  choose test hliteral htest using Shorthand.letterPattern_eq_literal true
  obtain ⟨a, common, ha, htold⟩ := Matcher.exists_concat_stopsAtMismatch htest text.toList hstart hbound
  refine ⟨a, common, ?_, htold⟩
  rw [← ha, Grammar.run, Pattern.textIgnoringCase, Pattern.matcher, Pattern.matchers_eq_map, List.map_map]
  congr 2
  funext c
  have hc : Pattern.oneIgnoringCase c = .literal (test c) := hliteral c
  simp only [Function.comp_apply, Keyed.plain, Keyed.map, hc]
  rfl

lemma toLower_eq_toLower_iff_of_not_isAlpha {c : Char} (hc : ¬ c.isAlpha) (d : Char) :
    d.toLower = c.toLower ↔ d = c := by
  rw [Char.isAlpha, Bool.or_eq_true, not_or] at hc
  rw [Shorthand.toLower_eq_toLower_iff, Char.toLower_eq_of_not_isUpper hc.1, Char.toUpper_eq_of_not_isLower hc.2,
    or_self]

/-- Let a sequence of characters have so many in common with the input between `start` and `bound`, counted from the
front. It matches if these are all its characters; it stops after them or, if it fails, one later, though not beyond the
bound, and reaches no further; and its parts are the attempts at them and at the next one, if there is one. The same
holds of a text and, up to the case of plain Latin letters alone, of a text of which case is ignored. -/
theorem run_text_stopsAtMismatch {start bound : Nat} (hstart : start ≤ bound) (steps : Nat) :
    (∀ {α : Type} [DecidableEq α] [LE α] [DecidableLE α] (g : Grammar α) (chars : List α) {input : Array α},
      bound ≤ input.size →
        ∃ a common, g.run input steps (.sequence chars) start bound = some a ∧
          IsCommonLength chars (slice input start bound) common ∧
          a.StopsAtMismatch start bound chars.length common) ∧
    (∀ (g : Grammar Char) (text : String) {input : Array Char}, bound ≤ input.size →
      (∃ a common, g.run input steps (.text text) start bound = some a ∧
        IsCommonLength text.toList (slice input start bound) common ∧
        a.StopsAtMismatch start bound text.toList.length common) ∧
      ∃ a common, g.run input steps (.textIgnoringCase text) start bound = some a ∧
        IsCommonLength (text.toList.map Char.toLower) ((slice input start bound).map Char.toLower) common ∧
        a.StopsAtMismatch start bound text.toList.length common) ∧
    ∀ c d : Char, ¬ c.isAlpha → (d.toLower = c.toLower ↔ d = c) := by
  refine ⟨?_, ?_, ?_⟩
  · intro α _ _ _ g chars input hbound
    exact exists_run_sequence_stopsAtMismatch g chars steps hstart hbound
  · intro g text input hbound
    exact ⟨exists_run_sequence_stopsAtMismatch g text.toList steps hstart hbound,
      exists_run_textIgnoringCase_stopsAtMismatch g text steps hstart hbound⟩
  · intro c d hc
    exact toLower_eq_toLower_iff_of_not_isAlpha hc d

/-- The last letter has no plain case to ignore and differs, so it is the last character that is read. -/
theorem accented_stopsAtMismatch :
    ∃ a, ({} : Grammar Char).run #['x', 'A', 'b', 'É'] 0 (.textIgnoringCase "aBé") 1 4 = some a ∧
      ¬ a.success ∧ a.record.stop = 4 ∧ a.record.children.map (·.value.start) = [1, 2, 3] := by
  have hbound : 4 ≤ #['x', 'A', 'b', 'É'].size := by decide
  obtain ⟨-, a, common, ha, hcommon, htold⟩ :=
    (run_text_stopsAtMismatch (show 1 ≤ 4 by decide) 0).2.1 {} "aBé" hbound
  have htwo : IsCommonLength ['a', 'b', 'é'] ['a', 'b', 'É'] 2 :=
    ((IsCommonLength.of_ne (by decide) [] []).cons 'b').cons 'a'
  obtain rfl := hcommon.eq htwo
  exact ⟨a, ha, fun hs => absurd (htold.success_iff.1 hs) (by decide), htold.stop_eq, htold.starts_eq⟩

end PegTrace
