import PegTrace.Proofs.Shorthand.Writing

/-!
# Faults that stay and faults that go away

A fault is found at a character, or only where the text ends. What is found at a character stays, whatever follows, and
the only character that is ever called unexpected is the one that is being read: so that fault is final
(`unexpectedChar_final`). What is found at the end may go away if the text goes on. A group, a literal or a set that is
not closed can always be closed there.

One fault of that kind is found at a character, however: the delimiter of a set right after the two dots of a range. The
set is then said not to be closed, and nothing that follows can close it (`unclosed_closable_iff`).
-/

namespace PegTrace.Shorthand

/-! ### Faults at a character -/

/-- Two dots of a range are read, and the character is the delimiter of the set. -/
def State.CutsRange (s : State) (c : Char) : Prop :=
  ∃ q negated scan, s.mode = .inSet q negated scan ∧ scan.dots = .two ∧ scan.delimiter = c

/-- What can be wrong with the next character. -/
def Fault.FoundAt (s : State) (c : Char) : Fault → Prop
  | unexpectedChar d => d = c
  | unclosedSet => s.CutsRange c
  | unclosedGroup | unclosedLiteral => False
  | unexpectedEnd | invalidNumber | invalidBounds => True

/-- If there is a fault, it is one of these. -/
def Blames {β : Type} (P : Fault → Prop) (result : Except Fault β) : Prop :=
  ∀ fault, result = .error fault → P fault

namespace Blames

variable {β γ : Type} {P : Fault → Prop}

lemma ok (value : β) : Blames P (.ok value) := by
  rintro _ ⟨⟩

lemma error {fault : Fault} (h : P fault) : Blames P (.error fault : Except Fault β) := by
  rintro _ ⟨⟩
  exact h

lemma bind {result : Except Fault β} {f : β → Except Fault γ} (h : Blames P result) (hf : ∀ value, Blames P (f value)) :
    Blames P (result >>= f) := by
  cases result with
  | error fault => exact .error (h fault rfl)
  | ok value => exact hf value

end Blames

section Steps

variable {s : State} {c : Char}

lemma appendDigit_blames (n : Nat) (d : Char) : Blames (Fault.FoundAt s c) (appendDigit n d) := by
  simp only [appendDigit]
  split_ifs
  · exact .ok _
  · exact .error trivial

lemma boundsQuantifier_blames (least most : Option Nat) :
    Blames (Fault.FoundAt s c) (boundsQuantifier least most) := by
  unfold boundsQuantifier
  split
  · exact .ok _
  · exact .ok _
  · exact .ok _
  · split_ifs
    · exact .ok _
    · exact .error trivial

lemma readSetLetter_blames (q : Quantifier) (negated : Bool) :
    Blames (Fault.FoundAt s c) (readSetLetter s q negated c) := by
  unfold readSetLetter
  split_ifs
  · exact .ok _
  · split
    · exact .ok _
    · exact .error rfl

lemma readElement_blames (q : Quantifier) : Blames (Fault.FoundAt s c) (readElement s q c) := by
  unfold readElement
  split_ifs
  · exact .ok _
  · exact .ok _
  · exact .ok _
  · exact readSetLetter_blames q false
  · exact .error rfl

lemma closeGroup_blames (hc : c = ')') : Blames (Fault.FoundAt s c) (closeGroup s) := by
  unfold closeGroup
  split
  · exact .error hc.symm
  · exact .ok _

lemma readReady_blames : Blames (Fault.FoundAt s c) (readReady s c) := by
  unfold readReady
  split_ifs with _ _ hclose
  · exact .ok _
  · exact .ok _
  · exact closeGroup_blames hclose
  · exact .ok _
  · exact .ok _
  · exact .ok _
  · exact .ok _
  · exact (appendDigit_blames 0 c).bind fun n => .ok _
  · exact readElement_blames .once

lemma readQuantified_blames (q : Quantifier) : Blames (Fault.FoundAt s c) (readQuantified s q c) := by
  unfold readQuantified
  split_ifs
  · exact .ok _
  · exact .error trivial
  · exact readElement_blames q

lemma readCount_blames (n : Nat) : Blames (Fault.FoundAt s c) (readCount s n c) := by
  unfold readCount
  split_ifs
  · exact (appendDigit_blames n c).bind fun m => .ok _
  · exact readQuantified_blames (.exactly n)

lemma readBounds_blames (b : Bounds) : Blames (Fault.FoundAt s c) (readBounds s b c) := by
  cases b with
  | opened =>
    simp only [readBounds]
    split_ifs
    · exact .ok _
    · exact .error trivial
    · exact .error trivial
    · exact (appendDigit_blames 0 c).bind fun n => .ok _
    · exact .error trivial
  | first n =>
    simp only [readBounds]
    split_ifs
    · exact .ok _
    · exact .ok _
    · exact (appendDigit_blames n c).bind fun m => .ok _
    · exact .error trivial
  | comma least =>
    simp only [readBounds]
    split_ifs
    · exact (boundsQuantifier_blames least none).bind fun q => .ok _
    · exact (appendDigit_blames 0 c).bind fun n => .ok _
    · exact .error trivial
  | second least n =>
    simp only [readBounds]
    split_ifs
    · exact (boundsQuantifier_blames least (some n)).bind fun q => .ok _
    · exact (appendDigit_blames n c).bind fun m => .ok _
    · exact .error trivial

/-- A set is given up only for its delimiter, where the last character of a range should stand. -/
lemma readSet_blames {q : Quantifier} {negated : Bool} {scan : SetScan} (hs : s.mode = .inSet q negated scan) :
    Blames (Fault.FoundAt s c) (readSet s q negated scan c) := by
  unfold readSet
  split
  · split_ifs
    · exact .ok _
    · exact .ok _
  · split_ifs
    · exact .ok _
    · exact .ok _
  · rename_i hdots
    split_ifs with hc
    · exact .error ⟨q, negated, scan, hs, hdots, hc.symm⟩
    · exact .ok _

/-- What a step may find wrong with a character. -/
lemma step_blames (s : State) (c : Char) : Blames (Fault.FoundAt s c) (step s c) := by
  unfold step
  split
  · exact readReady_blames
  · exact readQuantified_blames _
  · exact readCount_blames _
  · exact readBounds_blames _
  · exact readSetLetter_blames _ true
  · exact .ok _
  · rename_i hs
    exact readSet_blames hs
  · exact .ok _

lemma State.CutsRange.step_eq (h : s.CutsRange c) : step s c = .error .unclosedSet := by
  obtain ⟨q, negated, scan, hs, hdots, rfl⟩ := h
  simp [step, hs, readSet, hdots]

end Steps

/-! ### Faults on the way and faults at the end -/

variable {s : State} {text : List Char} {fault : Fault}

/-- Reading stops at the first character with which something is wrong. -/
lemma exists_step_of_advance_eq_error (h : advance s text = .error fault) : ∃ before c after s',
    text = before ++ c :: after ∧ Reads s before s' ∧ step s' c = .error fault := by
  induction text generalizing s with
  | nil => cases h
  | cons c text ih =>
    rw [advance, List.foldlM_cons] at h
    cases hstep : step s c with
    | error fault' =>
      rw [hstep] at h
      cases h
      exact ⟨[], c, text, s, rfl, .refl s, hstep⟩
    | ok s' =>
      rw [hstep] at h
      obtain ⟨before, d, after, s'', rfl, hreads, hd⟩ := ih h
      exact ⟨c :: before, d, after, s'', rfl, .cons hstep hreads, hd⟩

lemma Reads.advance_eq {before : List Char} {s' : State} {c : Char} (h : Reads s before s')
    (hc : step s' c = .error fault) (after : List Char) : advance s (before ++ c :: after) = .error fault := by
  unfold Reads advance at h
  rw [advance, List.foldlM_append, h]
  change List.foldlM step s' (c :: after) = _
  rw [List.foldlM_cons, hc]
  rfl

/-- A text with a fault is read up to the fault, or it is read to its end and must not end there. -/
lemma parse_eq_error_cases (h : parse text = .error fault) :
    (∃ before c after s, text = before ++ c :: after ∧ Reads {} before s ∧ step s c = .error fault) ∨
    ∃ s, Reads {} text s ∧ finish s = .error fault := by
  rw [parse] at h
  cases hread : advance {} text with
  | error fault' =>
    rw [hread] at h
    cases h
    exact .inl (exists_step_of_advance_eq_error hread)
  | ok s =>
    rw [hread] at h
    exact .inr ⟨s, hread, h⟩

/-- What is found at a character stays. -/
lemma Reads.parse_eq {before : List Char} {c : Char} (h : Reads {} before s) (hc : step s c = .error fault)
    (after : List Char) : parse (before ++ c :: after) = .error fault := by
  rw [parse, h.advance_eq hc]
  rfl

/-- No character is called unexpected because the text ends. -/
lemma finish_ne_unexpectedChar (s : State) (c : Char) : finish s ≠ .error (.unexpectedChar c) := by
  unfold finish
  split
  case h_1 => split_ifs <;> simp
  all_goals simp

/-- A character that is unexpected is one of the text, and it stays unexpected whatever follows. -/
theorem unexpectedChar_final {c : Char} (h : parse text = .error (.unexpectedChar c)) :
    c ∈ text ∧ ∀ more, parse (text ++ more) = .error (.unexpectedChar c) := by
  rcases parse_eq_error_cases h with ⟨before, d, after, s, rfl, hreads, hd⟩ | ⟨s, _, hfinish⟩
  · have hcd : c = d := step_blames s d _ hd
    refine ⟨by simp [hcd], fun more => ?_⟩
    rw [List.append_assoc, List.cons_append]
    exact hreads.parse_eq hd (after ++ more)
  · exact absurd hfinish (finish_ne_unexpectedChar s c)

/-- The letter of no class, in an open group with a quantifier before it; it stays even if the group is closed. -/
theorem letter_unexpectedChar_final :
    parse ['(', '2', '-', 'Q', ' ', '['] = .error (.unexpectedChar 'Q') ∧ 'Q' ∈ ['(', '2', '-', 'Q', ' ', '['] ∧
    ∀ more, parse (['(', '2', '-', 'Q', ' ', '['] ++ more) = .error (.unexpectedChar 'Q') := by
  have h : parse ['(', '2', '-', 'Q', ' ', '['] = .error (.unexpectedChar 'Q') := rfl
  exact ⟨h, unexpectedChar_final h⟩

/-! ### Closing what is open -/

/-- A group, a literal or a set is not closed. -/
def Fault.IsUnclosed : Fault → Prop
  | unclosedGroup | unclosedLiteral | unclosedSet => True
  | _ => False

/-- Somewhere in the text, the delimiter of a set comes right after the two dots of a range. -/
def RangeCutShort (text : List Char) : Prop :=
  ∃ before c after s, text = before ++ c :: after ∧ Reads {} before s ∧ s.CutsRange c

lemma RangeCutShort.parse_append_eq (h : RangeCutShort text) (more : List Char) :
    parse (text ++ more) = .error .unclosedSet := by
  obtain ⟨before, c, after, s, rfl, hreads, hcut⟩ := h
  rw [List.append_assoc, List.cons_append]
  exact hreads.parse_eq hcut.step_eq (after ++ more)

/-- Between items, open groups are closed by as many parentheses. -/
lemma exists_finish_of_ready (hs : s.mode = .ready) :
    ∃ more s' compound, Reads s more s' ∧ finish s' = .ok compound := by
  obtain ⟨groups, level, mode⟩ := s
  obtain rfl : mode = .ready := hs
  induction groups generalizing level with
  | nil => exact ⟨[], _, level.close, .refl _, rfl⟩
  | cons g groups ih =>
    obtain ⟨more, s', compound, hreads, hfinish⟩ := ih (g.outer.push ⟨g.quantifier, .group level.close⟩)
    exact ⟨')' :: more, s', compound, .cons rfl hreads, hfinish⟩

/-- Some character is neither a dot nor the delimiter. -/
lemma exists_plain_char (delimiter : Char) : ∃ c, c ≠ '.' ∧ c ≠ delimiter := by
  by_cases h : delimiter = 'a'
  · exact ⟨'b', by decide, by simp [h]⟩
  · exact ⟨'a', by decide, Ne.symm h⟩

/-- A character that is neither is read in every set, and settles the dots before it. -/
lemma exists_step_of_plain_char (q : Quantifier) (negated : Bool) (scan : SetScan) {c : Char} (hdot : c ≠ '.')
    (hc : c ≠ scan.delimiter) : ∃ scan',
      step (s.enter (.inSet q negated scan)) c = .ok (s.enter (.inSet q negated scan')) ∧ scan'.dots = .none := by
  rw [step_inSet, readSet]
  cases hdots : scan.dots with
  | none =>
    refine ⟨scan.push c, ?_, rfl⟩
    simp [readPlain, hdot, hc]
  | one =>
    have hpush : (scan.push '.').delimiter = scan.delimiter := rfl
    refine ⟨(scan.push '.').push c, ?_, rfl⟩
    simp [readPlain, hdot, hc, hpush]
  | two => exact ⟨_, if_neg hc, rfl⟩

lemma exists_ready_of_inSet {q : Quantifier} {negated : Bool} {scan : SetScan} (hs : s.mode = .inSet q negated scan) :
    ∃ more s', Reads s more s' ∧ s'.mode = .ready := by
  obtain ⟨c, hdot, hc⟩ := exists_plain_char scan.delimiter
  obtain ⟨scan', hstep, hdots⟩ := exists_step_of_plain_char (s := s) q negated scan hdot hc
  have hself : s.enter (.inSet q negated scan) = s := by
    rw [← hs]
    rfl
  rw [hself] at hstep
  have hend : step (s.enter (.inSet q negated scan')) scan'.delimiter =
      .ok (s.add q (.set (.custom scan'.settled.reverse) negated)) := by
    rw [step_inSet, readSet, hdots]
    simp [readPlain]
  exact ⟨[c, scan'.delimiter], _, .cons hstep (.single hend), rfl⟩

lemma exists_ready_of_inLiteral {q : Quantifier} {quote : Char} {done : List Char}
    (hs : s.mode = .inLiteral q quote done) : ∃ more s', Reads s more s' ∧ s'.mode = .ready := by
  refine ⟨[quote], s.add q (.literal done.reverse (quote = '\x27')), .single ?_, rfl⟩
  simp [step, hs, readLiteral]

/-- What is not closed where the text ends can be closed, and all groups around it after that. -/
lemma exists_finish_of_isUnclosed (hfinish : finish s = .error fault) (hfault : fault.IsUnclosed) :
    ∃ more s' compound, Reads s more s' ∧ finish s' = .ok compound := by
  -- an open set or literal is closed first, and what is left open are groups
  have hready : ∃ more s', Reads s more s' ∧ s'.mode = .ready := by
    rw [finish] at hfinish
    cases hs : s.mode with
    | ready => exact ⟨[], s, .refl s, hs⟩
    | inSet q negated scan => exact exists_ready_of_inSet hs
    | inLiteral q quote done => exact exists_ready_of_inLiteral hs
    | quantified | count | minus | setOpen =>
      -- what is unfinished here is not a matter of closing, and the fault is another one
      rw [hs] at hfinish
      cases hfinish
      exact hfault.elim
    | bounds b =>
      rw [hs] at hfinish
      cases b <;> (cases hfinish; exact hfault.elim)
  obtain ⟨more, s', hreads, hs'⟩ := hready
  obtain ⟨more', s'', compound, hreads', hfinish'⟩ := exists_finish_of_ready hs'
  exact ⟨more ++ more', s'', compound, hreads.append hreads', hfinish'⟩

/-- A text of which something is said not to be closed can go on so that it is read, unless the fault is that the
delimiter of a set cuts a range short. -/
theorem unclosed_closable_iff (h : parse text = .error fault) (hfault : fault.IsUnclosed) :
    ((∃ more compound, parse (text ++ more) = .ok compound) ↔ ¬ RangeCutShort text) ∧
    (RangeCutShort text → fault = .unclosedSet ∧ ∀ more, parse (text ++ more) = .error .unclosedSet) := by
  refine ⟨⟨?_, fun hcut => ?_⟩, fun hcut => ⟨?_, hcut.parse_append_eq⟩⟩
  · rintro ⟨more, compound, hparse⟩ hcut
    rw [hcut.parse_append_eq] at hparse
    cases hparse
  · rcases parse_eq_error_cases h with ⟨before, c, after, s, rfl, hreads, hc⟩ | ⟨s, hreads, hfinish⟩
    · -- of what may be found at a character, only a range that is cut short counts as not closed
      have hfound := step_blames s c _ hc
      cases fault with
      | unclosedSet => exact absurd ⟨before, c, after, s, rfl, hreads, hfound⟩ hcut
      | unclosedGroup | unclosedLiteral => exact hfound.elim
      | unexpectedChar | unexpectedEnd | invalidNumber | invalidBounds => exact hfault.elim
    · obtain ⟨more, s', compound, hmore, hfinish'⟩ := exists_finish_of_isUnclosed hfinish hfault
      refine ⟨more, compound, ?_⟩
      have hread : advance {} (text ++ more) = .ok s' := hreads.append hmore
      rw [parse, hread]
      exact hfinish'
  · have hnil := hcut.parse_append_eq []
    rw [List.append_nil, h] at hnil
    cases hnil
    rfl

/-- A set in an open group ends after two dots. It can go on, with the last character of the range and the delimiter. -/
theorem openRange_closable_iff :
    parse ['?', '(', 'D', '/', 'a', '.', '.'] = .error .unclosedSet ∧ Fault.unclosedSet.IsUnclosed ∧
    ∃ more compound, parse (['?', '(', 'D', '/', 'a', '.', '.'] ++ more) = .ok compound := by
  have h : parse ['?', '(', 'D', '/', 'a', '.', '.'] = .error .unclosedSet := rfl
  refine ⟨h, trivial, (unclosed_closable_iff h trivial).1.2 fun hcut => ?_⟩
  have hclosed := hcut.parse_append_eq ['z', '/', ')']
  cases hclosed

/-- The delimiter comes right after the two dots: the set is said not to be closed, and no text can close it. -/
theorem cutRange_not_closable : parse ['D', '/', 'a', '.', '.', '/'] = .error .unclosedSet ∧
    Fault.unclosedSet.IsUnclosed ∧
    ¬ ∃ more compound, parse (['D', '/', 'a', '.', '.', '/'] ++ more) = .ok compound := by
  have hcut : RangeCutShort ['D', '/', 'a', '.', '.', '/'] :=
    ⟨['D', '/', 'a', '.', '.'], '/', [], _, rfl, rfl, _, _, _, rfl, rfl, rfl⟩
  refine ⟨rfl, trivial, ?_⟩
  rintro ⟨more, compound, hparse⟩
  rw [hcut.parse_append_eq] at hparse
  cases hparse

end PegTrace.Shorthand
