import PegTrace.Proofs.Document.Tokens

/-!
# The slashes of a document

A document reads on as long as every slash belongs to a label, and stops at the first one that does not
(`document_stops_at_slash`). Whether a slash belongs to a label can be told from the characters around it (`BadSlash`):
there has to be a tag after it and a word before it, which must not be the tag of the label before.

The proof goes along the boundaries between tokens. No slash before a boundary is bad, a slash at a boundary is, and
a word that was taken for a tag does not go on as one beyond the boundary (`Boundary`).
-/

namespace PegTrace.Document

open Text

/-! ### Characters -/

lemma isWordChar_of_toNat {c : Char} (hlow : 0x20 < c.toNat) (hhigh : c.toNat < 0x85) (hslash : c.toNat ≠ 0x2F) :
    isWordChar c := by
  have hblank : isBlank c = false := by
    simp only [isBlank, blank, RangeTable.contains, RangeTable.holds, Bool.and_eq_false_iff, Bool.or_eq_false_iff,
      decide_eq_false_iff_not]
    omega
  have hne : c ≠ '/' := by
    rintro rfl
    exact hslash rfl
  simp [isWordChar, hblank, hne]

/-- A tag may always be read as a word. -/
lemma isWordChar_of_isTagChar {c : Char} (h : isTagChar c) : isWordChar c := by
  simp only [isTagChar, isDigit_eq, Bool.or_eq_true, Bool.and_eq_true, decide_eq_true_eq] at h
  rcases h with (((⟨hlow, hhigh⟩ | ⟨hlow, hhigh⟩) | rfl) | rfl) | rfl
  · have hlow : 0x41 ≤ c.toNat := hlow
    have hhigh : c.toNat ≤ 0x5A := hhigh
    exact isWordChar_of_toNat (by omega) (by omega) (by omega)
  · have hlow : 0x30 ≤ c.toNat := hlow
    have hhigh : c.toNat ≤ 0x39 := hhigh
    exact isWordChar_of_toNat (by omega) (by omega) (by omega)
  · decide
  · decide
  · decide

lemma isWordChar_of_isDigit {c : Char} (h : c.isDigit) : isWordChar c := by
  apply isWordChar_of_isTagChar
  simp [isTagChar, h]

lemma forall_isWordChar_sign {sign : List Char} (h : sign = [] ∨ sign = ['+'] ∨ sign = ['-']) :
    ∀ c ∈ sign, isWordChar c := by
  rcases h with rfl | rfl | rfl
  · simp
  · rw [List.forall_mem_singleton]
    decide
  · rw [List.forall_mem_singleton]
    decide

lemma ne_slash_of_isWordChar {c : Char} (h : isWordChar c) : c ≠ '/' := by
  rintro rfl
  simp [isWordChar] at h

/-! ### Looking back -/

/-- What a text holds up to a place. -/
def behind (text : Array Char) (place : Nat) : List Char :=
  text.toList.take place

/-- The longest run of characters of a word that ends at a place. -/
def wordBehind (text : Array Char) (place : Nat) : List Char :=
  (behind text place).rtakeWhile isWordChar

/-- The character right before that run. -/
def beforeWord (text : Array Char) (place : Nat) : Option Char :=
  ((behind text place).rdropWhile isWordChar).getLast?

/-- Behind the place there is nothing but a tag back to a slash. -/
def EndsTag (text : Array Char) (place : Nat) : Prop :=
  beforeWord text place = some '/' ∧ ∀ c ∈ wordBehind text place, isTagChar c

/-- A slash that has no tag after it or no word before it, or the word is itself the tag after a slash. -/
def BadSlash (text : Array Char) (place : Nat) : Prop :=
  text[place]? = some '/' ∧
    ((∀ c ∈ text[place + 1]?, ¬ isTagChar c) ∨ wordBehind text place = [] ∨ EndsTag text place)

instance (text : Array Char) (place : Nat) : Decidable (EndsTag text place) :=
  decidable_of_iff (beforeWord text place = some '/' ∧ (wordBehind text place).all isTagChar) (by simp [EndsTag])

-- Decided as it stands, the property would be tried on all characters there are.
instance (text : Array Char) (place : Nat) : Decidable (BadSlash text place) :=
  decidable_of_iff (text[place]? = some '/' ∧
    (text[place + 1]?.all (fun c => !isTagChar c) ∨ wordBehind text place = [] ∨ EndsTag text place))
    (by simp [BadSlash, Option.all_eq_true])

variable {text : Array Char} {start place : Nat} {run rest : List Char}

lemma behind_add (h : ahead text start = run ++ rest) :
    behind text (start + run.length) = behind text start ++ run := by
  rw [behind, List.take_add]
  exact congrArg (behind text start ++ ·) ((congrArg (List.take run.length) h).trans List.take_left)

lemma behind_succ {c : Char} (h : ahead text start = c :: rest) : behind text (start + 1) = behind text start ++ [c] :=
  behind_add (show ahead text start = [c] ++ rest from h)

lemma rtakeWhile_append_of_forall {l : List Char} (hrun : ∀ c ∈ run, isWordChar c) :
    (l ++ run).rtakeWhile isWordChar = l.rtakeWhile isWordChar ++ run := by
  rw [List.rtakeWhile, List.reverse_append, List.takeWhile_append_of_pos (by simpa using hrun), List.reverse_append,
    List.reverse_reverse, List.rtakeWhile]

lemma rdropWhile_append_of_forall {l : List Char} (hrun : ∀ c ∈ run, isWordChar c) :
    (l ++ run).rdropWhile isWordChar = l.rdropWhile isWordChar := by
  rw [List.rdropWhile, List.reverse_append, List.dropWhile_append_of_pos (by simpa using hrun), List.rdropWhile]

/-- A run of characters of a word adds to the word behind it. -/
lemma wordBehind_add (h : ahead text start = run ++ rest) (hrun : ∀ c ∈ run, isWordChar c) :
    wordBehind text (start + run.length) = wordBehind text start ++ run := by
  rw [wordBehind, behind_add h, rtakeWhile_append_of_forall hrun, wordBehind]

lemma beforeWord_add (h : ahead text start = run ++ rest) (hrun : ∀ c ∈ run, isWordChar c) :
    beforeWord text (start + run.length) = beforeWord text start := by
  rw [beforeWord, behind_add h, rdropWhile_append_of_forall hrun, beforeWord]

/-- After a character that no word may hold a word begins anew. -/
lemma wordBehind_succ {c : Char} (h : ahead text start = c :: rest) (hc : ¬ isWordChar c) :
    wordBehind text (start + 1) = [] := by
  rw [wordBehind, behind_succ h, List.rtakeWhile_concat_neg _ _ _ hc]

lemma beforeWord_succ {c : Char} (h : ahead text start = c :: rest) (hc : ¬ isWordChar c) :
    beforeWord text (start + 1) = some c := by
  rw [beforeWord, behind_succ h, List.rdropWhile_concat_neg _ _ _ hc, List.getLast?_concat]

/-! ### Boundaries -/

/-- What is known at a boundary between tokens. -/
structure Boundary (text : Array Char) (place : Nat) : Prop where
  not_badSlash : ∀ i < place, ¬ BadSlash text i
  badSlash : text[place]? = some '/' → BadSlash text place
  endsTag : EndsTag text place → ∀ c ∈ text[place]?, ¬ isTagChar c

lemma boundary_zero (text : Array Char) : Boundary text 0 where
  not_badSlash i hi := absurd hi (Nat.not_lt_zero i)
  badSlash h := ⟨h, .inr (.inl rfl)⟩
  endsTag h := by
    cases h.1

/-- The tag of a label does not go on in a word that begins at a boundary. -/
lemma Boundary.not_endsTag (h : Boundary text start) (hahead : ahead text start = run ++ rest) (hne : run ≠ [])
    (hrun : ∀ c ∈ run, isWordChar c) : ¬ EndsTag text (start + run.length) := by
  rintro ⟨hbefore, htag⟩
  rw [wordBehind_add hahead hrun] at htag
  rw [beforeWord_add hahead hrun] at hbefore
  obtain ⟨c, run, rfl⟩ := List.exists_cons_of_ne_nil hne
  have hc : text[start]? = some c := by
    rw [← head?_ahead, hahead]
    rfl
  -- if a tag ended behind the run, one would have ended before it and gone on in the run
  apply h.endsTag ⟨hbefore, ?_⟩ c hc
  · exact htag c (List.mem_append_right _ List.mem_cons_self)
  · intro d hd
    exact htag d (List.mem_append_left _ hd)

/-- The characters of a run are found in the text. -/
lemma getElem?_of_ahead (hahead : ahead text start = run ++ rest) {i : Nat} (hstart : start ≤ i)
    (hi : i < start + run.length) : ∃ c ∈ run, text[i]? = some c := by
  obtain ⟨k, rfl⟩ := Nat.exists_eq_add_of_le hstart
  have hk : k < run.length := by omega
  refine ⟨run[k], List.getElem_mem hk, ?_⟩
  have hget : (ahead text start)[k]? = some run[k] := by
    rw [hahead, List.getElem?_append_left hk, List.getElem?_eq_getElem hk]
  rw [ahead, List.getElem?_drop, Array.getElem?_toList] at hget
  exact hget

/-- A run without slashes adds none that is bad. -/
lemma Boundary.not_badSlash_add (h : Boundary text start) (hahead : ahead text start = run ++ rest)
    (hslash : '/' ∉ run) : ∀ i < start + run.length, ¬ BadSlash text i := by
  intro i hi hbad
  rcases Nat.lt_or_ge i start with hlt | hge
  · exact h.not_badSlash i hlt hbad
  · obtain ⟨c, hc, hget⟩ := getElem?_of_ahead hahead hge hi
    rw [hbad.1] at hget
    cases hget
    exact hslash hc

lemma Boundary.whitespace (h : Boundary text start) (hahead : ahead text start = run ++ rest) (hne : run ≠ [])
    (hrun : ∀ c ∈ run, isBlank c) : Boundary text (start + run.length) := by
  have hblank : isBlank '/' = false := by decide
  have hslash : '/' ∉ run := by
    intro hmem
    have hslashblank := hrun _ hmem
    rw [hblank] at hslashblank
    cases hslashblank
  obtain ⟨init, b, rfl⟩ := (List.eq_nil_or_concat' run).resolve_left hne
  have hlast : ahead text (start + init.length) = b :: rest := by
    apply ahead_add
    simpa using hahead
  have hb : ¬ isWordChar b := by
    simp [isWordChar, hrun b (by simp)]
  have hplace : start + (init ++ [b]).length = start + init.length + 1 := by simp [Nat.add_assoc]
  refine ⟨h.not_badSlash_add hahead hslash, ?_, ?_⟩
  · intro hget
    rw [hplace] at hget ⊢
    exact ⟨hget, .inr (.inl (wordBehind_succ hlast hb))⟩
  · intro hends
    rw [hplace, EndsTag, beforeWord_succ hlast hb] at hends
    cases hends.1
    simp at hslash

/-- The text after a word or a number that is not the beginning of a label. -/
lemma Boundary.word (h : Boundary text start) (hahead : ahead text start = run ++ rest) (hne : run ≠ [])
    (hrun : ∀ c ∈ run, isWordChar c) (hlabel : ¬ BeginsLabel (ahead text start)) :
    Boundary text (start + run.length) where
  not_badSlash := by
    apply h.not_badSlash_add hahead
    intro hmem
    exact ne_slash_of_isWordChar (hrun _ hmem) rfl
  badSlash hslash := by
    refine ⟨hslash, .inl ?_⟩
    intro c hc htag
    apply hlabel
    have hrest : rest = '/' :: c :: ahead text (start + run.length + 1 + 1) := by
      rw [← ahead_add hahead, ahead, drop_of_getElem? hslash, drop_of_getElem? hc, ahead]
    exact ⟨run, c, _, hrest ▸ hahead, hne, hrun, htag⟩
  endsTag hends := absurd hends (h.not_endsTag hahead hne hrun)

/-- The slash of a label has a tag after it and a word before it that is no tag. -/
lemma Boundary.not_badSlash_label {c : Char} (h : Boundary text start)
    (hahead : ahead text start = run ++ '/' :: c :: rest) (hne : run ≠ []) (hrun : ∀ d ∈ run, isWordChar d)
    (hc : isTagChar c) : ¬ BadSlash text (start + run.length) := by
  rintro ⟨-, hafter | hbefore | hends⟩
  · apply hafter c _ hc
    rw [Option.mem_def, ← head?_ahead, ahead_succ (ahead_add hahead)]
    rfl
  · rw [wordBehind_add hahead hrun] at hbefore
    exact hne (List.append_eq_nil_iff.1 hbefore).2
  · exact h.not_endsTag hahead hne hrun hends

lemma Boundary.label {tag : List Char} (h : Boundary text start) (hahead : ahead text start = run ++ '/' :: tag ++ rest)
    (hne : run ≠ []) (hrun : ∀ c ∈ run, isWordChar c) (htag : Leads isTagChar tag rest) :
    Boundary text (start + (run ++ '/' :: tag).length) := by
  rw [List.append_assoc, List.cons_append] at hahead
  have hslash : ahead text (start + run.length) = '/' :: (tag ++ rest) := ahead_add hahead
  have hnext : ahead text (start + run.length + 1) = tag ++ rest := ahead_succ hslash
  have hnotword : ¬ isWordChar '/' := by simp [isWordChar]
  have htagword : ∀ c ∈ tag, isWordChar c := fun c hc => isWordChar_of_isTagChar (htag.holds_of_mem c hc)
  have hplace : start + (run ++ '/' :: tag).length = start + run.length + 1 + tag.length := by
    rw [List.length_append, List.length_cons]
    omega
  rw [hplace]
  refine ⟨?_, ?_, ?_⟩
  · intro i hi hbad
    rcases Nat.lt_trichotomy i (start + run.length) with hlt | rfl | hgt
    · apply h.not_badSlash_add hahead _ i hlt hbad
      intro hmem
      exact ne_slash_of_isWordChar (hrun _ hmem) rfl
    · obtain ⟨c, tag, rfl⟩ := List.exists_cons_of_ne_nil htag.ne_nil
      exact h.not_badSlash_label hahead hne hrun (htag.holds_of_mem c List.mem_cons_self) hbad
    · obtain ⟨c, hc, hget⟩ := getElem?_of_ahead hnext hgt hi
      rw [hbad.1] at hget
      cases hget
      exact ne_slash_of_isWordChar (htagword _ hc) rfl
  · intro hget
    -- The word behind the place is the tag, and it begins after the slash of the label.
    refine ⟨hget, .inr (.inr ⟨?_, ?_⟩)⟩
    · rw [beforeWord_add hnext htagword, beforeWord_succ hslash hnotword]
    · rw [wordBehind_add hnext htagword, wordBehind_succ hslash hnotword]
      exact htag.holds_of_mem
  · intro _
    rw [← head?_ahead, ahead_add hnext]
    exact htag.ends

/-- A token leads from one boundary to the next. -/
lemma Boundary.lexeme {kind : TokenKind} {content : List Char} {tag : Option (List Char)} (h : Boundary text start)
    (hlexeme : Lexeme kind content tag rest) (hahead : ahead text start = spelling content tag ++ rest)
    (hlabel : kind ≠ .label → ¬ BeginsLabel (ahead text start)) :
    Boundary text (start + (spelling content tag).length) := by
  cases hlexeme with
  | whitespace hrun => exact h.whitespace hahead hrun.ne_nil hrun.holds_of_mem
  | @number sign digits _ hsign hrun =>
    refine h.word hahead (List.append_ne_nil_of_right_ne_nil _ hrun.ne_nil) ?_ (hlabel (by decide))
    rw [spelling, List.forall_mem_append]
    exact ⟨forall_isWordChar_sign hsign, fun c hc => isWordChar_of_isDigit (hrun.holds_of_mem c hc)⟩
  | word hrun _ => exact h.word hahead hrun.ne_nil hrun.holds_of_mem (hlabel (by decide))
  | label hne hword htag => exact h.label hahead hne hword htag

lemma Boundary.cut {ts : List Token} {stop : Nat} (hcut : Cut text start ts stop) (h : Boundary text start) :
    Boundary text stop := by
  induction hcut with
  | nil => exact h
  | cons ht _ ih =>
    apply ih
    rw [ht.stop_eq]
    exact h.lexeme ht.lexeme ht.ahead_eq ht.not_beginsLabel

/-! ### The stop of the document -/

/-- Where no token begins, the text is at its end or at a slash. -/
lemma getElem?_of_tokenStop_eq_none (h : tokenStop text place = none) :
    text[place]? = none ∨ text[place]? = some '/' := by
  simp only [tokenStop, Recogniser.orElse, Option.or_eq_none_iff, runStop_eq_none_iff, head?_ahead] at h
  obtain ⟨hblank, -, -, hword⟩ := h
  cases hget : text[place]? with
  | none => exact .inl rfl
  | some c =>
    have hblank := hblank c hget
    have hword := hword c hget
    right
    simpa [isWordChar, hblank] using hword

/-- A boundary where no token begins is the first bad slash, or the end of a text without one. -/
lemma Boundary.isLeast_or_eq_size (h : Boundary text place) (hsize : place ≤ text.size)
    (hnone : tokenStop text place = none) :
    (text[place]? = some '/' ∧ IsLeast {i | BadSlash text i} place) ∨
      (place = text.size ∧ ∀ i, ¬ BadSlash text i) := by
  rcases getElem?_of_tokenStop_eq_none hnone with hend | hslash
  · have heq : place = text.size := Nat.le_antisymm hsize (Array.getElem?_eq_none_iff.1 hend)
    refine .inr ⟨heq, ?_⟩
    intro i hbad
    apply h.not_badSlash i _ hbad
    rw [heq]
    exact (Array.getElem?_eq_some_iff.1 hbad.1).1
  · -- the slash that stops the document is bad, and up to it there was no other
    refine .inl ⟨hslash, h.badSlash hslash, ?_⟩
    intro i hbad
    by_contra hlt
    exact h.not_badSlash i (Nat.lt_of_not_le hlt) hbad

/-- A document stops at the first bad slash or, when there is none, at the end of the text. So the whole of the text is
a document exactly when no slash of it is bad, and otherwise there is a slash where it stops. -/
theorem document_stops_at_slash (text : Array Char) :
    ∃ a, Grammar.matcher {} text document 0 text.size = some a ∧
      ((∃ i, BadSlash text i) → IsLeast {i | BadSlash text i} a.record.stop) ∧
      ((∀ i, ¬ BadSlash text i) → a.record.stop = text.size) ∧
      ∃ b, matchRule document text = some b ∧ b.record.stop = a.record.stop ∧
        (b.success ↔ ∀ i, ¬ BadSlash text i) ∧ (¬ b.success → text[b.record.stop]? = some '/') := by
  obtain ⟨a, e, items, ha, hs, -, -, hcut, hsize, hnone⟩ := document_cut text
  have hboundary : Boundary text a.stop := (boundary_zero text).cut hcut
  have hwhole : matchRule document text = some { a with success := a.covers text.size } := by
    rw [matchRule, Search.matchWhole, ha]
    rfl
  -- the whole matches exactly if the document reads all of the text
  have hcovers : a.covers text.size ↔ a.stop = text.size := by
    simp [Attempt.covers, hs]
  rcases hboundary.isLeast_or_eq_size hsize hnone with ⟨hslash, hleast⟩ | ⟨hend, hgood⟩
  · have hshort : a.stop ≠ text.size := by
      intro hend
      rw [hend] at hslash
      simp at hslash
    refine ⟨a, ha, fun _ => hleast, fun hgood => absurd hleast.1 (hgood _), _, hwhole, rfl, ?_, fun _ => hslash⟩
    rw [hcovers]
    exact iff_of_false hshort fun hgood => hgood _ hleast.1
  · have hfull : a.covers text.size := hcovers.2 hend
    refine ⟨a, ha, ?_, fun _ => hend, _, hwhole, rfl, iff_of_true hfull hgood, fun hfail => absurd hfull hfail⟩
    rintro ⟨i, hbad⟩
    exact absurd hbad (hgood i)

/-- The tag of a label is not the word of another, but what comes after the tag is. -/
example : BadSlash #['a', '/', 'B', '/', 'C'] 3 ∧ ¬ BadSlash #['a', '/', 'B', 'x', '/', 'C'] 4 := by
  decide +kernel

end PegTrace.Document
