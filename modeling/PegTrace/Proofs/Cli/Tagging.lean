import PegTrace.Cli.Outcome
import PegTrace.Proofs.Document.Slashes

/-!
# What tagging writes

Each token of a document that is not blank is written on a line of its own, its text and its tag with a tab between
them. No token holds a blank, and tabs and line feeds are blanks: so the lines can be told apart, and the text and the
tag on each of them, whatever blanks there are between the tokens (`execute_tags`). Of a text that is no document
nothing is written.
-/

namespace PegTrace.Cli

open Text Document

/-! ### Fields -/

/-- The text of a token and what stands beside it: the tag of a label, or the name of another kind. -/
inductive Fields : Token → List (List Char) → Prop
  | label {start stop : Nat} {text tag : String} :
      Fields ⟨.label, start, stop, text, some tag⟩ [text.toList, tag.toList]
  | number {start stop : Nat} {text : String} : Fields ⟨.number, start, stop, text, none⟩ [text.toList, "NUM".toList]
  | word {start stop : Nat} {text : String} : Fields ⟨.word, start, stop, text, none⟩ [text.toList, "WORD".toList]

lemma not_mem_of_isBlank {l : List Char} {b : Char} (h : ∀ c ∈ l, isWordChar c) (hb : isBlank b) : b ∉ l := by
  intro hmem
  have hword := h b hmem
  simp [isWordChar, hb] at hword

/-- Only blank tokens hold blanks. -/
lemma forall_isWordChar_of_lexeme {kind : TokenKind} {content rest : List Char} {tag : Option (List Char)}
    (h : Lexeme kind content tag rest) (hkind : kind ≠ .whitespace) :
    (∀ c ∈ content, isWordChar c) ∧ ∀ chars ∈ tag, ∀ c ∈ chars, isWordChar c := by
  cases h with
  | whitespace => exact absurd rfl hkind
  | number hsign hdigits =>
    refine ⟨?_, by simp⟩
    rw [List.forall_mem_append]
    exact ⟨forall_isWordChar_sign hsign, fun c hc => isWordChar_of_isDigit (hdigits.holds_of_mem c hc)⟩
  | word hword => exact ⟨hword.holds_of_mem, by simp⟩
  | label _ hword htag =>
    refine ⟨hword, ?_⟩
    intro chars hchars c hc
    obtain rfl := Option.some.inj hchars
    exact isWordChar_of_isTagChar (htag.holds_of_mem c hc)

lemma forall_isWordChar_name (kind : TokenKind) : ∀ c ∈ kind.name.toList, isWordChar c := by
  rw [← List.all_eq_true]
  cases kind <;> decide

section Tokens

variable {text : Array Char} {t : Token}

/-- A token with its tag, or with what stands in for one. -/
lemma fields_of_stands (h : t.Stands text) (hkind : t.kind ≠ .whitespace) :
    Fields t [t.text.toList, (t.tag.getD t.kind.name).toList] := by
  have htag := h.lexeme.isSome_tag_iff
  obtain ⟨kind, start, stop, content, tag⟩ := t
  cases tag with
  | none =>
    cases kind with
    | whitespace => exact absurd rfl hkind
    | number => exact .number
    | word => exact .word
    | label => simp at htag
  | some tag =>
    obtain rfl : kind = .label := by simpa using htag
    exact .label

lemma forall_isWordChar_of_stands (h : t.Stands text) (hkind : t.kind ≠ .whitespace) :
    (∀ c ∈ t.text.toList, isWordChar c) ∧ ∀ c ∈ (t.tag.getD t.kind.name).toList, isWordChar c := by
  obtain ⟨hcontent, htag⟩ := forall_isWordChar_of_lexeme h.lexeme hkind
  refine ⟨hcontent, ?_⟩
  cases hsome : t.tag with
  | none => exact forall_isWordChar_name t.kind
  | some tag =>
    rw [hsome] at htag
    exact htag _ rfl

end Tokens

/-! ### Rows -/

/-- Fields without tabs, written with a tab between them, are told apart again. -/
lemma splitOn_tab {text tag : List Char} (htext : '\t' ∉ text) (htag : '\t' ∉ tag) :
    (text ++ '\t' :: tag).splitOn '\t' = [text, tag] := by
  rw [List.splitOn_append_cons_self_of_not_mem htext, List.splitOn_eq_singleton htag]

/-- Rows without line feeds, written with a line feed after each, are told apart again. -/
lemma splitOn_newline {rows : List (List Char)} (h : ∀ row ∈ rows, '\n' ∉ row) :
    (rows.flatMap (· ++ ['\n'])).splitOn '\n' = rows ++ [[]] := by
  induction rows with
  | nil => rfl
  | cons row rows ih =>
    rw [List.forall_mem_cons] at h
    rw [List.flatMap_cons, List.append_assoc, List.singleton_append,
      List.splitOn_append_cons_self_of_not_mem h.1, ih h.2, List.cons_append]

/-- The row of a token has no line feed and a single tab, which divides its fields. -/
structure Row (t : Token) (row : List Char) : Prop where
  newline_not_mem : '\n' ∉ row
  count_tab : row.count '\t' = 1
  fields : Fields t (row.splitOn '\t')

lemma row_tagged {text : Array Char} {t : Token} (h : t.Stands text) (hkind : t.kind ≠ .whitespace) :
    Row t t.tagged.toList := by
  obtain ⟨hcontent, htag⟩ := forall_isWordChar_of_stands h hkind
  have hrow : t.tagged.toList = t.text.toList ++ '\t' :: (t.tag.getD t.kind.name).toList := by simp [Token.tagged]
  have htab : isBlank '\t' := by decide
  have hnewline : isBlank '\n' := by decide
  rw [hrow]
  refine ⟨?_, ?_, ?_⟩
  · simp [not_mem_of_isBlank hcontent hnewline, not_mem_of_isBlank htag hnewline]
  · rw [List.count_append, List.count_cons_self, List.count_eq_zero.2 (not_mem_of_isBlank hcontent htab),
      List.count_eq_zero.2 (not_mem_of_isBlank htag htab)]
  · rw [splitOn_tab (not_mem_of_isBlank hcontent htab) (not_mem_of_isBlank htag htab)]
    exact fields_of_stands h hkind

lemma toList_writeTokens (ts : List Token) : (writeTokens ts).toList =
    ((ts.filter (·.kind ≠ .whitespace)).map fun t => t.tagged.toList).flatMap (· ++ ['\n']) := by
  simp [writeTokens, String.toList_join, List.flatMap_map]

/-! ### Whole documents -/

/-- Matching a document gives an answer. The tokens that are read off it stand in the text, and if the match succeeds
they are the whole of it. -/
lemma exists_matchRule (text : Array Char) :
    ∃ a, matchRule document text = some a ∧ (∀ t ∈ tokens a.record text, t.Stands text) ∧
      (a.success → (tokens a.record text).flatMap Token.written = text.toList) := by
  obtain ⟨a, -, -, ha, -, -, -, hcut, -⟩ := document_cut text
  refine ⟨{ a with success := a.covers text.size }, ?_, hcut.stands, ?_⟩
  · rw [matchRule, Search.matchWhole, ha]
    rfl
  · intro hcovers
    have hstop : a.stop = text.size := by simpa [Attempt.covers] using (Bool.and_eq_true_iff.1 hcovers).2
    rw [hcut.written_eq, hstop]
    exact List.take_length

section Runs

variable {options : Options} {source : Source} {text : List Char} {a : Attempt}

lemma execute_of_success (hpattern : options.pattern = none) (htree : options.tree = false)
    (htext : decode source = .ok text) (ha : matchRule document text.toArray = some a) (hs : a.success) :
    options.execute source = ⟨0, writeTokens (tokens a.record text.toArray),
      writeLogs options.verbosity [describeText text]⟩ := by
  have htag : tag options text = .ok { output := writeTokens (tokens a.record text.toArray) } := by
    rw [tag, ha, tagMatched, if_pos hs, htree]
    simp
  simp only [Options.execute, htext, hpattern, htag, String.append_empty]

lemma execute_of_failure (hpattern : options.pattern = none) (htext : decode source = .ok text)
    (ha : matchRule document text.toArray = some a) (hs : ¬ a.success) :
    options.execute source = ⟨1, "", writeLogs options.verbosity [describeText text] ++
      (Failure.notDocument (.ofRecord a.record text.toArray)).report⟩ := by
  have htag : tag options text = .error (.notDocument (.ofRecord a.record text.toArray)) := by
    rw [tag, ha, tagMatched, if_neg hs]
  simp only [Options.execute, htext, hpattern, htag]

end Runs

/-- Tagging cuts a document into tokens and writes a row for each that is not blank; the rows and their fields can be
read off what is written. Of a text that is no document nothing is written; the run fails and tells where the match
stopped. -/
theorem execute_tags {options : Options} {source : Source} {text : List Char} (hpattern : options.pattern = none)
    (htree : options.tree = false) (htext : decode source = .ok text) :
    ∃ a, matchRule document text.toArray = some a ∧
      (a.success → (options.execute source).status = 0 ∧
        (tokens a.record text.toArray).flatMap Token.written = text ∧
        ∃ rows, (options.execute source).output.toList.splitOn '\n' = rows ++ [[]] ∧
          (∀ row ∈ rows, row.count '\t' = 1) ∧
          List.Forall₂ Fields ((tokens a.record text.toArray).filter (·.kind ≠ .whitespace))
            (rows.map (·.splitOn '\t'))) ∧
      (¬ a.success → (options.execute source).status = 1 ∧ (options.execute source).output = "" ∧
        (options.execute source).errors = writeLogs options.verbosity [describeText text] ++
          ("Error: " ++ (Diagnostic.ofRecord a.record text.toArray).message ++ "\n")) := by
  obtain ⟨a, ha, hstands, hwhole⟩ := exists_matchRule text.toArray
  refine ⟨a, ha, ?_, ?_⟩
  · intro hs
    -- a token that is not blank is written as two fields with neither a tab nor a line break in them
    have hrows : ∀ t ∈ (tokens a.record text.toArray).filter (·.kind ≠ .whitespace), Row t t.tagged.toList := by
      intro t ht
      rw [List.mem_filter, decide_eq_true_eq] at ht
      exact row_tagged (hstands t ht.1) ht.2
    rw [execute_of_success hpattern htree htext ha hs, toList_writeTokens]
    refine ⟨rfl, hwhole hs, _, splitOn_newline ?_, ?_, ?_⟩
    · rw [List.forall_mem_map]
      exact fun t ht => (hrows t ht).newline_not_mem
    · rw [List.forall_mem_map]
      exact fun t ht => (hrows t ht).count_tab
    · rw [List.map_map, List.forall₂_map_right_iff, List.forall₂_same]
      exact fun t ht => (hrows t ht).fields
  · intro hs
    rw [execute_of_failure hpattern htext ha hs]
    exact ⟨rfl, rfl, rfl⟩

/-- A label, a number and a word with blanks of all kinds around them. -/
theorem blanks_tagged :
    let options : Options := {}
    let text := "run/VB\t\r\n+12\u2003 don't\u0085"
    let source : Source := .ok text.toUTF8
    options.pattern = none ∧ options.tree = false ∧ decode source = .ok text.toList ∧
      (matchRule document text.toList.toArray).map (·.success) = some true ∧
      ∃ a, matchRule document text.toList.toArray = some a ∧
        (a.success → (options.execute source).status = 0 ∧
          (tokens a.record text.toList.toArray).flatMap Token.written = text.toList ∧
          ∃ rows, (options.execute source).output.toList.splitOn '\n' = rows ++ [[]] ∧
            (∀ row ∈ rows, row.count '\t' = 1) ∧
            List.Forall₂ Fields ((tokens a.record text.toList.toArray).filter (·.kind ≠ .whitespace))
              (rows.map (·.splitOn '\t'))) ∧
        (¬ a.success → (options.execute source).status = 1 ∧ (options.execute source).output = "" ∧
          (options.execute source).errors = writeLogs options.verbosity [describeText text.toList] ++
            ("Error: " ++ (Diagnostic.ofRecord a.record text.toList.toArray).message ++ "\n")) := by
  intro options text source
  have htext : decode source = .ok text.toList := decode_toUTF8 text
  exact ⟨rfl, rfl, htext, by decide +kernel, execute_tags rfl rfl htext⟩

end PegTrace.Cli
