import PegTrace.Proofs.Document.Lexing

/-!
# The tokens of a document

A document is cut into tokens, and nothing of it is lost: each repetition holds one token, the tokens stand one right
after the other from the start of the text to where the document stops, and what they stand for is the text between
(`tokens_of_document`). What a token of each kind looks like, and what may not come after it, is said by `Lexeme`.
-/

namespace PegTrace.Document

open Text

/-- The content of a token with its tag, if there is one, after a slash. -/
def spelling (content : List Char) : Option (List Char) → List Char
  | none => content
  | some tag => content ++ '/' :: tag

/-- What stands in the text for a token. -/
def Token.written (t : Token) : List Char :=
  spelling t.text.toList (t.tag.map String.toList)

/-- The content and the tag of a token of each kind that stands in front of some characters. -/
inductive Lexeme : TokenKind → List Char → Option (List Char) → List Char → Prop
  | whitespace {content rest : List Char} (h : Leads isBlank content rest) : Lexeme .whitespace content none rest
  | number {sign digits rest : List Char} (hsign : sign = [] ∨ sign = ['+'] ∨ sign = ['-'])
      (h : Leads Char.isDigit digits rest) : Lexeme .number (sign ++ digits) none rest
  | word {content rest : List Char} (h : Leads isWordChar content rest) (hnumber : ¬ BeginsNumber content) :
      Lexeme .word content none rest
  | label {content tag rest : List Char} (hne : content ≠ []) (hword : ∀ c ∈ content, isWordChar c)
      (h : Leads isTagChar tag rest) : Lexeme .label content (some tag) rest

/-- The token stands in the text. It is a label if there can be one. -/
structure Token.Stands (text : Array Char) (t : Token) : Prop where
  ahead_eq : ahead text t.start = t.written ++ ahead text t.stop
  stop_eq : t.stop = t.start + t.written.length
  lexeme : Lexeme t.kind t.text.toList (t.tag.map String.toList) (ahead text t.stop)
  not_beginsLabel : t.kind ≠ .label → ¬ BeginsLabel (ahead text t.start)

/-- Tokens that stand one right after the other between two places. -/
inductive Cut (text : Array Char) : Nat → List Token → Nat → Prop
  | nil (place : Nat) : Cut text place [] place
  | cons {t : Token} {later : List Token} {stop : Nat} (ht : t.Stands text) (hlater : Cut text t.stop later stop) :
      Cut text t.start (t :: later) stop

/-! ### The record of a token -/

section Records

variable {text : Array Char} {steps start : Nat} {a : Attempt}

lemma start_eq {p : Pattern Char} (hp : p.EditFree) (h : Grammar.run {} text steps p start text.size = some a) :
    a.record.start = start := by
  have hg : Grammar.EditFree ({} : Grammar Char) := by
    intro id body hbody
    simp [Grammar.body?] at hbody
  exact (hg.run_framing hp text steps h).start_eq

lemma slice_of_ahead {stop : Nat} {run rest : List Char} (hstop : stop = start + run.length)
    (h : ahead text start = run ++ rest) : slice text start stop = run := by
  rw [slice, Array.toList_extract, List.extract_eq_take_drop, hstop, Nat.add_sub_cancel_left]
  exact (congrArg (List.take run.length) h).trans List.take_left

lemma toList_text {r : Record} {run rest : List Char} (hstart : r.start = start) (hstop : r.stop = start + run.length)
    (h : ahead text start = run ++ rest) : (r.text text).toList = run := by
  rw [Record.text, String.toList_ofList, Record.symbols, hstart, slice_of_ahead hstop h]

lemma editFree_runOf (test : CharTest Char) : (runOf test).EditFree := by
  simp [Pattern.EditFree, runOf, Pattern.oneOrMore, Pattern.star, Keyed.plain]

lemma editFree_number : number.EditFree := by
  simp [Pattern.EditFree, number, runOf, Pattern.oneOrMore, Pattern.star, Pattern.optional, Pattern.oneOf, Keyed.named,
    Keyed.plain]

lemma editFree_label : label.EditFree := by
  simp [Pattern.EditFree, label, word, runOf, Pattern.oneOrMore, Pattern.star, Pattern.one, Keyed.named, Keyed.plain]

lemma not_beginsLabel_of_leads {run rest : List Char} (h : Leads isBlank run rest) : ¬ BeginsLabel (run ++ rest) := by
  rintro ⟨word, c, rest', heq, hne, hword, -⟩
  obtain ⟨b, run, rfl⟩ := List.exists_cons_of_ne_nil h.ne_nil
  obtain ⟨d, word, rfl⟩ := List.exists_cons_of_ne_nil hne
  obtain rfl : b = d := (List.cons.inj heq).1
  have hblank : isBlank b := h.holds_of_mem b (by simp)
  have hnot : isWordChar b := hword b (by simp)
  simp [isWordChar, hblank] at hnot

lemma BeginsNumber.append {l rest : List Char} (h : BeginsNumber l) : BeginsNumber (l ++ rest) := by
  obtain ⟨sign, digit, later, rfl, hsign, hdigit⟩ := h
  exact ⟨sign, digit, later ++ rest, by simp, hsign, hdigit⟩

/-- The attempt at a rule for tokens without a tag leaves the record of one. -/
lemma stands_of_run {p : Pattern Char} {kind : TokenKind} {run : List Char} (hp : p.EditFree)
    (h : Grammar.run {} text steps p start text.size = some a) (hrun : ahead text start = run ++ ahead text a.stop)
    (hstop : a.stop = start + run.length) (hlexeme : Lexeme kind run none (ahead text a.stop))
    (hlabel : ¬ BeginsLabel (ahead text start)) :
    Token.Stands text ⟨kind, a.record.start, a.stop, a.record.text text, none⟩ := by
  have hstart : a.record.start = start := start_eq hp h
  have htext : (a.record.text text).toList = run := toList_text hstart hstop hrun
  refine ⟨?_, ?_, ?_, ?_⟩
  · simpa [Token.written, spelling, htext, hstart] using hrun
  · simpa [Token.written, spelling, htext, hstart] using hstop
  · simpa [htext] using hlexeme
  · simpa [hstart] using fun _ => hlabel

lemma stands_whitespace (hsteps : text.size < steps) (hstart : start ≤ text.size)
    (h : Grammar.run {} text steps whitespace start text.size = some a) (hs : a.success) :
    Token.Stands text ⟨.whitespace, a.record.start, a.stop, a.record.text text, none⟩ := by
  obtain ⟨hstop, -⟩ := (computes_whitespace hsteps).of_success hstart h hs
  obtain ⟨run, hrun, hlen, hleads⟩ := runStop_eq_some_iff.1 hstop
  refine stands_of_run (editFree_runOf _) h hrun hlen (.whitespace hleads) ?_
  rw [hrun]
  exact not_beginsLabel_of_leads hleads

lemma stands_number (hsteps : text.size < steps) (hstart : start ≤ text.size) (hlabel : labelStop text start = none)
    (h : Grammar.run {} text steps number start text.size = some a) (hs : a.success) :
    Token.Stands text ⟨.number, a.record.start, a.stop, a.record.text text, none⟩ := by
  obtain ⟨hstop, -⟩ := (computes_number hsteps).of_success hstart h hs
  obtain ⟨sign, digits, hrun, hlen, hsign, hleads⟩ := numberStop_eq_some hstop
  exact stands_of_run editFree_number h hrun hlen (.number hsign hleads) (not_beginsLabel hlabel)

lemma stands_word (hsteps : text.size < steps) (hstart : start ≤ text.size) (hlabel : labelStop text start = none)
    (hnumber : numberStop text start = none) (h : Grammar.run {} text steps word start text.size = some a)
    (hs : a.success) : Token.Stands text ⟨.word, a.record.start, a.stop, a.record.text text, none⟩ := by
  obtain ⟨hstop, -⟩ := (computes_word hsteps).of_success hstart h hs
  obtain ⟨run, hrun, hlen, hleads⟩ := runStop_eq_some_iff.1 hstop
  have hnot : ¬ BeginsNumber run := by
    intro hbegins
    apply not_beginsNumber hnumber
    rw [hrun]
    exact hbegins.append
  exact stands_of_run (editFree_runOf _) h hrun hlen (.word hleads hnot) (not_beginsLabel hlabel)

/-- A label keeps its word and its tag by name, with the slash between them. -/
lemma label_of_success (h : Grammar.run {} text steps label start text.size = some a) (hs : a.success) :
    ∃ w slash tag e, Grammar.run {} text steps word start text.size = some w ∧ w.success ∧
      Grammar.run {} text steps (.one '/') w.stop text.size = some slash ∧ slash.success ∧
      Grammar.run {} text steps (runOf tagTest) slash.stop text.size = some tag ∧ tag.success ∧ a.stop = tag.stop ∧
      a.record = .all e (.ofList [.named "word" w.record, .plain slash.record, .named "tag" tag.record]) := by
  obtain ⟨tried, e, htried, hall, hstop, hrecord⟩ := Matcher.concat_of_success h hs
  obtain ⟨w, later, rfl, hw, hws, htried, hall⟩ := Matcher.tryInSequence_cons_of_success htried hall
  obtain ⟨slash, later, rfl, hslash, hslashs, htried, hall⟩ := Matcher.tryInSequence_cons_of_success htried hall
  obtain ⟨tag, later, rfl, htag, htags, htried, -⟩ := Matcher.tryInSequence_cons_of_success htried hall
  cases htried
  exact ⟨w, slash, tag, e, hw, hws, hslash, hslashs, htag, htags, hstop, hrecord⟩

/-- A label is read as a word with a tag. -/
lemma stands_label (hsteps : text.size < steps) (hstart : start ≤ text.size)
    (h : Grammar.run {} text steps label start text.size = some a) (hs : a.success) :
    ∃ content tag, contents? .label a.record text = some (content, some tag) ∧
      Token.Stands text ⟨.label, a.record.start, a.stop, content, some tag⟩ := by
  obtain ⟨w, slash, tag, e, hw, hws, hslash, hslashs, htag, htags, hstop, hrecord⟩ := label_of_success h hs
  obtain ⟨hwstop, hwsize⟩ := (computes_word hsteps).of_success hstart hw hws
  obtain ⟨hslashstop, hslashsize⟩ := computes_slash.of_success hwsize hslash hslashs
  obtain ⟨htagstop, -⟩ := (computes_tag hsteps).of_success hslashsize htag htags
  obtain ⟨content, hcontent, hwlen, hwleads⟩ := runStop_eq_some_iff.1 hwstop
  obtain ⟨c, hc, hslashlen, hcslash⟩ := single_eq_some hslashstop
  obtain rfl : c = '/' := of_decide_eq_true hcslash
  obtain ⟨run, hrun, htaglen, htagleads⟩ := runStop_eq_some_iff.1 htagstop
  have hwtext : (w.record.text text).toList = content := toList_text (start_eq (editFree_runOf _) hw) hwlen hcontent
  have htagtext : (tag.record.text text).toList = run := toList_text (start_eq (editFree_runOf _) htag) htaglen hrun
  refine ⟨w.record.text text, tag.record.text text, ?_, ?_, ?_, ?_, ?_⟩
  · rw [hrecord]
    rfl
  · simp only [start_eq editFree_label h, Token.written, Option.map_some, hwtext, htagtext, hstop]
    rw [hcontent, hc, hrun]
    simp [spelling]
  · simp only [start_eq editFree_label h, Token.written, Option.map_some, hwtext, htagtext, hstop]
    rw [htaglen, hslashlen, hwlen]
    simp only [spelling, List.length_append, List.length_cons]
    omega
  · simp only [Option.map_some, hwtext, htagtext, hstop]
    exact .label hwleads.ne_nil hwleads.holds_of_mem htagleads
  · simp

/-- What matches as a token is read as one, which stands where it was matched. -/
lemma token_of_success (hsteps : text.size < steps) (hstart : start ≤ text.size)
    (h : Grammar.run {} text steps token start text.size = some a) (hs : a.success) :
    ∃ t, token? text a.record = some t ∧ t.start = start ∧ t.stop = a.stop ∧ t.Stands text := by
  obtain ⟨skipped, m, rest, b, e, index, hitems, hskipped, hb, hbs, hstop, hrecord⟩ := Matcher.choice_of_success h hs
  rw [hrecord, hstop]
  -- How many alternatives were skipped tells which one it is.
  rcases skipped with _ | ⟨m₁, _ | ⟨m₂, _ | ⟨m₃, _ | ⟨m₄, skipped⟩⟩⟩⟩
  · cases hitems
    exact ⟨_, rfl, start_eq (editFree_runOf _) hb, rfl, stands_whitespace hsteps hstart hb hbs⟩
  · cases hitems
    obtain ⟨content, tag, hcontents, hstands⟩ := stands_label hsteps hstart hb hbs
    refine ⟨_, ?_, start_eq editFree_label hb, rfl, hstands⟩
    simp only [token?, TokenKind.ofKey?, hcontents, Option.bind_eq_bind, Option.bind_some]
    rfl
  · cases hitems
    simp only [List.forall_mem_cons] at hskipped
    obtain ⟨-, hlabel, -⟩ := hskipped
    have hlabel := (computes_label hsteps).eq_none hstart hlabel
    exact ⟨_, rfl, start_eq editFree_number hb, rfl, stands_number hsteps hstart hlabel hb hbs⟩
  · cases hitems
    simp only [List.forall_mem_cons] at hskipped
    obtain ⟨-, hlabel, hnumber, -⟩ := hskipped
    have hlabel := (computes_label hsteps).eq_none hstart hlabel
    have hnumber := (computes_number hsteps).eq_none hstart hnumber
    exact ⟨_, rfl, start_eq (editFree_runOf _) hb, rfl, stands_word hsteps hstart hlabel hnumber hb hbs⟩
  · simp [Pattern.matchers] at hitems

end Records

/-! ### What a cut tells of its tokens -/

section Cuts

variable {text : Array Char} {t : Token} {ts : List Token} {start stop : Nat}

lemma Lexeme.spelling_ne_nil {kind : TokenKind} {content rest : List Char} {tag : Option (List Char)}
    (h : Lexeme kind content tag rest) : spelling content tag ≠ [] := by
  cases h with
  | whitespace h => exact h.ne_nil
  | number _ h => exact List.append_ne_nil_of_right_ne_nil _ h.ne_nil
  | word h _ => exact h.ne_nil
  | label hne _ _ => exact List.append_ne_nil_of_left_ne_nil hne _

lemma Lexeme.isSome_tag_iff {kind : TokenKind} {content rest : List Char} {tag : Option (List Char)}
    (h : Lexeme kind content tag rest) : tag.isSome ↔ kind = .label := by
  cases h <;> simp

lemma Token.Stands.start_lt_stop (h : t.Stands text) : t.start < t.stop := by
  have hne : t.written ≠ [] := h.lexeme.spelling_ne_nil
  rw [h.stop_eq]
  exact Nat.lt_add_of_pos_right (List.length_pos_iff.2 hne)

lemma Token.Stands.written_eq (h : t.Stands text) : t.written = slice text t.start t.stop :=
  (slice_of_ahead h.stop_eq h.ahead_eq).symm

/-- The stretches of the tokens are not empty, and each begins where the one before it ends. -/
inductive Tiles : Nat → List Token → Nat → Prop
  | nil (place : Nat) : Tiles place [] place
  | cons {t : Token} {later : List Token} {stop : Nat} (hmove : t.start < t.stop) (hlater : Tiles t.stop later stop) :
      Tiles t.start (t :: later) stop

lemma Cut.tiles (h : Cut text start ts stop) : Tiles start ts stop := by
  induction h with
  | nil place => exact .nil place
  | cons ht _ ih => exact .cons ht.start_lt_stop ih

lemma Cut.stands (h : Cut text start ts stop) : ∀ t ∈ ts, t.Stands text := by
  induction h with
  | nil => simp
  | cons ht _ ih =>
    rw [List.forall_mem_cons]
    exact ⟨ht, ih⟩

lemma Cut.ahead_eq (h : Cut text start ts stop) : ahead text start = ts.flatMap Token.written ++ ahead text stop ∧
    stop = start + (ts.flatMap Token.written).length := by
  induction h with
  | nil => simp
  | cons ht _ ih =>
    obtain ⟨hahead, hstop⟩ := ih
    constructor
    · rw [List.flatMap_cons, List.append_assoc, ← hahead, ht.ahead_eq]
    · rw [List.flatMap_cons, List.length_append, ← Nat.add_assoc, ← ht.stop_eq, hstop]

lemma Cut.written_eq (h : Cut text 0 ts stop) : ts.flatMap Token.written = text.toList.take stop := by
  obtain ⟨hahead, hstop⟩ := h.ahead_eq
  have htext : text.toList = ts.flatMap Token.written ++ ahead text stop := hahead
  rw [htext, hstop, Nat.zero_add, List.take_left]

end Cuts

/-! ### The document -/

section Documents

variable {text : Array Char} {steps start stop : Nat}

/-- Each repetition of a chain of tokens is read as a token, and together they cut the text. -/
lemma cut_of_chain {accepted : List Attempt} (hsteps : text.size < steps) (hstart : start ≤ text.size)
    (h : Matcher.Chain (Grammar.run {} text steps token) text.size start accepted stop) :
    ∃ ts, (accepted.map Attempt.record).map (token? text) = ts.map some ∧ Cut text start ts stop := by
  induction h with
  | nil place => exact ⟨[], rfl, .nil place⟩
  | cons ha hs _ _ ih =>
    obtain ⟨t, ht, rfl, hstop, hstands⟩ := token_of_success hsteps hstart ha hs
    obtain ⟨-, hsize⟩ := (computes_token hsteps).of_success hstart ha hs
    obtain ⟨ts, hts, hcut⟩ := ih hsize
    refine ⟨t :: ts, ?_, .cons hstands (hstop ▸ hcut)⟩
    simp only [List.map_cons, ht, hts]

lemma tokens_series {e : Extent} {items : List Record} {ts : List Token}
    (h : items.map (token? text) = ts.map some) : tokens (.series e items) text = ts := by
  calc
    items.filterMap (token? text) = (items.map (token? text)).filterMap id := by
      rw [List.filterMap_map, Function.id_comp]
    _ = ts := by rw [h, List.filterMap_map, Function.id_comp, List.filterMap_some]

/-- The document always matches. It is cut into tokens, one for each repetition, and no token begins where it stops. -/
lemma document_cut (text : Array Char) : ∃ a e items, Grammar.matcher {} text document 0 text.size = some a ∧
    a.success ∧ a.record = .series e items ∧ items.map (token? text) = (tokens a.record text).map some ∧
    Cut text 0 (tokens a.record text) a.stop ∧ a.stop ≤ text.size ∧ tokenStop text a.stop = none := by
  have hsteps : text.size < Grammar.budget {} text := Grammar.size_lt_budget {} text
  have hdocument := Grammar.computes_star (computes_token (g := {}) hsteps) hsteps
  obtain ⟨a, ha, -⟩ := Matcher.outcome_eq_some_iff.1 (hdocument.outcome_eq 0 (Nat.zero_le _))
  obtain ⟨hs, accepted, e, hrecord, hchain, b, hb, hidle⟩ := Matcher.repetition_chain ha
  obtain ⟨-, hsize⟩ := hdocument.of_success (Nat.zero_le _) ha hs
  obtain ⟨ts, hts, hcut⟩ := cut_of_chain hsteps (Nat.zero_le _) hchain
  have htokens : tokens a.record text = ts := by
    rw [hrecord]
    exact tokens_series hts
  -- the round that ended the run did not move on, but every token has a character
  have hfail : ¬ b.success := by
    intro hbs
    obtain ⟨t, -, hstart, hstop, hstands⟩ := token_of_success hsteps hsize hb hbs
    have hmove := hstands.start_lt_stop
    have := hidle hbs
    omega
  have hnone := Matcher.outcome_eq_some hb
  rw [Attempt.outcome_of_failure hfail] at hnone
  refine ⟨a, e, accepted.map Attempt.record, ha, hs, hrecord, ?_, ?_, hsize, ?_⟩
  · rw [htokens, hts]
  · rw [htokens]
    exact hcut
  · exact (computes_token hsteps).eq_none hsize hnone

end Documents

/-- Cutting a text into tokens loses nothing. The document always matches, and each of its repetitions is read as one
token. The tokens are not empty and stand one right after the other from the start of the text to where the document
stops; put together, what they stand for is the text up to there. Each of them is a well-formed token of its kind, as
long as it can be, and just the labels have a tag. -/
theorem tokens_of_document (text : Array Char) :
    ∃ a e items, Grammar.matcher {} text document 0 text.size = some a ∧ a.success ∧ a.record = .series e items ∧
      items.map (token? text) = (tokens a.record text).map some ∧
      Tiles 0 (tokens a.record text) a.record.stop ∧ a.record.stop ≤ text.size ∧
      (tokens a.record text).flatMap Token.written = text.toList.take a.record.stop ∧
      ∀ t ∈ tokens a.record text, t.written = slice text t.start t.stop ∧
        Lexeme t.kind t.text.toList (t.tag.map String.toList) (text.toList.drop t.stop) ∧
        (t.tag.isSome ↔ t.kind = .label) := by
  obtain ⟨a, e, items, ha, hs, hrecord, hitems, hcut, hsize, -⟩ := document_cut text
  refine ⟨a, e, items, ha, hs, hrecord, hitems, hcut.tiles, hsize, hcut.written_eq, ?_⟩
  intro t ht
  have hstands := hcut.stands t ht
  refine ⟨hstands.written_eq, hstands.lexeme, ?_⟩
  rw [← hstands.lexeme.isSome_tag_iff, Option.isSome_map]

end PegTrace.Document
