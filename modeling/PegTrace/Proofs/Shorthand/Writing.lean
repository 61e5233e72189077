import Mathlib
import PegTrace.Shorthand.Reader

/-!
# Writing shorthand

`Compound.Written` relates alternatives to every text that spells them out in shorthand: class letters in either case,
any delimiter for a custom set, a count with or without brackets, and any blanks and tabs around items, after
quantifiers, around bars and inside parentheses. Reading such a text gives back the alternatives it was written from
(`parse_of_written`), provided that they can be spelled at all: what the shorthand has no spelling for is ruled out by
`Compound.Expressible`.
-/

namespace PegTrace.Shorthand

/-! ### What can be spelled -/

/-- Counts stay below the limit, and bounds are in order. -/
def Quantifier.Expressible : Quantifier → Prop
  | once | optional | zeroOrMore | oneOrMore => True
  | exactly n | atLeast n => n < countLimit
  | between n m => n ≤ m ∧ m < countLimit

/-- A class has a letter. In a custom set, two dots in a row are read as those of a range. -/
def CharSet.Expressible : CharSet → Prop
  | named k => k.letter?.isSome
  | custom members => (∀ last, .range '.' last ∉ members) ∧
      members.IsChain fun m m' => ¬ (m = .single '.' ∧ m' = .single '.')

/-- The quotation mark around a literal. -/
def quoteMark (fold : Bool) : Char :=
  if fold then '\x27' else '"'

mutual

/-- A literal does not hold its own quotation mark, and a group is not a single empty sequence. -/
def Element.Expressible : Element → Prop
  | .set chars _ => chars.Expressible
  | .group alternatives => alternatives ≠ [[]] ∧ AlternativesExpressible alternatives
  | .literal text fold => quoteMark fold ∉ text

def AlternativesExpressible : List (List (Quantified Element)) → Prop
  | [] => True
  | items :: rest => ItemsExpressible items ∧ AlternativesExpressible rest

def ItemsExpressible : List (Quantified Element) → Prop
  | [] => True
  | ⟨q, e⟩ :: rest => q.Expressible ∧ e.Expressible ∧ ItemsExpressible rest

end

/-- No level is a single empty sequence, and every quantifier, set and literal can be spelled. -/
def Compound.Expressible (compound : Compound) : Prop :=
  compound ≠ [[]] ∧ AlternativesExpressible compound

/-! ### Spellings -/

/-- Blanks and tabs, any number of them. -/
def Gap (text : List Char) : Prop :=
  ∀ c ∈ text, isGap c

/-- A number in decimal digits. -/
abbrev digits (n : Nat) : List Char :=
  Nat.toDigits 10 n

inductive Quantifier.Written : Quantifier → List Char → Prop
  | once : Written .once []
  | optional : Written .optional ['?']
  | zeroOrMore : Written .zeroOrMore ['*']
  | oneOrMore : Written .oneOrMore ['+']
  | count (n : Nat) : Written (.exactly n) (digits n)
  | exactly (n : Nat) : Written (.exactly n) ('[' :: (digits n ++ [']']))
  | atLeast (n : Nat) : Written (.atLeast n) ('[' :: (digits n ++ [',', ']']))
  | between (n m : Nat) : Written (.between n m) ('[' :: (digits n ++ ',' :: (digits m ++ [']'])))

/-- The spelling of a member of a custom set. -/
def Member.spelling : Member → List Char
  | single c => [c]
  | range first last => [first, '.', '.', last]

/-- A set without its sign: a class by its letter, or a letter and the members between two delimiters. -/
inductive CharSet.Written : CharSet → List Char → Prop
  | named {k : CharClass} {letter c : Char} (hk : k.letter? = some letter)
      (hc : c = letter ∨ c = letter.toLower) : Written (.named k) [c]
  | custom {members : List Member} {c delimiter : Char} (hc : c = 'D' ∨ c = 'd') (hdot : delimiter ≠ '.')
      (hmembers : ∀ m ∈ members, delimiter ∉ m.spelling) :
      Written (.custom members) (c :: delimiter :: (members.flatMap Member.spelling ++ [delimiter]))

mutual

inductive Element.Written : Element → List Char → Prop
  | set {chars : CharSet} {text : List Char} (h : chars.Written text) :
      Element.Written (.set chars false) text
  | negated {chars : CharSet} {text : List Char} (h : chars.Written text) :
      Element.Written (.set chars true) ('-' :: text)
  | literal (text : List Char) (fold : Bool) :
      Element.Written (.literal text fold) (quoteMark fold :: (text ++ [quoteMark fold]))
  | group {alternatives : List (List (Quantified Element))} {text : List Char}
      (h : AlternativesWritten alternatives text) : Element.Written (.group alternatives) ('(' :: (text ++ [')']))

/-- Items one after the other, with a gap before each of them, after its quantifier and at the end. -/
inductive ItemsWritten : List (Quantified Element) → List Char → Prop
  | nil {gap : List Char} (hgap : Gap gap) : ItemsWritten [] gap
  | cons {q : Quantifier} {e : Element} {items : List (Quantified Element)}
      {before qtext between etext rest : List Char}
      (hbefore : Gap before) (hq : q.Written qtext) (hbetween : Gap between) (he : e.Written etext)
      (hrest : ItemsWritten items rest) :
      ItemsWritten (⟨q, e⟩ :: items) (before ++ (qtext ++ (between ++ (etext ++ rest))))

/-- Alternatives with a bar between each two of them. -/
inductive AlternativesWritten : List (List (Quantified Element)) → List Char → Prop
  | nil {gap : List Char} (hgap : Gap gap) : AlternativesWritten [] gap
  | last {items : List (Quantified Element)} {text : List Char} (h : ItemsWritten items text) :
      AlternativesWritten [items] text
  | cons {items other : List (Quantified Element)} {others : List (List (Quantified Element))} {text rest : List Char}
      (h : ItemsWritten items text) (hrest : AlternativesWritten (other :: others) rest) :
      AlternativesWritten (items :: other :: others) (text ++ '|' :: rest)

end

/-- The text spells out the alternatives. -/
def Compound.Written (compound : Compound) (text : List Char) : Prop :=
  AlternativesWritten compound text

/-! ### Reading step by step -/

/-- Reading the text takes the reader from the first state to the second. -/
def Reads (s : State) (text : List Char) (s' : State) : Prop :=
  advance s text = .ok s'

namespace Reads

variable {s s' s'' : State} {text text' : List Char}

lemma refl (s : State) : Reads s [] s := rfl

lemma cons {c : Char} (h : step s c = .ok s') (h' : Reads s' text s'') : Reads s (c :: text) s'' := by
  unfold Reads advance
  rw [List.foldlM_cons, h]
  exact h'

lemma single {c : Char} (h : step s c = .ok s') : Reads s [c] s' :=
  cons h (refl s')

lemma append (h : Reads s text s') (h' : Reads s' text' s'') : Reads s (text ++ text') s'' := by
  unfold Reads advance at h ⊢
  rw [List.foldlM_append, h]
  exact h'

end Reads

/-- An element with the given quantifier may begin here. -/
inductive Mode.Awaits : Mode → Quantifier → Prop
  | ready : Awaits .ready .once
  | quantified (q : Quantifier) : Awaits (.quantified q) q
  | count (n : Nat) : Awaits (.count n) (.exactly n)

/-! ### Quantifiers -/

lemma appendDigit_eq_ok {n : Nat} {c : Char} (h : 10 * n + (c.toNat - '0'.toNat) < countLimit) :
    appendDigit n c = .ok (10 * n + (c.toNat - '0'.toNat)) := by
  simp only [appendDigit, if_pos h]

lemma le_ofDigitChars (text : List Char) (n : Nat) : n ≤ Nat.ofDigitChars 10 text n := by
  induction text generalizing n with
  | nil => exact Nat.le_refl n
  | cons c text ih =>
    have := ih (10 * n + (c.toNat - '0'.toNat))
    simp only [Nat.ofDigitChars_cons]
    omega

/-- Digits are read into a number, in every mode that goes on with a number. -/
lemma reads_digits (number : Nat → Mode) (s : State)
    (hstep : ∀ n m c, c.isDigit → appendDigit n c = .ok m → step (s.enter (number n)) c = .ok (s.enter (number m)))
    {text : List Char} (hdigits : ∀ c ∈ text, c.isDigit) {n : Nat} (hn : Nat.ofDigitChars 10 text n < countLimit) :
    Reads (s.enter (number n)) text (s.enter (number (Nat.ofDigitChars 10 text n))) := by
  induction text generalizing n with
  | nil => exact .refl _
  | cons c text ih =>
    rw [List.forall_mem_cons] at hdigits
    rw [Nat.ofDigitChars_cons] at hn ⊢
    have hlt := (le_ofDigitChars text _).trans_lt hn
    exact .cons (hstep n _ c hdigits.1 (appendDigit_eq_ok hlt)) (ih hdigits.2 hn)

/-- A number is read by its first digit into the mode `number`, and by the others within it. -/
lemma reads_number (number : Nat → Mode) {s : State}
    (hfirst : ∀ m c, c.isDigit → appendDigit 0 c = .ok m → step s c = .ok (s.enter (number m)))
    (hstep : ∀ n m c, c.isDigit → appendDigit n c = .ok m → step (s.enter (number n)) c = .ok (s.enter (number m)))
    {n : Nat} (hn : n < countLimit) : Reads s (digits n) (s.enter (number n)) := by
  have hvalue : Nat.ofDigitChars 10 (digits n) 0 = n := Nat.ofDigitChars_toDigits (by decide) (by decide)
  have hdigits : ∀ c ∈ digits n, c.isDigit := fun _ => Nat.isDigit_of_mem_toDigits (by decide) (by decide)
  -- the first digit opens the number, and the others are appended to it
  cases htext : digits n with
  | nil => exact absurd htext Nat.toDigits_ne_nil
  | cons c text =>
    rw [htext] at hvalue hdigits
    rw [List.forall_mem_cons] at hdigits
    rw [Nat.ofDigitChars_cons] at hvalue
    have hrest := reads_digits number s hstep hdigits.2 (hvalue.trans_lt hn)
    rw [hvalue] at hrest
    have hlt := (le_ofDigitChars text _).trans_lt (hvalue.trans_lt hn)
    exact .cons (hfirst _ c hdigits.1 (appendDigit_eq_ok hlt)) hrest

lemma ne_of_test {test : Char → Bool} {c d : Char} (hc : test c) (hd : ¬ test d) : c ≠ d := by
  rintro rfl
  exact hd hc

lemma reads_count {s : State} (hs : s.mode = .ready) {n : Nat} (hn : n < countLimit) :
    Reads s (digits n) (s.enter (.count n)) := by
  apply reads_number .count _ _ hn
  · intro m c hc h
    simp (disch := decide) [step, hs, readReady, isGap, ne_of_test hc, hc, h]
  · intro n m c hc h
    simp [step, State.enter, readCount, hc, h]

lemma reads_first {s : State} (hs : s.mode = .bounds .opened) {n : Nat} (hn : n < countLimit) :
    Reads s (digits n) (s.enter (.bounds (.first n))) := by
  apply reads_number (fun n => .bounds (.first n)) _ _ hn
  · intro m c hc h
    simp (disch := decide) [step, hs, readBounds, ne_of_test hc, hc, h]
  · intro n m c hc h
    simp (disch := decide) [step, State.enter, readBounds, ne_of_test hc, hc, h]

lemma reads_second {s : State} {least : Option Nat} (hs : s.mode = .bounds (.comma least)) {n : Nat}
    (hn : n < countLimit) : Reads s (digits n) (s.enter (.bounds (.second least n))) := by
  apply reads_number (fun n => .bounds (.second least n)) _ _ hn
  · intro m c hc h
    simp (disch := decide) [step, hs, readBounds, ne_of_test hc, hc, h]
  · intro n m c hc h
    simp (disch := decide) [step, State.enter, readBounds, ne_of_test hc, hc, h]

/-- After a quantifier, its element may begin. -/
lemma Quantifier.Written.reads {q : Quantifier} {text : List Char} (h : q.Written text) (hq : q.Expressible)
    {s : State} (hs : s.mode = .ready) : ∃ mode : Mode, mode.Awaits q ∧ Reads s text (s.enter mode) := by
  have hopen : step s '[' = .ok (s.enter (.bounds .opened)) := by simp [step, hs, readReady, isGap]
  have hcomma : ∀ n, step (s.enter (.bounds (.first n))) ',' = .ok (s.enter (.bounds (.comma (some n)))) := by
    intro n
    simp [step, State.enter, readBounds, pure, Except.pure]
  cases h with
  | once => exact ⟨.ready, .ready, hs ▸ .refl s⟩
  | optional => exact ⟨_, .quantified _, .single (by simp [step, hs, readReady, isGap])⟩
  | zeroOrMore => exact ⟨_, .quantified _, .single (by simp [step, hs, readReady, isGap])⟩
  | oneOrMore => exact ⟨_, .quantified _, .single (by simp [step, hs, readReady, isGap])⟩
  | count n => exact ⟨_, .count n, reads_count hs hq⟩
  | exactly n =>
    refine ⟨_, .quantified _, .cons hopen ((reads_first rfl hq).append (.single ?_))⟩
    simp [step, State.enter, readBounds, pure, Except.pure]
  | atLeast n =>
    refine ⟨_, .quantified _, .cons hopen ((reads_first rfl hq).append (.cons (hcomma n) (.single ?_)))⟩
    simp [step, State.enter, readBounds, boundsQuantifier]
  | between n m =>
    have hfirst := reads_first (s := s.enter (.bounds .opened)) rfl (hq.1.trans_lt hq.2)
    refine ⟨_, .quantified _, .cons hopen (hfirst.append (.cons (hcomma n) ?_))⟩
    refine (reads_second rfl hq.2).append (.single ?_)
    simp [step, State.enter, readBounds, boundsQuantifier, hq.1]

lemma Gap.reads {text : List Char} (h : Gap text) {q : Quantifier} {s : State} (hs : s.mode.Awaits q) :
    ∃ mode : Mode, mode.Awaits q ∧ Reads s text (s.enter mode) := by
  induction text generalizing s with
  | nil => exact ⟨s.mode, hs, .refl s⟩
  | cons c text ih =>
    obtain ⟨hc, htext⟩ := List.forall_mem_cons.1 h
    -- a digit would add to the count before the gap
    have hdigit : ¬ c.isDigit := by
      intro hdigit
      simp (disch := decide) [isGap, ne_of_test hdigit] at hc
    have hstep : ∃ mode : Mode, mode.Awaits q ∧ step s c = .ok (s.enter mode) := by
      obtain ⟨groups, level, mode⟩ := s
      cases hs with
      | ready => exact ⟨_, .ready, by simp [step, readReady, hc, State.enter]⟩
      | quantified => exact ⟨_, .quantified q, by simp [step, readQuantified, hc, State.enter]⟩
      | count n => exact ⟨_, .quantified _, by simp [step, readCount, readQuantified, hdigit, hc, State.enter]⟩
    obtain ⟨mode, hmode, hstep⟩ := hstep
    obtain ⟨mode', hmode', hreads⟩ := ih htext (s := s.enter mode) hmode
    exact ⟨mode', hmode', .cons hstep hreads⟩

/-- Between items, a gap changes nothing. -/
lemma Gap.reads_ready {text : List Char} (h : Gap text) {s : State} (hs : s.mode = .ready) : Reads s text s := by
  induction text with
  | nil => exact .refl s
  | cons c text ih =>
    obtain ⟨hc, htext⟩ := List.forall_mem_cons.1 h
    exact .cons (by simp [step, hs, readReady, hc]) (ih htext)

/-! ### Elements -/

/-- A character that an element may begin with. -/
def opensElement (c : Char) : Bool :=
  c = '(' || c = '\x27' || c = '"' || c = '-' || c.isAlpha

lemma not_isDigit_of_opensElement {c : Char} (hc : opensElement c) : ¬ c.isDigit := by
  simp only [opensElement, Bool.or_eq_true, decide_eq_true_eq] at hc
  rcases hc with (((rfl | rfl) | rfl) | rfl) | hc
  · decide
  · decide
  · decide
  · decide
  · simp only [Char.isAlpha, Char.isUpper, Char.isLower, Char.isDigit] at hc ⊢
    grind

/-- An element begins in the same way whether it has a quantifier or not. -/
lemma step_of_opensElement {c : Char} (hc : opensElement c) {q : Quantifier} {s : State} (hs : s.mode.Awaits q) :
    step s c = readElement s q c := by
  have hdigit := not_isDigit_of_opensElement hc
  obtain ⟨groups, level, mode⟩ := s
  cases hs with
  | ready => simp (disch := decide) [step, readReady, isGap, ne_of_test hc, hdigit]
  | quantified => simp (disch := decide) [step, readQuantified, isGap, ne_of_test hc]
  | count n =>
    simp (disch := decide) [step, readCount, readQuantified, isGap, ne_of_test hc, hdigit]

/-! ### Sets -/

/-- The scan stands between two members of a set with the given delimiter, after members of which the last comes first.
A dot that may yet turn out to be one of a range counts as a member. -/
inductive SetScan.Holds (delimiter : Char) : List Member → SetScan → Prop
  | plain (members : List Member) (pending : Option Char) :
      Holds delimiter (pending.toList.map .single ++ members) ⟨delimiter, members, pending, .none⟩
  | dot (members : List Member) (pending : Option Char) :
      Holds delimiter (.single '.' :: (pending.toList.map .single ++ members)) ⟨delimiter, members, pending, .one⟩

section Sets

variable (s : State) (q : Quantifier) (negated : Bool) {delimiter : Char} {done : List Member} {scan : SetScan}

lemma step_inSet (scan : SetScan) (c : Char) :
    step (s.enter (.inSet q negated scan)) c = readSet s q negated scan c := rfl

lemma reads_char (h : scan.Holds delimiter done) {c : Char} (hdot : c ≠ '.') (hc : c ≠ delimiter) :
    step (s.enter (.inSet q negated scan)) c =
      .ok (s.enter (.inSet q negated ⟨delimiter, done, some c, .none⟩)) := by
  rw [step_inSet]
  cases h with
  | plain members pending => simp [readSet, readPlain, hdot, hc, SetScan.push, SetScan.settled]
  | dot members pending => simp [readSet, readPlain, hdot, hc, SetScan.push, SetScan.settled]

/-- One more member is read, unless it is a dot after a dot. -/
lemma reads_member (h : scan.Holds delimiter done) {m : Member} (hd : delimiter ≠ '.') (hm : delimiter ∉ m.spelling)
    (hrange : ∀ last, m ≠ .range '.' last) (hdots : ∀ m' ∈ done.head?, ¬ (m' = .single '.' ∧ m = .single '.')) :
    ∃ scan', SetScan.Holds delimiter (m :: done) scan' ∧
      Reads (s.enter (.inSet q negated scan)) m.spelling (s.enter (.inSet q negated scan')) := by
  cases m with
  | single c =>
    have hc : c ≠ delimiter := by simpa [Member.spelling, eq_comm] using hm
    by_cases hdot : c = '.'
    · subst hdot
      -- the dot is left pending, for it is not known yet whether it begins a range
      cases h with
      | plain members pending =>
        refine ⟨_, .dot members pending, .single ?_⟩
        rw [step_inSet]
        simp [readSet, hc]
      | dot members pending => simp at hdots
    · exact ⟨_, .plain done (some c), .single (reads_char s q negated h hdot hc)⟩
  | range first last =>
    simp only [Member.spelling, List.mem_cons, List.not_mem_nil, or_false, not_or] at hm
    have hfirst : first ≠ '.' := by
      rintro rfl
      exact hrange last rfl
    refine ⟨_, .plain (.range first last :: done) none, .cons (reads_char s q negated h hfirst (Ne.symm hm.1)) ?_⟩
    have hone : step (s.enter (.inSet q negated ⟨delimiter, done, some first, .none⟩)) '.' =
        .ok (s.enter (.inSet q negated ⟨delimiter, done, some first, .one⟩)) := by
      rw [step_inSet]
      simp [readSet, Ne.symm hd]
    have htwo : step (s.enter (.inSet q negated ⟨delimiter, done, some first, .one⟩)) '.' =
        .ok (s.enter (.inSet q negated ⟨delimiter, done, some first, .two⟩)) := by
      rw [step_inSet]
      simp [readSet]
    refine .cons hone (.cons htwo (.single ?_))
    rw [step_inSet]
    simp [readSet, Ne.symm hm.2.2.2]

lemma reads_members (h : scan.Holds delimiter done) (hd : delimiter ≠ '.') {members : List Member}
    (hm : ∀ m ∈ members, delimiter ∉ m.spelling) (hrange : ∀ last, .range '.' last ∉ members)
    (hnext : ∀ m ∈ done.head?, ∀ m' ∈ members.head?, ¬ (m = .single '.' ∧ m' = .single '.'))
    (hdots : members.IsChain fun m m' => ¬ (m = .single '.' ∧ m' = .single '.')) :
    ∃ scan', SetScan.Holds delimiter (members.reverse ++ done) scan' ∧
      Reads (s.enter (.inSet q negated scan)) (members.flatMap Member.spelling) (s.enter (.inSet q negated scan')) := by
  induction members generalizing done scan with
  | nil => exact ⟨scan, h, .refl _⟩
  | cons m members ih =>
    rw [List.forall_mem_cons] at hm
    rw [List.isChain_cons] at hdots
    have hfirst : ∀ last, m ≠ .range '.' last := by
      rintro last rfl
      exact hrange last List.mem_cons_self
    obtain ⟨scan', hscan', hreads⟩ :=
      reads_member s q negated h hd hm.1 hfirst fun m' hm' => hnext m' hm' m rfl
    have hrest : ∀ last, .range '.' last ∉ members := fun last hlast => hrange last (List.mem_cons_of_mem _ hlast)
    obtain ⟨scan'', hscan'', hreads'⟩ := ih hscan' hm.2 hrest (by simpa using hdots.1) hdots.2
    exact ⟨scan'', by simpa using hscan'', hreads.append hreads'⟩

/-- The delimiter ends the set. -/
lemma step_delimiter (h : scan.Holds delimiter done) (hd : delimiter ≠ '.') :
    step (s.enter (.inSet q negated scan)) delimiter = .ok (s.add q (.set (.custom done.reverse) negated)) := by
  rw [step_inSet]
  cases h with
  | plain members pending => simp [readSet, readPlain, hd, SetScan.settled]
  | dot members pending => simp [readSet, readPlain, hd, SetScan.push, SetScan.settled]

end Sets

lemma ofLetter?_of_letter {k : CharClass} {letter c : Char} (hk : k.letter? = some letter)
    (hc : c = letter ∨ c = letter.toLower) : c.isAlpha ∧ c.toUpper ≠ 'D' ∧ CharClass.ofLetter? c = some k := by
  cases k <;> cases hk <;> rcases hc with rfl | rfl <;> decide

/-- A set is read from its letter on. -/
lemma CharSet.Written.reads {chars : CharSet} {text : List Char} (h : chars.Written text) (hchars : chars.Expressible)
    (s : State) (q : Quantifier) (negated : Bool) : ∃ c rest s', text = c :: rest ∧ c.isAlpha ∧
      readSetLetter s q negated c = .ok s' ∧ Reads s' rest (s.add q (.set chars negated)) := by
  cases h with
  | @named k letter c hk hc =>
    obtain ⟨halpha, hD, hletter⟩ := ofLetter?_of_letter hk hc
    exact ⟨c, [], _, rfl, halpha, by simp [readSetLetter, hD, hletter], .refl _⟩
  | @custom members c delimiter hc hdot hmembers =>
    refine ⟨c, _, s.enter (.setOpen q negated), rfl, ?_, ?_, .cons rfl ?_⟩
    · rcases hc with rfl | rfl <;> decide
    · rcases hc with rfl | rfl <;> rfl
    · have hstart : SetScan.Holds delimiter [] ⟨delimiter, [], none, .none⟩ := .plain [] none
      obtain ⟨scan, hscan, hreads⟩ :=
        reads_members s q negated hstart hdot hmembers hchars.1 (by simp) hchars.2
      have hend := step_delimiter s q negated hscan hdot
      rw [List.append_nil, List.reverse_reverse] at hend
      exact hreads.append (.single hend)

/-! ### Literals -/

lemma reads_literal (s : State) (q : Quantifier) {quote : Char} {text : List Char} (h : quote ∉ text)
    (done : List Char) : Reads (s.enter (.inLiteral q quote done)) text
      (s.enter (.inLiteral q quote (text.reverse ++ done))) := by
  induction text generalizing done with
  | nil => exact .refl _
  | cons c text ih =>
    rw [List.mem_cons, not_or] at h
    have hstep : step (s.enter (.inLiteral q quote done)) c = .ok (s.enter (.inLiteral q quote (c :: done))) := by
      simp [step, State.enter, readLiteral, Ne.symm h.1]
    have hrest := ih h.2 (c :: done)
    rw [List.reverse_cons, List.append_assoc]
    exact .cons hstep hrest

/-! ### Whole texts -/

/-- The alternatives as they are spelled: for none at all stands an empty sequence. -/
def Compound.spelled : Compound → List Sequence
  | [] => [[]]
  | alternatives => alternatives

lemma Compound.ofAlternatives_spelled {compound : Compound} (h : compound ≠ [[]]) :
    Compound.ofAlternatives compound.spelled = compound := by
  cases compound with
  | nil => rfl
  | cons items rest =>
    unfold spelled ofAlternatives
    split
    · rename_i heq
      exact absurd heq h
    · rfl

lemma Level.close_eq {level : Level} {compound : Compound} (hne : compound ≠ [[]])
    (h : level.settled = compound.spelled.reverse ++ []) : level.close = compound := by
  rw [Level.close, h, List.append_nil, List.reverse_reverse, Compound.ofAlternatives_spelled hne]

mutual

lemma Element.Written.reads {e : Element} {text : List Char} (h : e.Written text) (he : e.Expressible) {s : State}
    {q : Quantifier} (hs : s.mode.Awaits q) : Reads s text (s.add q e) := by
  cases h with
  | set h =>
    obtain ⟨c, rest, s', rfl, hc, hletter, hreads⟩ := h.reads he s q false
    have hopens : opensElement c := by simp [opensElement, hc]
    refine .cons ?_ hreads
    rw [step_of_opensElement hopens hs, ← hletter]
    simp (disch := decide) [readElement, ne_of_test hc, hc]
  | negated h =>
    obtain ⟨c, rest, s', rfl, hc, hletter, hreads⟩ := h.reads he (s.enter (.minus q)) q true
    have hminus : step s '-' = .ok (s.enter (.minus q)) := by
      rw [step_of_opensElement (by decide) hs]
      simp [readElement]
    exact .cons hminus (.cons hletter hreads)
  | literal text fold =>
    have hopen : step s (quoteMark fold) = .ok (s.enter (.inLiteral q (quoteMark fold) [])) := by
      rw [step_of_opensElement (by cases fold <;> decide) hs]
      cases fold <;> simp [readElement, quoteMark]
    refine .cons hopen ((reads_literal s q he []).append (.single ?_))
    cases fold <;> simp [step, State.enter, readLiteral, quoteMark, State.add]
  | @group alternatives text h =>
    obtain ⟨hne, halternatives⟩ := he
    obtain ⟨level, hlevel, hreads⟩ := h.reads halternatives (⟨s.level, q⟩ :: s.groups) []
    have hclose : level.close = alternatives := Level.close_eq hne hlevel
    have hopen : step s '(' = .ok ⟨⟨s.level, q⟩ :: s.groups, {}, .ready⟩ := by
      rw [step_of_opensElement (by decide) hs]
      rfl
    refine .cons hopen (hreads.append (.single ?_))
    simp [step, readReady, isGap, closeGroup, hclose, State.add]

lemma ItemsWritten.reads {items : List (Quantified Element)} {text : List Char} (h : ItemsWritten items text)
    (hitems : ItemsExpressible items) {s : State} (hs : s.mode = .ready) :
    Reads s text { s with level := { s.level with items := items.reverse ++ s.level.items } } := by
  cases h with
  | nil hgap => exact hgap.reads_ready hs
  | @cons q e items before qtext between etext rest hbefore hq hbetween he hrest =>
    obtain ⟨hqe, hee, hrestItems⟩ := hitems
    obtain ⟨mode, hmode, hreadsq⟩ := hq.reads hqe hs
    obtain ⟨mode', hmode', hreadsgap⟩ := hbetween.reads (s := s.enter mode) hmode
    have hreadse := he.reads hee (s := (s.enter mode).enter mode') hmode'
    have hreadsrest := hrest.reads hrestItems (s := s.add q e) rfl
    have hall := (hbefore.reads_ready hs).append (hreadsq.append (hreadsgap.append (hreadse.append hreadsrest)))
    simpa [State.add, Level.push, hs] using hall

lemma AlternativesWritten.reads {alternatives : List (List (Quantified Element))} {text : List Char}
    (h : AlternativesWritten alternatives text) (halternatives : AlternativesExpressible alternatives)
    (groups : List OpenGroup) (done : List Sequence) : ∃ level : Level,
      level.settled = (Compound.spelled alternatives).reverse ++ done ∧
      Reads ⟨groups, ⟨done, []⟩, .ready⟩ text ⟨groups, level, .ready⟩ := by
  cases h with
  | nil hgap => exact ⟨_, rfl, hgap.reads_ready rfl⟩
  | last h =>
    exact ⟨_, by simp [Level.settled, Compound.spelled], h.reads halternatives.1 rfl⟩
  | @cons items other others text rest h hrest =>
    have hitems := h.reads halternatives.1 (s := ⟨groups, ⟨done, []⟩, .ready⟩) rfl
    obtain ⟨level, hlevel, hreads⟩ := hrest.reads halternatives.2 groups (items :: done)
    refine ⟨level, ?_, hitems.append (.cons ?_ hreads)⟩
    · simp [hlevel, Compound.spelled]
    · simp [step, readReady, isGap, Level.split, Level.settled]

end

/-- Reading what was written gives back what it was written from, whatever the layout. -/
theorem parse_of_written {compound : Compound} {text : List Char} (hc : compound.Expressible)
    (h : compound.Written text) : parse text = .ok compound := by
  obtain ⟨level, hlevel, hreads⟩ := h.reads hc.2 [] []
  have hclose : level.close = compound := Level.close_eq hc.1 hlevel
  have hread : advance {} text = .ok ⟨[], level, .ready⟩ := hreads
  simp [parse, hread, finish, hclose, bind, Except.bind]

/-- Three letters and a character outside a set, or a group that may be empty, or a quoted quotation mark. -/
def sample : Compound :=
  [[⟨.exactly 3, .set (.named .alpha) false⟩, ⟨.once, .set (.custom [.range 'a' '.', .single '.', .single '_']) true⟩],
    [⟨.between 2 15, .group [[], [⟨.once, .set (.named .digit) false⟩]]⟩],
    [⟨.once, .literal ['"'] true⟩]]

lemma sample_expressible : sample.Expressible := by
  refine ⟨by simp [sample], ?_⟩
  simp [sample, AlternativesExpressible, ItemsExpressible, Element.Expressible, CharSet.Expressible,
    Quantifier.Expressible, CharClass.letter?, quoteMark, countLimit, UInt64.size]

/-- The sample as it might be typed, with a blank for the delimiter of the set. -/
def sampleText : List Char :=
  ['3', ' ', 'a', '-', 'D', ' ', 'a', '.', '.', '.', '.', '_', ' ', ' ', '|', '[', '2', ',', '1', '5', ']', '(', '\t',
    '|', 'N', ')', '|', '\x27', '"', '\x27']

theorem sample_of_written :
    sample.Expressible ∧ sample.Written sampleText ∧ parse sampleText = .ok sample := by
  have hgap : Gap [] := by simp [Gap]
  have hset : (CharSet.custom [.range 'a' '.', .single '.', .single '_']).Written
      ['D', ' ', 'a', '.', '.', '.', '.', '_', ' '] :=
    .custom (.inl rfl) (by decide) (by decide)
  have hfirst : ItemsWritten _ _ :=
    .cons hgap (.count 3) (show Gap [' '] by simp [Gap, isGap]) (.set (.named (c := 'a') (k := .alpha) rfl (.inr rfl)))
      (.cons hgap .once hgap (.negated hset) (.nil (show Gap [' '] by simp [Gap, isGap])))
  have hgroup : Element.Written (.group [[], [⟨.once, .set (.named .digit) false⟩]]) ['(', '\t', '|', 'N', ')'] :=
    .group (.cons (.nil (show Gap ['\t'] by simp [Gap, isGap])) (.last
      (.cons hgap .once hgap (.set (.named (k := .digit) (c := 'N') rfl (.inl rfl))) (.nil hgap))))
  have hsecond : ItemsWritten _ _ := .cons hgap (.between 2 15) hgap hgroup (.nil hgap)
  have hthird : ItemsWritten _ _ := .cons hgap .once hgap (.literal ['"'] true) (.nil hgap)
  have hwritten : sample.Written sampleText := .cons hfirst (.cons hsecond (.last hthird))
  exact ⟨sample_expressible, hwritten, parse_of_written sample_expressible hwritten⟩

end PegTrace.Shorthand
