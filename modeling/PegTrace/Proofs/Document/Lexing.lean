import Mathlib
import PegTrace.Document.Rules
import PegTrace.Document.Token
import PegTrace.Proofs.Matching.Framing
import PegTrace.Proofs.Matching.Rounds
import PegTrace.Proofs.Recognition.Recogniser

/-!
# Where the tokens of a document stop

Every rule for tokens is made of runs of characters that pass a test. A run is taken as a whole (`runStop_eq_some_iff`),
so that where a token stops can be told from the text ahead, without repetitions. The rules compute these places
(`computes_token`), and where the rules for numbers and labels fail, the text does not begin with one
(`not_beginsNumber`, `not_beginsLabel`).
-/

namespace PegTrace.Document

open Text

/-! ### Characters -/

/-- Neither a blank nor a slash. -/
def isWordChar (c : Char) : Bool :=
  !isBlank c && c ≠ '/'

/-- A capital letter, a digit, a dash, an underscore or a dollar sign. -/
def isTagChar (c : Char) : Bool :=
  ('A' ≤ c && c ≤ 'Z') || c.isDigit || c = '-' || c = '_' || c = '$'

def isSign (c : Char) : Bool :=
  c = '+' || c = '-'

lemma isDigit_eq (c : Char) : c.isDigit = (decide ('0' ≤ c) && decide (c ≤ '9')) := rfl

lemma accepts_blankTest : blankTest.accepts = isBlank := by
  funext c
  simp [blankTest, CharTest.accepts]

lemma accepts_wordTest : wordTest.accepts = isWordChar := by
  funext c
  simp [wordTest, blankTest, CharTest.accepts, alternating, isWordChar, eq_comm]

lemma accepts_digitTest : (CharTest.range '0' '9').accepts = Char.isDigit := by
  funext c
  simp [CharTest.accepts, isDigit_eq]

lemma accepts_signTest : (CharTest.set ['+', '-']).accepts = isSign := by
  funext c
  simp [CharTest.accepts, isSign]

lemma accepts_slashTest : (CharTest.equals '/').accepts = fun c => decide (c = '/') := by
  funext c
  simp [CharTest.accepts, eq_comm]

lemma accepts_tagTest : tagTest.accepts = isTagChar := by
  funext c
  simp [tagTest, CharTest.accepts, isTagChar, isDigit_eq, Bool.or_assoc]

/-! ### Runs -/

/-- What a text holds from a place on. -/
def ahead (text : Array Char) (place : Nat) : List Char :=
  text.toList.drop place

/-- A run of characters that all pass a test stands in front of some others, and does not go on there. -/
structure Leads (holds : Char → Bool) (run rest : List Char) : Prop where
  ne_nil : run ≠ []
  holds_of_mem : ∀ c ∈ run, holds c
  ends : ∀ c ∈ rest.head?, ¬ holds c

variable {text : Array Char} {start stop : Nat} {holds : Char → Bool}

lemma ahead_add {run rest : List Char} (h : ahead text start = run ++ rest) :
    ahead text (start + run.length) = rest := by
  rw [ahead, ← List.drop_drop]
  exact (congrArg (List.drop run.length) h).trans List.drop_left

lemma ahead_succ {c : Char} {rest : List Char} (h : ahead text start = c :: rest) : ahead text (start + 1) = rest :=
  ahead_add (show ahead text start = [c] ++ rest from h)

lemma head?_ahead (text : Array Char) (place : Nat) : (ahead text place).head? = text[place]? := by
  simp [ahead]

/-- Where a run stops that begins at a place. -/
def runStop (text : Array Char) (holds : Char → Bool) : Recogniser := fun start =>
  let run := (ahead text start).takeWhile holds
  if run = [] then none else some (start + run.length)

lemma takeWhile_eq_nil_iff_head? {l : List Char} : l.takeWhile holds = [] ↔ ∀ c ∈ l.head?, ¬ holds c := by
  cases l with
  | nil => simp
  | cons c l => by_cases hc : holds c <;> simp [hc]

lemma leads_takeWhile {l : List Char} (h : l.takeWhile holds ≠ []) :
    Leads holds (l.takeWhile holds) (l.dropWhile holds) where
  ne_nil := h
  holds_of_mem _ hc := List.mem_takeWhile_imp hc
  ends c hc := by
    have hnot := List.head?_dropWhile_not holds l
    rw [Option.mem_def.1 hc] at hnot
    simp [hnot]

lemma Leads.takeWhile_eq {run rest : List Char} (h : Leads holds run rest) : (run ++ rest).takeWhile holds = run := by
  rw [List.takeWhile_append_of_pos h.holds_of_mem, takeWhile_eq_nil_iff_head?.2 h.ends, List.append_nil]

lemma runStop_eq_some_iff : runStop text holds start = some stop ↔
    ∃ run, ahead text start = run ++ ahead text stop ∧ stop = start + run.length ∧
      Leads holds run (ahead text stop) := by
  have hsplit : ahead text start = (ahead text start).takeWhile holds ++ (ahead text start).dropWhile holds :=
    List.takeWhile_append_dropWhile.symm
  constructor
  · intro h
    simp only [runStop] at h
    split at h
    · cases h
    · rename_i hne
      cases h
      rw [ahead_add hsplit]
      exact ⟨_, hsplit, rfl, leads_takeWhile hne⟩
  · rintro ⟨run, hrun, rfl, hleads⟩
    have htake : (ahead text start).takeWhile holds = run := by rw [hrun, hleads.takeWhile_eq]
    simp [runStop, htake, hleads.ne_nil]

lemma runStop_eq_none_iff : runStop text holds start = none ↔ ∀ c ∈ (ahead text start).head?, ¬ holds c := by
  rw [← takeWhile_eq_nil_iff_head?]
  simp [runStop]

lemma single_of_ahead_eq_nil (h : ahead text start = []) : Recogniser.single text text.size holds start = none := by
  have hnone : text[start]? = none := by rw [← head?_ahead, h, List.head?_nil]
  simp only [Recogniser.single, hnone]

lemma single_of_ahead_eq_cons {c : Char} {rest : List Char} (h : ahead text start = c :: rest) :
    Recogniser.single text text.size holds start = if holds c then some (start + 1) else none := by
  have hc : text[start]? = some c := by rw [← head?_ahead, h, List.head?_cons]
  have hsize : start < text.size := (Array.getElem?_eq_some_iff.1 hc).1
  simp only [Recogniser.single, hc, hsize, true_and]

lemma single_eq_some (h : Recogniser.single text text.size holds start = some stop) :
    ∃ c, ahead text start = c :: ahead text stop ∧ stop = start + 1 ∧ holds c := by
  cases hahead : ahead text start with
  | nil =>
    rw [single_of_ahead_eq_nil hahead] at h
    cases h
  | cons c rest =>
    rw [single_of_ahead_eq_cons hahead] at h
    split at h
    · rename_i hc
      cases h
      exact ⟨c, by rw [ahead_succ hahead], rfl, hc⟩
    · cases h

/-- Repeating a single character takes the whole run. -/
lemma star_single (text : Array Char) (holds : Char → Bool) (start : Nat) :
    Recogniser.star (.single text text.size holds) text.size start =
      some (start + ((ahead text start).takeWhile holds).length) := by
  generalize hrest : ahead text start = rest
  induction rest generalizing start with
  | nil =>
    rw [Recogniser.star]
    simp [single_of_ahead_eq_nil hrest]
  | cons c rest ih =>
    have hnext : ahead text (start + 1) = rest := ahead_succ hrest
    -- the repetition asks that the place it comes to lies within the text
    have hsize : start + 1 ≤ text.size := by
      have := congrArg List.length hrest
      simp [ahead] at this
      omega
    rw [Recogniser.star, single_of_ahead_eq_cons hrest]
    by_cases hc : holds c
    · simp only [hc, if_true, List.takeWhile_cons, ih _ hnext, hsize]
      simp
      omega
    · simp [hc]

lemma oneOrMore_single (text : Array Char) (holds : Char → Bool) :
    Recogniser.andThen (.single text text.size holds) (Recogniser.star (.single text text.size holds) text.size) =
      runStop text holds := by
  funext start
  cases hrest : ahead text start with
  | nil => simp [Recogniser.andThen, runStop, hrest, single_of_ahead_eq_nil hrest]
  | cons c rest =>
    have hnext : ahead text (start + 1) = rest := ahead_succ hrest
    rw [Recogniser.andThen, single_of_ahead_eq_cons hrest]
    by_cases hc : holds c
    · simp [runStop, hrest, hc, star_single, hnext]
      omega
    · simp [runStop, hrest, hc]

/-! ### Rules -/

section Rules

variable {g : Grammar Char} {steps : Nat}

lemma computes_runOf (hsteps : text.size < steps) (test : CharTest Char) :
    (g.run text steps (runOf test)).Computes text.size (runStop text test.accepts) := by
  rw [← oneOrMore_single]
  exact Grammar.computes_collapse (Grammar.computes_oneOrMore (Grammar.computes_literal test) hsteps)

/-- Where a number stops: after its digits, which stand behind the sign if there is one. -/
def numberStop (text : Array Char) : Recogniser :=
  ((Recogniser.single text text.size isSign).orElse some).andThen (runStop text Char.isDigit)

/-- Where a label stops: after its tag, which stands behind a slash. -/
def labelStop (text : Array Char) : Recogniser :=
  (runStop text isWordChar).andThen
    ((Recogniser.single text text.size (· = '/')).andThen (runStop text isTagChar))

/-- Where a token stops. -/
def tokenStop (text : Array Char) : Recogniser :=
  (runStop text isBlank).orElse ((labelStop text).orElse ((numberStop text).orElse (runStop text isWordChar)))

lemma computes_whitespace (hsteps : text.size < steps) :
    (g.run text steps whitespace).Computes text.size (runStop text isBlank) := by
  rw [← accepts_blankTest]
  exact computes_runOf hsteps blankTest

lemma computes_word (hsteps : text.size < steps) :
    (g.run text steps word).Computes text.size (runStop text isWordChar) := by
  rw [← accepts_wordTest]
  exact computes_runOf hsteps wordTest

lemma computes_tag (hsteps : text.size < steps) :
    (g.run text steps (runOf tagTest)).Computes text.size (runStop text isTagChar) := by
  rw [← accepts_tagTest]
  exact computes_runOf hsteps tagTest

lemma computes_number (hsteps : text.size < steps) :
    (g.run text steps number).Computes text.size (numberStop text) := by
  have hsign : (g.run text steps (.oneOf ['+', '-'])).Computes text.size (.single text text.size isSign) := by
    rw [← accepts_signTest]
    exact Grammar.computes_literal _
  have hdigits : (g.run text steps (runOf (.range '0' '9'))).Computes text.size (runStop text Char.isDigit) := by
    rw [← accepts_digitTest]
    exact computes_runOf hsteps _
  exact Grammar.computes_concat_cons (Grammar.computes_optional hsign) (Grammar.computes_concat_singleton hdigits)

lemma computes_slash : (g.run text steps (.one '/')).Computes text.size (.single text text.size (· = '/')) := by
  rw [← accepts_slashTest]
  exact Grammar.computes_literal _

lemma computes_label (hsteps : text.size < steps) :
    (g.run text steps label).Computes text.size (labelStop text) :=
  Grammar.computes_concat_cons (computes_word hsteps)
    (Grammar.computes_concat_cons computes_slash (Grammar.computes_concat_singleton (computes_tag hsteps)))

lemma computes_token (hsteps : text.size < steps) :
    (g.run text steps token).Computes text.size (tokenStop text) :=
  Grammar.computes_choice_cons (computes_whitespace hsteps) (Grammar.computes_choice_cons (computes_label hsteps)
    (Grammar.computes_choice_cons (computes_number hsteps) (Grammar.computes_choice_singleton (computes_word hsteps))))

end Rules

/-! ### Numbers and labels -/

/-- The text begins with a digit, which may have a sign. -/
def BeginsNumber (l : List Char) : Prop :=
  ∃ sign digit rest, l = sign ++ digit :: rest ∧ (sign = [] ∨ sign = ['+'] ∨ sign = ['-']) ∧ digit.isDigit

/-- The text begins with a word, a slash and a character of a tag. -/
def BeginsLabel (l : List Char) : Prop :=
  ∃ word c rest, l = word ++ '/' :: c :: rest ∧ word ≠ [] ∧ (∀ d ∈ word, isWordChar d) ∧ isTagChar c

/-- A sign is passed over if there is one. -/
lemma signStop_eq_some {middle : Nat}
    (h : (Recogniser.single text text.size isSign).orElse some start = some middle) :
    ∃ sign, ahead text start = sign ++ ahead text middle ∧ middle = start + sign.length ∧
      (sign = [] ∨ sign = ['+'] ∨ sign = ['-']) := by
  rcases Option.or_eq_some_iff.1 h with h | ⟨_, h⟩
  · obtain ⟨c, hahead, hstop, hsign⟩ := single_eq_some h
    exact ⟨[c], hahead, hstop, .inr (by simpa [isSign] using hsign)⟩
  · cases h
    exact ⟨[], rfl, rfl, .inl rfl⟩

lemma numberStop_eq_some (h : numberStop text start = some stop) :
    ∃ sign digits, ahead text start = sign ++ digits ++ ahead text stop ∧ stop = start + (sign ++ digits).length ∧
      (sign = [] ∨ sign = ['+'] ∨ sign = ['-']) ∧ Leads Char.isDigit digits (ahead text stop) := by
  obtain ⟨middle, hmiddle, h⟩ := Option.bind_eq_some_iff.1 h
  obtain ⟨sign, hsign, rfl, hkind⟩ := signStop_eq_some hmiddle
  obtain ⟨digits, hdigits, hstop, hleads⟩ := runStop_eq_some_iff.1 h
  refine ⟨sign, digits, ?_, ?_, hkind, hleads⟩
  · rw [hsign, hdigits, List.append_assoc]
  · rw [hstop, List.length_append, Nat.add_assoc]

lemma not_beginsNumber (h : numberStop text start = none) : ¬ BeginsNumber (ahead text start) := by
  rintro ⟨sign, digit, rest, hahead, hsign, hdigit⟩
  -- the sign is there or it is not, and in either way what comes next is the digit
  have hmiddle : (Recogniser.single text text.size isSign).orElse some start = some (start + sign.length) := by
    rcases hsign with rfl | rfl | rfl
    · -- without a sign the digit itself is tried as one
      have hnot : ¬ isSign digit := by
        rw [isSign, Bool.or_eq_true, decide_eq_true_eq, decide_eq_true_eq]
        rintro (rfl | rfl)
        · cases hdigit
        · cases hdigit
      simp [Recogniser.orElse, single_of_ahead_eq_cons hahead, hnot]
    · simp [Recogniser.orElse, single_of_ahead_eq_cons hahead, isSign]
    · simp [Recogniser.orElse, single_of_ahead_eq_cons hahead, isSign]
  rw [numberStop, Recogniser.andThen, hmiddle, Option.bind_some, runStop_eq_none_iff, ahead_add hahead] at h
  exact h digit rfl hdigit

lemma not_beginsLabel (h : labelStop text start = none) : ¬ BeginsLabel (ahead text start) := by
  rintro ⟨word, c, rest, hahead, hne, hword, htag⟩
  have hslash : ahead text (start + word.length) = '/' :: c :: rest := ahead_add hahead
  have hrun : runStop text isWordChar start = some (start + word.length) := by
    rw [runStop_eq_some_iff]
    refine ⟨word, by rw [hahead, hslash], rfl, hne, hword, ?_⟩
    simp [hslash, isWordChar]
  have hnext : ahead text (start + word.length + 1) = c :: rest := ahead_succ hslash
  have htagnone : runStop text isTagChar (start + word.length + 1) = none := by
    simpa [labelStop, Recogniser.andThen, hrun, single_of_ahead_eq_cons hslash] using h
  rw [runStop_eq_none_iff, hnext] at htagnone
  exact htagnone c rfl htag

end PegTrace.Document
