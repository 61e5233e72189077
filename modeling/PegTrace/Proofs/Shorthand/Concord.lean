import PegTrace.Proofs.Shorthand.Descent
import PegTrace.Proofs.Shorthand.Writing

/-!
# Reading by descent and reading character by character

Reading shorthand by descent gives what reading it character by character gives, faults included
(`Descent.read_whole`). For each kind of phrase there is a state of the reader in which the phrase may begin, and a
state in which it is left when the phrase has been read; what is made of the whole text is the same from either. With
it, reading by descent makes progress until nothing is left of the text (`descent_progresses`).
-/

namespace PegTrace.Shorthand

/-! ### From a state on -/

/-- What is read if the text goes on from the state. -/
def readOn (s : State) (text : List Char) : Except Fault Compound :=
  advance s text >>= finish

section ReadOn

variable {s s' : State} {c : Char} {fault : Fault} {text : List Char}

lemma readOn_nil (s : State) : readOn s [] = finish s := rfl

lemma readOn_cons (s : State) (c : Char) (text : List Char) :
    readOn s (c :: text) = step s c >>= fun s' => readOn s' text := by
  rw [readOn, advance, List.foldlM_cons]
  cases step s c <;> rfl

lemma readOn_cons_of_ok (h : step s c = .ok s') (text : List Char) : readOn s (c :: text) = readOn s' text := by
  rw [readOn_cons, h]
  rfl

lemma readOn_cons_of_error (h : step s c = .error fault) (text : List Char) :
    readOn s (c :: text) = .error fault := by
  rw [readOn_cons, h]
  rfl

lemma Reads.readOn_append (h : Reads s text s') (rest : List Char) : readOn s (text ++ rest) = readOn s' rest := by
  unfold Reads advance at h
  rw [readOn, advance, List.foldlM_append, h]
  rfl

/-- Blanks that change nothing may be left out. -/
lemma readOn_gap (hgap : ∀ c, isGap c → step s c = .ok s) (text : List Char) :
    readOn s text = readOn s (text.dropWhile isGap) := by
  induction text with
  | nil => rfl
  | cons c text ih =>
    by_cases hc : isGap c
    · rw [List.dropWhile_cons_of_pos hc, readOn_cons_of_ok (hgap c hc), ih]
    · rw [List.dropWhile_cons_of_neg hc]

end ReadOn

namespace Descent

variable {β γ : Type} {s : State} {c : Char} {text rest : List Char} {outcome : Except Fault Compound}

/-- Reading by descent comes to the given outcome of the whole text, if that is found by reading character by character
from here: it meets the fault that the outcome is, or it leaves a rest of the text and there is a state, in the given
relation to what was read, from which the rest is read to that outcome. -/
def LeadsTo (p : Descent β) (text : List Char) (outcome : Except Fault Compound)
    (post : β → List Char → State → Prop) : Prop :=
  p.Ends text fun
    | .ok x, rest => ∃ s, post x rest s ∧ outcome = readOn s rest
    | .error fault, _ => outcome = .error fault

namespace LeadsTo

variable {p : Descent β} {f : β → Descent γ} {post : β → List Char → State → Prop}
  {post' : γ → List Char → State → Prop}

lemma pure {x : β} (h : post x text s) : LeadsTo (pure x) text (readOn s text) post :=
  Ends.pure ⟨s, h, rfl⟩

lemma throw (fault : Fault) : LeadsTo (throw fault) text (.error fault) post :=
  Ends.throw rfl

lemma bind (h : LeadsTo p text outcome post)
    (hf : ∀ x rest s, rest <:+ text → post x rest s → LeadsTo (f x) rest (readOn s rest) post') :
    LeadsTo (p >>= f) text outcome post' := by
  refine Ends.bind h (fun x rest hrest hx => ?_) fun fault rest hfault => hfault
  obtain ⟨s, hpost, rfl⟩ := hx
  exact hf x rest s hrest hpost

lemma peek {f : Option Char → Descent γ} (h : LeadsTo (f text.head?) text outcome post') :
    LeadsTo (peek >>= f) text outcome post' := h

lemma next {f : Option Char → Descent γ} (h : LeadsTo (f text.head?) text.tail outcome post') :
    LeadsTo (next >>= f) text outcome post' := Ends.next h

lemma takeWhile {test : Char → Bool} {f : List Char → Descent γ}
    (h : LeadsTo (f (text.takeWhile test)) (text.dropWhile test) outcome post') :
    LeadsTo (takeWhile test >>= f) text outcome post' := Ends.takeWhile h

lemma ofExcept {r : Except Fault β} {f : β → State} (h : ∀ x, post x text (f x)) :
    LeadsTo (ofExcept r) text (f <$> r >>= fun s => readOn s text) post := by
  refine Ends.ofExcept ?_
  cases r with
  | error fault => rfl
  | ok x => exact ⟨f x, h x, rfl⟩

end LeadsTo

/-! ### Numbers -/

/-- The first digit of a number is read from the state, and the others within the mode `number`. -/
structure TakesDigits (s : State) (number : Nat → Mode) : Prop where
  first (c : Char) (hc : c.isDigit) : step s c = (fun m => s.enter (number m)) <$> appendDigit 0 c
  later (n : Nat) (c : Char) (hc : c.isDigit) :
    step (s.enter (number n)) c = (fun m => s.enter (number m)) <$> appendDigit n c

lemma takesDigits_count (hs : s.mode = .ready) : TakesDigits s .count where
  first c hc := by simp (disch := decide) [step, hs, readReady, isGap, ne_of_test hc, hc]
  later n c hc := by simp [step, State.enter, readCount, hc]

lemma takesDigits_opened (s : State) : TakesDigits (s.enter (.bounds .opened)) fun n => .bounds (.first n) where
  first c hc := by simp (disch := decide) [step, State.enter, readBounds, ne_of_test hc, hc]
  later n c hc := by simp (disch := decide) [step, State.enter, readBounds, ne_of_test hc, hc]

lemma takesDigits_comma (s : State) (least : Option Nat) :
    TakesDigits (s.enter (.bounds (.comma least))) fun n => .bounds (.second least n) where
  first c hc := by simp (disch := decide) [step, State.enter, readBounds, ne_of_test hc, hc]
  later n c hc := by simp (disch := decide) [step, State.enter, readBounds, ne_of_test hc, hc]

/-- Digits make a number, unless it grows too large. -/
lemma TakesDigits.readOn_digits {number : Nat → Mode} (h : TakesDigits s number) {n : Nat} (hn : n < countLimit)
    (text : List Char) :
    readOn (s.enter (number n)) text =
      if Nat.ofDigitChars 10 (text.takeWhile Char.isDigit) n < countLimit then
        readOn (s.enter (number (Nat.ofDigitChars 10 (text.takeWhile Char.isDigit) n))) (text.dropWhile Char.isDigit)
      else .error .invalidNumber := by
  induction text generalizing n with
  | nil => exact (if_pos hn).symm
  | cons c text ih =>
    by_cases hc : c.isDigit
    · rw [List.takeWhile_cons_of_pos hc, List.dropWhile_cons_of_pos hc, Nat.ofDigitChars_cons, readOn_cons,
        h.later n c hc]
      by_cases hm : 10 * n + (c.toNat - '0'.toNat) < countLimit
      · rw [appendDigit_eq_ok hm]
        exact ih hm
      · have hall := fun h => hm ((le_ofDigitChars (text.takeWhile Char.isDigit) _).trans_lt h)
        rw [if_neg hall, appendDigit, if_neg hm]
        rfl
    · rw [List.takeWhile_cons_of_neg hc, List.dropWhile_cons_of_neg hc]
      exact (if_pos hn).symm

lemma not_of_mem_head?_dropWhile {test : Char → Bool} {c : Char} (hc : c ∈ (text.dropWhile test).head?) :
    ¬ test c := by
  have h := List.head?_dropWhile_not test text
  rw [hc] at h
  simpa using h

lemma number_leadsTo {number : Nat → Mode} (h : TakesDigits s number)
    (hnone : (∀ c ∈ text.head?, ¬ c.isDigit) → readOn s text = .error .invalidNumber) :
    LeadsTo Descent.number text (readOn s text) fun n rest s' =>
      s' = s.enter (number n) ∧ ∀ c ∈ rest.head?, ¬ c.isDigit := by
  unfold Descent.number
  refine .takeWhile ?_
  by_cases hdigits : text.takeWhile Char.isDigit = []
  · -- there is no digit to begin with
    rw [hnone, if_neg fun h => h.1 hdigits]
    · exact .throw _
    · intro c hc hdigit
      obtain ⟨text, rfl⟩ := List.head?_eq_some_iff.1 hc
      rw [List.takeWhile_cons_of_pos hdigit] at hdigits
      cases hdigits
  · have hread : readOn s text = readOn (s.enter (number 0)) text := by
      cases text with
      | nil => exact absurd rfl hdigits
      | cons c text =>
        have hc : c.isDigit := by
          by_contra hc
          exact hdigits (List.takeWhile_cons_of_neg hc)
        rw [readOn_cons, readOn_cons, h.first c hc, h.later 0 c hc]
    rw [hread, h.readOn_digits (by decide)]
    by_cases hlt : Nat.ofDigitChars 10 (text.takeWhile Char.isDigit) 0 < countLimit
    · rw [if_pos hlt, if_pos ⟨hdigits, hlt⟩]
      exact .pure ⟨rfl, fun c => not_of_mem_head?_dropWhile⟩
    · rw [if_neg hlt, if_neg fun h => hlt h.2]
      exact .throw _

/-- Bounds begin with a number or with one of the marks. -/
lemma bound_leadsTo {marks : List Char} {number : Nat → Mode} (h : TakesDigits s number)
    (hnone : (∀ c ∈ text.head?, c ∉ marks ∧ ¬ c.isDigit) → readOn s text = .error .invalidNumber) :
    LeadsTo (bound marks) text (readOn s text) fun n rest s' =>
      match n with
      | none => s' = s ∧ ∃ c ∈ rest.head?, c ∈ marks
      | some n => s' = s.enter (number n) ∧ ∀ c ∈ rest.head?, ¬ c.isDigit := by
  unfold bound
  refine .peek ?_
  split_ifs with hmark
  · obtain ⟨c, hc, hmark⟩ := (Option.any_eq_true _ _).1 hmark
    exact .pure ⟨rfl, c, hc, of_decide_eq_true hmark⟩
  · have hmarks : ∀ c ∈ text.head?, c ∉ marks := fun c hc hmem =>
      hmark ((Option.any_eq_true _ _).2 ⟨c, hc, decide_eq_true hmem⟩)
    refine (number_leadsTo h fun hdigit => ?_).bind fun n rest s' _ hs => .pure hs
    exact hnone fun c hc => ⟨hmarks c hc, hdigit c hc⟩

/-! ### Quantifiers -/

/-- After the comma of bounds. -/
lemma most_leadsTo (least : Option Nat) (text : List Char) :
    LeadsTo
      (do
        let most ← bound [']']
        if (← next) = some ']' then ofExcept (boundsQuantifier least most) else throw .invalidBounds)
      text (readOn (s.enter (.bounds (.comma least))) text) fun q _ s' => s' = s.enter (.quantified q) := by
  refine (bound_leadsTo (takesDigits_comma s least) fun hnone => ?_).bind fun most rest s' _ hs' => .next ?_
  · cases text with
    | nil => rfl
    | cons c text =>
      obtain ⟨hc, hdigit⟩ := hnone c rfl
      refine readOn_cons_of_error ?_ text
      have hc : c ≠ ']' := by simpa using hc
      simp [step, State.enter, readBounds, hc, hdigit]
  · have hclose : step s' ']' = (fun q => s.enter (.quantified q)) <$> boundsQuantifier least most := by
      cases most <;> (rw [hs'.1]; simp [step, State.enter, readBounds])
    have hother : rest.head? ≠ some ']' → readOn s' rest = .error .invalidBounds := by
      intro hne
      cases most with
      | none =>
        -- no number was read because the bracket comes next
        obtain ⟨-, c, hc, hmem⟩ := hs'
        exact absurd (hc.trans (congrArg some (List.mem_singleton.1 hmem))) hne
      | some m =>
        rw [hs'.1]
        cases rest with
        | nil => rfl
        | cons c rest =>
          have hc : c ≠ ']' := fun hc => hne (congrArg some hc)
          have hdigit := hs'.2 c rfl
          refine readOn_cons_of_error ?_ rest
          simp [step, State.enter, readBounds, hc, hdigit]
    by_cases hhead : rest.head? = some ']'
    · obtain ⟨later, rfl⟩ := List.head?_eq_some_iff.1 hhead
      rw [if_pos hhead, readOn_cons, hclose]
      exact .ofExcept fun _ => rfl
    · rw [if_neg hhead, hother hhead]
      exact .throw _

lemma bounds_leadsTo (text : List Char) :
    LeadsTo bounds text (readOn (s.enter (.bounds .opened)) text) fun q _ s' => s' = s.enter (.quantified q) := by
  unfold bounds
  refine (bound_leadsTo (takesDigits_opened s) fun hnone => ?_).bind fun least rest s' _ hs' => .next ?_
  · cases text with
    | nil => rfl
    | cons c text =>
      obtain ⟨hc, hdigit⟩ := hnone c rfl
      refine readOn_cons_of_error ?_ text
      obtain ⟨hcomma, hclose⟩ : c ≠ ',' ∧ c ≠ ']' := by simpa using hc
      simp [step, State.enter, readBounds, hcomma, hclose, hdigit]
  · split
    · rename_i hhead
      obtain ⟨later, rfl⟩ := List.head?_eq_some_iff.1 hhead
      cases least with
      | none =>
        have hstep : step s' ']' = .error .invalidBounds := by
          rw [hs'.1]
          rfl
        rw [readOn_cons_of_error hstep]
        exact .throw _
      | some n =>
        have hstep : step s' ']' = .ok (s.enter (.quantified (.exactly n))) := by
          rw [hs'.1]
          rfl
        rw [readOn_cons_of_ok hstep]
        exact .pure rfl
    · rename_i hhead
      obtain ⟨later, rfl⟩ := List.head?_eq_some_iff.1 hhead
      have hcomma : step s' ',' = .ok (s.enter (.bounds (.comma least))) := by
        cases least <;> (rw [hs'.1]; rfl)
      rw [readOn_cons_of_ok hcomma]
      exact most_leadsTo least later
    · rename_i hclose hcomma
      have hother : readOn s' rest = .error .invalidBounds := by
        cases least with
        | none =>
          obtain ⟨-, c, hc, hmem⟩ := hs'
          rcases List.mem_pair.1 hmem with rfl | rfl
          · exact absurd hc hcomma
          · exact absurd hc hclose
        | some n =>
          rw [hs'.1]
          cases rest with
          | nil => rfl
          | cons c rest =>
            have hnc : c ≠ ',' := fun hc => hcomma (congrArg some hc)
            have hnb : c ≠ ']' := fun hc => hclose (congrArg some hc)
            have hdigit := hs'.2 c rfl
            refine readOn_cons_of_error ?_ rest
            simp [step, State.enter, readBounds, hnc, hnb, hdigit]
      rw [hother]
      exact .throw _

/-- A bare number that has come to its end is a quantifier. -/
lemma readOn_count (s : State) (n : Nat) (h : ∀ c ∈ text.head?, ¬ c.isDigit) :
    readOn (s.enter (.count n)) text = readOn (s.enter (.quantified (.exactly n))) text := by
  cases text with
  | nil => rfl
  | cons c text =>
    have hstep : step (s.enter (.count n)) c = step (s.enter (.quantified (.exactly n))) c := by
      change readCount (s.enter (.count n)) n c = _
      rw [readCount, if_neg (h c rfl)]
      rfl
    rw [readOn_cons, readOn_cons, hstep]

/-- A quantifier may begin with the character. -/
def opensQuantifier (c : Char) : Bool :=
  c = '*' || c = '+' || c = '?' || c = '[' || c.isDigit

lemma quantifier_leadsTo (hs : s.mode = .ready) (text : List Char) :
    LeadsTo quantifier text (readOn s text) fun q rest s' =>
      match q with
      | none => s' = s ∧ rest = text ∧ ∀ c ∈ text.head?, ¬ opensQuantifier c
      | some q => s' = s.enter (.quantified q) := by
  unfold quantifier
  refine .peek ?_
  cases text with
  | nil => exact .pure ⟨rfl, rfl, nofun⟩
  | cons c text =>
    dsimp only [List.head?_cons]
    split_ifs with hstar hplus hquestion hbracket hdigit
    · have hstep : step s '*' = .ok (s.enter (.quantified .zeroOrMore)) := by simp [step, hs, readReady, isGap]
      rw [hstar, readOn_cons_of_ok hstep]
      exact .next (.pure rfl)
    · have hstep : step s '+' = .ok (s.enter (.quantified .oneOrMore)) := by simp [step, hs, readReady, isGap]
      rw [hplus, readOn_cons_of_ok hstep]
      exact .next (.pure rfl)
    · have hstep : step s '?' = .ok (s.enter (.quantified .optional)) := by simp [step, hs, readReady, isGap]
      rw [hquestion, readOn_cons_of_ok hstep]
      exact .next (.pure rfl)
    · have hstep : step s '[' = .ok (s.enter (.bounds .opened)) := by simp [step, hs, readReady, isGap]
      rw [hbracket, readOn_cons_of_ok hstep]
      exact .next ((bounds_leadsTo text).bind fun q rest s' _ hs' => .pure hs')
    · refine (number_leadsTo (takesDigits_count hs) fun hnot => ?_).bind fun n rest s' _ hs' => ?_
      · exact absurd hdigit (hnot c rfl)
      · rw [hs'.1, readOn_count s n hs'.2]
        exact .pure rfl
    · refine .pure ⟨rfl, rfl, ?_⟩
      rintro d ⟨⟩
      simp [opensQuantifier, *]

/-! ### Elements -/

section Sets

variable {q : Quantifier} {negated : Bool} {scan : SetScan}

/-- A dot that turns out to stand by itself is read like any other character. -/
lemma readOn_dot (h : text.head? ≠ some '.') :
    readOn (s.enter (.inSet q negated { scan with dots := .one })) text =
      readOn (s.enter (.inSet q negated (scan.push '.'))) text := by
  cases text with
  | nil => rfl
  | cons c text =>
    have hc : c ≠ '.' := fun hc => h (congrArg some hc)
    have hstep : readSet s q negated { scan with dots := .one } c = readSet s q negated (scan.push '.') c := by
      simp [readSet, SetScan.push, SetScan.settled, hc]
    rw [readOn_cons, readOn_cons, step_inSet, step_inSet]
    exact congrArg (· >>= fun s' => readOn s' text) hstep

/-- Where no dot of a range is waiting, the next character is the delimiter, a dot, or a member. -/
lemma step_inSet_of_none (s : State) (q : Quantifier) (negated : Bool) (hscan : scan.dots = .none) (c : Char) :
    step (s.enter (.inSet q negated scan)) c =
      if c = scan.delimiter then .ok (s.add q (.set (.custom scan.settled.reverse) negated))
      else if c = '.' then .ok (s.enter (.inSet q negated { scan with dots := .one }))
      else .ok (s.enter (.inSet q negated (scan.push c))) := by
  rw [step_inSet, readSet, hscan]
  split_ifs <;> simp_all [readPlain]

/-- After two dots, a character ends the range, unless it is the delimiter. -/
lemma step_range (s : State) (q : Quantifier) (negated : Bool) (scan : SetScan) (last : Char) :
    step (s.enter (.inSet q negated { scan with dots := .two })) last =
      if last = scan.delimiter then .error .unclosedSet else .ok (s.enter (.inSet q negated (scan.range last))) := rfl

lemma readOn_dots (s : State) (q : Quantifier) (negated : Bool) (hscan : scan.dots = .none)
    (hdot : '.' ≠ scan.delimiter) (text : List Char) :
    readOn (s.enter (.inSet q negated scan)) ('.' :: '.' :: text) =
      readOn (s.enter (.inSet q negated { scan with dots := .two })) text := by
  have hone : step (s.enter (.inSet q negated scan)) '.' =
      .ok (s.enter (.inSet q negated { scan with dots := .one })) := by
    rw [step_inSet_of_none s q negated hscan, if_neg hdot, if_pos rfl]
  have htwo : step (s.enter (.inSet q negated { scan with dots := .one })) '.' =
      .ok (s.enter (.inSet q negated { scan with dots := .two })) := rfl
  rw [readOn_cons_of_ok hone, readOn_cons_of_ok htwo]

/-- Where no dot of a range is waiting, the members are those up to the delimiter. -/
lemma readOn_inSet (s : State) (q : Quantifier) (negated : Bool) (hscan : scan.dots = .none) (text : List Char) :
    readOn (s.enter (.inSet q negated scan)) text =
      match scan.readMembers text with
      | (.ok members, rest) => readOn (s.add q (.set (.custom members) negated)) rest
      | (.error fault, _) => .error fault := by
  fun_induction SetScan.readMembers scan text with
  | case1 => rfl
  | case2 scan rest =>
    exact readOn_cons_of_ok ((step_inSet_of_none s q negated hscan _).trans (if_pos rfl)) rest
  | case3 scan hdot => exact readOn_dots s q negated hscan hdot []
  | case4 scan rest hdot =>
    rw [readOn_dots s q negated hscan hdot]
    exact readOn_cons_of_error ((step_range s q negated scan _).trans (if_pos rfl)) rest
  | case5 scan last rest hlast hdot ih =>
    rw [readOn_dots s q negated hscan hdot, ← ih rfl]
    exact readOn_cons_of_ok ((step_range s q negated scan last).trans (if_neg hlast)) rest
  | case6 scan rest hend hrange hdot ih =>
    have hstep := step_inSet_of_none s q negated hscan '.'
    rw [if_neg hdot, if_pos rfl] at hstep
    rw [readOn_cons_of_ok hstep, readOn_dot, ih rfl]
    intro hhead
    obtain ⟨_ | ⟨last, rest⟩, rfl⟩ := List.head?_eq_some_iff.1 hhead
    · exact hend rfl
    · exact hrange last rest rfl
  | case7 scan c rest hc hdot ih =>
    have hstep := step_inSet_of_none s q negated hscan c
    rw [if_neg hc, if_neg hdot] at hstep
    rw [readOn_cons_of_ok hstep, ih rfl]

lemma members_leadsTo (s : State) (q : Quantifier) (negated : Bool) (hscan : scan.dots = .none) (text : List Char) :
    LeadsTo (members scan) text (readOn (s.enter (.inSet q negated scan)) text) fun members _ s' =>
      s' = s.add q (.set (.custom members) negated) := by
  refine ⟨_, _, rfl, readMembers_suffix scan text, ?_⟩
  rw [readOn_inSet s q negated hscan]
  obtain ⟨_ | members, rest⟩ := scan.readMembers text
  · rfl
  · exact ⟨_, rfl, rfl⟩

end Sets

/-- A set from its letter on. -/
lemma charSet_leadsTo (q : Quantifier) (negated : Bool)
    (hstep : ∀ c ∈ text.head?, step s c = readSetLetter s q negated c)
    (hnil : text = [] → finish s = .error .unexpectedEnd) :
    LeadsTo charSet text (readOn s text) fun chars _ s' => s' = s.add q (.set chars negated) := by
  unfold charSet
  refine .next ?_
  cases text with
  | nil =>
    rw [readOn_nil, hnil rfl]
    exact .throw _
  | cons c text =>
    dsimp only [List.head?_cons, List.tail_cons]
    rw [readOn_cons, hstep c rfl, readSetLetter]
    split_ifs with hd
    · refine .next ?_
      cases text with
      | nil => exact .throw _
      | cons delimiter text =>
        exact (members_leadsTo s q negated rfl text).bind fun members rest s' _ hs' => .pure hs'
    · cases CharClass.ofLetter? c with
      | some k => exact .pure rfl
      | none => exact .throw _

/-- A literal after the quotation mark that it begins with. -/
lemma literal_leadsTo (q : Quantifier) (quote : Char) (text : List Char) :
    LeadsTo (literal quote) text (readOn (s.enter (.inLiteral q quote [])) text) fun e _ s' => s' = s.add q e := by
  unfold literal
  have hfront : quote ∉ text.takeWhile (· ≠ quote) := fun h => by simpa using List.mem_takeWhile_imp h
  have hread := (reads_literal s q hfront []).readOn_append (text.dropWhile (· ≠ quote))
  rw [List.takeWhile_append_dropWhile, List.append_nil] at hread
  rw [hread]
  refine .takeWhile (.next ?_)
  cases hdrop : text.dropWhile (· ≠ quote) with
  | nil => exact .throw _
  | cons c rest =>
    have hc : c = quote := by
      have hhead : c ∈ (text.dropWhile (· ≠ quote)).head? := by
        rw [hdrop]
        rfl
      simpa using not_of_mem_head?_dropWhile hhead
    have hstep : step (s.enter (.inLiteral q quote (text.takeWhile (· ≠ quote)).reverse)) c =
        .ok (s.add q (.literal (text.takeWhile (· ≠ quote)) (quote = '\x27'))) := by
      simp [step, State.enter, readLiteral, hc, State.add]
    rw [readOn_cons_of_ok hstep]
    exact .pure rfl

/-- Nothing is left of the text, or the closing parenthesis of a group comes next. -/
def AtClose (rest : List Char) : Prop :=
  ∀ c ∈ rest.head?, c = ')'

/-- The inside of a group, read by descent, is what is read from an empty level. -/
def ReadsInside (inside : Descent Compound) (text : List Char) : Prop :=
  ∀ groups, LeadsTo inside text (readOn ⟨groups, {}, .ready⟩ text) fun alternatives rest s' =>
    ∃ level : Level, s' = ⟨groups, level, .ready⟩ ∧ level.close = alternatives ∧ AtClose rest

lemma close_leadsTo {g : OpenGroup} {groups : List OpenGroup} {level : Level} (h : AtClose rest) :
    LeadsTo (close level.close) rest (readOn ⟨g :: groups, level, .ready⟩ rest) fun e _ s' =>
      s' = State.add ⟨groups, g.outer, .ready⟩ g.quantifier e := by
  unfold close
  refine .next ?_
  cases rest with
  | nil => exact .throw _
  | cons c rest =>
    obtain rfl := h c rfl
    exact .pure rfl

lemma elementBy_leadsTo {inside : Descent Compound} {q : Quantifier}
    (hstep : ∀ c ∈ text.head?, step s c = readElement s q c) (hne : text ≠ [])
    (hinside : ∀ rest : List Char, rest.length < text.length → ReadsInside inside rest) :
    LeadsTo (elementBy inside) text (readOn s text) fun e _ s' => s' = s.add q e := by
  unfold elementBy
  refine .peek ?_
  cases text with
  | nil => exact absurd rfl hne
  | cons c text =>
    have hstep' := hstep c rfl
    dsimp only [List.head?_cons]
    rw [readElement] at hstep'
    split_ifs at hstep' ⊢ with hopen hquote hminus halpha
    · rw [readOn_cons_of_ok hstep']
      refine .next ((hinside text (Nat.lt_succ_self _) _).bind fun alternatives rest s' _ hs' => ?_)
      obtain ⟨level, rfl, rfl, hclose⟩ := hs'
      exact close_leadsTo hclose
    · rw [readOn_cons_of_ok hstep']
      exact .next (literal_leadsTo q c text)
    · rw [readOn_cons_of_ok hstep']
      refine .next ((charSet_leadsTo (s := s.enter (.minus q)) q true ?_ ?_).bind fun chars rest s' _ hs' => .pure hs')
      · exact fun _ _ => rfl
      · exact fun _ => rfl
    · refine (charSet_leadsTo (s := s) q false ?_ ?_).bind fun chars rest s' _ hs' => .pure hs'
      · rintro d ⟨⟩
        exact hstep'
      · exact nofun
    · rw [readOn_cons_of_error hstep']
      exact .throw _

/-! ### Phrases -/

section Items

variable {q : Quantifier}

lemma isTerminator_some_iff {c : Char} : isTerminator (some c) ↔ c = '|' ∨ c = ')' := by
  simp [isTerminator]

/-- There are no blanks where a sequence ends. -/
lemma dropWhile_isGap_of_isTerminator (h : isTerminator text.head?) : text.dropWhile isGap = text := by
  cases text with
  | nil => rfl
  | cons c text =>
    obtain rfl | rfl := isTerminator_some_iff.1 h
    · rfl
    · rfl

/-- Between items, a character that begins neither a quantifier nor anything else begins an element. -/
lemma step_ready_of_element (hs : s.mode = .ready) (hgap : ¬ isGap c) (hend : ¬ isTerminator (some c))
    (hq : ¬ opensQuantifier c) : step s c = readElement s .once c := by
  obtain ⟨hbar, hclose⟩ := not_or.1 (isTerminator_some_iff.not.1 hend)
  simp only [opensQuantifier, Bool.or_eq_true, decide_eq_true_eq, not_or] at hq
  simp [step, hs, readReady, hgap, hbar, hclose, hq]

lemma step_quantified_of_element (hs : s.mode = .quantified q) (hgap : ¬ isGap c) (hend : ¬ isTerminator (some c)) :
    step s c = readElement s q c := by
  obtain ⟨hbar, hclose⟩ := not_or.1 (isTerminator_some_iff.not.1 hend)
  simp [step, hs, readQuantified, hgap, hbar, hclose]

/-- A quantifier must not come last. -/
lemma readOn_quantified_of_terminator (hs : s.mode = .quantified q) (hend : isTerminator text.head?) :
    readOn s text = .error .unexpectedEnd := by
  cases text with
  | nil => simp [readOn_nil, finish, hs]
  | cons c text =>
    refine readOn_cons_of_error ?_ text
    obtain rfl | rfl := isTerminator_some_iff.1 hend
    · simp [step, hs, readQuantified, isGap]
    · simp [step, hs, readQuantified, isGap]

/-- The element of an item, once its quantifier is known. -/
lemma element_leadsTo (hend : ¬ isTerminator text.head?) (hstep : ∀ c ∈ text.head?, step s c = readElement s q c)
    (hinside : ∀ rest : List Char, rest.length < text.length → ReadsInside compound rest) :
    LeadsTo element text (readOn s text) fun e _ s' => s' = s.add q e := by
  rw [element]
  refine elementBy_leadsTo hstep ?_ hinside
  rintro rfl
  exact hend rfl

end Items

/-- An item, if one comes next, or the end of a sequence. -/
lemma item_leadsTo (hs : s.mode = .ready)
    (hinside : ∀ rest : List Char, rest.length < text.length → ReadsInside compound rest) :
    LeadsTo item text (readOn s text) fun i rest s' =>
      match i with
      | none => s' = s ∧ isTerminator rest.head?
      | some i => s' = s.add i.quantifier i.element := by
  rw [item, readOn_gap (fun c hc => by simp [step, hs, readReady, hc])]
  refine .takeWhile (.peek ?_)
  split_ifs with hend
  · exact .pure ⟨rfl, hend⟩
  refine (quantifier_leadsTo hs _).bind fun q rest s' hrest hs' => ?_
  have hle : (rest.dropWhile isGap).length ≤ text.length :=
    (((List.dropWhile_suffix isGap).trans hrest).trans (List.dropWhile_suffix isGap)).length_le
  have hinside : ∀ rest' : List Char, rest'.length < (rest.dropWhile isGap).length → ReadsInside compound rest' :=
    fun rest' h => hinside rest' (h.trans_le hle)
  cases q with
  | none =>
    -- without a quantifier, the element stands behind the gap that is taken already
    obtain ⟨rfl, rfl, hnot⟩ := hs'
    refine .takeWhile (.peek ?_)
    rw [List.dropWhile_idempotent] at hinside ⊢
    rw [if_neg hend]
    refine (element_leadsTo (q := .once) hend (fun c hc => ?_) hinside).bind fun e rest s' _ hs' => .pure hs'
    exact step_ready_of_element hs (not_of_mem_head?_dropWhile hc) (hc ▸ hend) (hnot c hc)
  | some q =>
    have hmode : s'.mode = .quantified q := hs' ▸ rfl
    rw [readOn_gap (fun c hc => by simp [step, hs', State.enter, readQuantified, hc])]
    refine .takeWhile (.peek ?_)
    split_ifs with hlast
    · rw [readOn_quantified_of_terminator hmode hlast]
      exact .throw _
    · refine (element_leadsTo (q := q) hlast (fun c hc => ?_) hinside).bind fun e rest s'' _ hs'' => .pure ?_
      · exact step_quantified_of_element hmode (not_of_mem_head?_dropWhile hc) (hc ▸ hlast)
      · rw [hs'', hs']
        rfl

/-- The items of a sequence follow those that the level already has. -/
lemma sequence_leadsTo (hs : s.mode = .ready)
    (hinside : ∀ rest : List Char, rest.length < text.length → ReadsInside compound rest) :
    LeadsTo sequence text (readOn s text) fun items rest s' =>
      s' = { s with level := { s.level with items := items.reverse ++ s.level.items } } ∧ isTerminator rest.head? := by
  induction text using induction_on_length generalizing s with
  | step text ih =>
    rw [sequence]
    -- where the item leads to does not say that it takes a character
    have hitem := (item_leadsTo hs hinside).and (item_takes fun rest _ => compound_advances rest)
    refine Ends.bind hitem ?_ fun fault rest hfault => hfault.1
    rintro i rest hrest ⟨⟨s', hs', houtcome⟩, hlt⟩
    rw [houtcome]
    cases i with
    | none =>
      obtain ⟨rfl, hend⟩ := hs'
      exact LeadsTo.pure ⟨rfl, hend⟩
    | some i =>
      subst hs'
      have hlt : rest.length < text.length := hlt i rfl
      have hlater := ih rest hlt (s := s.add i.quantifier i.element) rfl fun rest' h => hinside rest' (h.trans hlt)
      refine LeadsTo.bind hlater fun items rest' s'' _ hs'' => .pure ⟨?_, hs''.2⟩
      rw [hs''.1]
      simp [State.add, Level.push, hs]

/-- The alternatives follow those that the level already has. -/
lemma alternatives_leadsTo (groups : List OpenGroup) (before : List Sequence)
    (hinside : ∀ rest : List Char, rest.length < text.length → ReadsInside compound rest) :
    LeadsTo alternatives text (readOn ⟨groups, ⟨before, []⟩, .ready⟩ text) fun alternatives rest s' =>
      ∃ level : Level, s' = ⟨groups, level, .ready⟩ ∧ level.settled = alternatives.reverse ++ before ∧
        AtClose rest := by
  induction text using induction_on_length generalizing before with
  | step text ih =>
    rw [alternatives]
    refine (sequence_leadsTo rfl hinside).bind fun items rest s' hrest hs' => ?_
    obtain ⟨rfl, hend⟩ := hs'
    refine .takeWhile (.peek ?_)
    rw [dropWhile_isGap_of_isTerminator hend]
    split_ifs with hbar
    · obtain ⟨later, rfl⟩ := List.head?_eq_some_iff.1 hbar
      have hlt : later.length < text.length := hrest.length_le
      have hlater := ih later hlt (items :: before) fun rest' h => hinside rest' (h.trans hlt)
      refine .next ?_
      have hstep : step ⟨groups, ⟨before, items.reverse ++ []⟩, .ready⟩ '|' =
          .ok ⟨groups, ⟨items :: before, []⟩, .ready⟩ := by
        simp [step, readReady, isGap, Level.split, Level.settled]
      rw [readOn_cons_of_ok hstep]
      refine hlater.bind fun alternatives rest' s' _ hs' => .pure ?_
      obtain ⟨level, rfl, hsettled, hclose⟩ := hs'
      exact ⟨level, rfl, by simp [hsettled], hclose⟩
    · refine .pure ⟨_, rfl, by simp [Level.settled], fun c hc => ?_⟩
      rw [Option.mem_def.1 hc] at hend
      exact (isTerminator_some_iff.1 hend).resolve_left fun h => hbar (h ▸ hc)

/-- Alternatives by descent are those of a level that the reader goes through up to a closing parenthesis or the end. -/
lemma compound_readsInside (text : List Char) : ReadsInside compound text := by
  induction text using induction_on_length with
  | step text ih =>
    intro groups
    rw [compound]
    refine (alternatives_leadsTo groups [] ih).bind fun alternatives rest s' _ hs' => .pure ?_
    obtain ⟨level, rfl, hsettled, hclose⟩ := hs'
    exact ⟨level, rfl, by simp [Level.close, hsettled], hclose⟩

/-- Nothing is left of a text that is read without a fault, and reading it by descent comes to what `parse` gives. -/
lemma read_whole (text : List Char) :
    ∃ rest, read whole text = some (parse text, rest) ∧ ∀ alternatives, parse text = .ok alternatives → rest = [] := by
  have hwhole : LeadsTo whole text (parse text) fun alternatives rest s' =>
      rest = [] ∧ finish s' = .ok alternatives := by
    unfold whole
    refine (compound_readsInside text []).bind fun alternatives rest s' _ hs' => ?_
    obtain ⟨level, rfl, rfl, hclose⟩ := hs'
    rw [readOn_gap (fun c hc => by simp [step, readReady, hc])]
    refine .takeWhile (.next ?_)
    cases rest with
    | nil => exact .pure ⟨rfl, rfl⟩
    | cons c rest =>
      -- on the outermost level, a closing parenthesis closes nothing
      obtain rfl := hclose c rfl
      exact .throw _
  obtain ⟨r, rest, hread, -, hr⟩ := hwhole
  cases r with
  | error fault => exact ⟨rest, by rw [hread, hr], fun c hc => by simp [hr] at hc⟩
  | ok alternatives =>
    obtain ⟨s', ⟨rfl, hfinish⟩, hparse⟩ := hr
    exact ⟨[], by rw [hread, hparse, readOn_nil, hfinish], fun _ _ => rfl⟩

end Descent

open Descent

/-- Reading by descent makes progress. An item that is read takes a character of the text. An element reads the inside
of a group from nothing but texts shorter than its own: it comes to the same with any reader in place of the inside that
agrees with it on those, even one that never comes to an end on others. Every reader comes to an end on every text and
leaves an end part of it. What the whole text is read to is what `parse` gives, and unless that is a fault, nothing is
left of the text. -/
theorem descent_progresses (text : List Char) :
    (∀ i rest, read item text = some (.ok (some i), rest) → rest.length < text.length) ∧
    (element = elementBy compound ∧ ∀ inside inside' : Descent Compound,
      (∀ rest : List Char, rest.length < text.length → read inside rest = read inside' rest) →
        read (elementBy inside) text = read (elementBy inside') text) ∧
    (Advances whole ∧ Advances compound ∧ Advances alternatives ∧ Advances sequence ∧ Advances item ∧
      Advances element ∧ Advances quantifier ∧ Advances bounds ∧ (∀ marks, Advances (bound marks)) ∧
      Advances number ∧ Advances charSet ∧ (∀ scan, Advances (members scan)) ∧
      (∀ quote, Advances (literal quote)) ∧ (∀ alternatives, Advances (close alternatives)) ∧ Advances gap) ∧
    ∃ rest, read whole text = some (parse text, rest) ∧
      ∀ alternatives, parse text = .ok alternatives → rest = [] := by
  refine ⟨fun i rest hread => ?_, ⟨by rw [element], fun _ _ => elementBy_congr⟩, ?_, read_whole text⟩
  · have hends : Ends item text _ := item_takes fun rest _ => compound_advances rest
    obtain ⟨r, rest', hread', -, htakes⟩ := hends
    obtain ⟨rfl, rfl⟩ : r = .ok (some i) ∧ rest' = rest := by simpa [hread] using hread'.symm
    exact htakes i rfl
  · exact ⟨whole_advances, compound_advances, alternatives_advances, sequence_advances, item_advances,
      element_advances, quantifier_advances, bounds_advances, bound_advances, number_advances, charSet_advances,
      members_advances, literal_advances, close_advances, gap_advances⟩

/-- A group with nothing in it takes two characters of three, and reading the whole text takes them all. -/
theorem emptyGroup_progresses :
    (read item ['(', ')', 'A'] = some (.ok (some ⟨.once, .group []⟩), ['A']) ∧ ['A'].length < ['(', ')', 'A'].length) ∧
    read whole ['(', ')', 'A'] = some (.ok [[⟨.once, .group []⟩, ⟨.once, .set (.named .alpha) false⟩]], []) := by
  obtain ⟨hitem, -, -, rest, hread, hrest⟩ := descent_progresses ['(', ')', 'A']
  have hgroup : read item ['(', ')', 'A'] = some (.ok (some ⟨.once, .group []⟩), ['A']) := by
    rw [item, element, compound, alternatives, Descent.sequence, item]
    rfl
  have hparse : parse ['(', ')', 'A'] =
    .ok [[⟨.once, .group []⟩, ⟨.once, .set (.named .alpha) false⟩]] := rfl
  obtain rfl := hrest _ hparse
  exact ⟨⟨hgroup, hitem _ _ hgroup⟩, hparse ▸ hread⟩

end PegTrace.Shorthand
