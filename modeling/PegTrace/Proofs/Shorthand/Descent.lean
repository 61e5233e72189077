import Mathlib.Data.List.Infix
import Mathlib.Tactic.Common
import PegTrace.Shorthand.Reader

/-!
# Reading shorthand by descent

Shorthand is also read by functions that call each other, one for each kind of phrase: alternatives are read by
reading sequences, these by reading items, and an item that is a group by reading alternatives again. Nothing in the
definitions says that such a reading ever comes to an end. It does, on every text (`Descent.compound_advances`), since
no function gives back what it has read, an item takes at least one character (`Descent.item_takes`), and the inside
of a group is read from a text that is shorter than that of the group (`Descent.elementBy_congr`).
-/

namespace PegTrace.Shorthand

/-- The set with a range up to the given character or, if nothing is pending, with two dots and the character. -/
def SetScan.range (scan : SetScan) (last : Char) : SetScan :=
  { scan with
    members := match scan.pending with
      | some first => .range first last :: scan.members
      | none => .single last :: .single '.' :: .single '.' :: scan.members
    pending := none
    dots := .none }

/-- Reads the members of a set up to its delimiter. -/
def SetScan.readMembers (scan : SetScan) : List Char → Except Fault (List Member) × List Char
  | [] => (.error .unclosedSet, [])
  | c :: text =>
    if c = scan.delimiter then (.ok scan.settled.reverse, text)
    else if c = '.' then
      match text with
      | ['.'] => (.error .unclosedSet, [])
      | '.' :: last :: rest =>
        if last = scan.delimiter then (.error .unclosedSet, rest) else (scan.range last).readMembers rest
      | text => (scan.push c).readMembers text
    else (scan.push c).readMembers text

/-- Reads from the front of a text. It may never come to an end; if it does, it gives what it has read, or a fault, and
leaves the rest of the text. -/
abbrev Descent := ExceptT Fault (StateT (List Char) Option)

namespace Descent

variable {β γ : Type}

/-! ### Characters -/

/-- The next character, which stays where it is. -/
def peek : Descent (Option Char) :=
  return (← get).head?

/-- Takes the next character. -/
def next : Descent (Option Char) :=
  modifyGet fun text => (text.head?, text.tail)

/-- Takes characters as long as they pass the test. -/
def takeWhile (test : Char → Bool) : Descent (List Char) :=
  modifyGet fun text => (text.takeWhile test, text.dropWhile test)

/-- Takes the blanks before the next item. -/
def gap : Descent (List Char) :=
  takeWhile isGap

/-- Whether a sequence ends before the character, if there is one at all. -/
def isTerminator (c : Option Char) : Bool :=
  c.all fun c => c = '|' || c = ')'

/-! ### Quantifiers -/

def number : Descent Nat := do
  let text ← takeWhile Char.isDigit
  if text ≠ [] ∧ Nat.ofDigitChars 10 text 0 < countLimit then
    return Nat.ofDigitChars 10 text 0
  throw .invalidNumber

/-- A number, unless one of the given marks stands in its place. -/
def bound (marks : List Char) : Descent (Option Nat) := do
  if (← peek).any (· ∈ marks) then return none
  return some (← number)

/-- Bounds after their opening bracket. -/
def bounds : Descent Quantifier := do
  let least ← bound [',', ']']
  match ← next with
  | some ']' =>
    match least with
    | some n => return .exactly n
    | none => throw .invalidBounds
  | some ',' =>
    let most ← bound [']']
    if (← next) = some ']' then
      ofExcept (boundsQuantifier least most)
    else throw .invalidBounds
  | _ => throw .invalidBounds

/-- A quantifier, if there is one. -/
def quantifier : Descent (Option Quantifier) := do
  match ← peek with
  | none => return none
  | some c =>
    if c = '*' then
      let _ ← next
      return some .zeroOrMore
    if c = '+' then
      let _ ← next
      return some .oneOrMore
    if c = '?' then
      let _ ← next
      return some .optional
    if c = '[' then
      let _ ← next
      return some (← bounds)
    if c.isDigit then
      return some (.exactly (← number))
    return none

/-! ### Elements -/

/-- The members of a custom set up to its delimiter. -/
def members (scan : SetScan) : Descent (List Member) :=
  fun text => some (scan.readMembers text)

/-- A set from its letter on. -/
def charSet : Descent CharSet := do
  match ← next with
  | none => throw .unexpectedEnd
  | some c =>
    if c.toUpper = 'D' then
      match ← next with
      | none => throw .unexpectedEnd
      | some delimiter => return .custom (← members { delimiter })
    else
      match CharClass.ofLetter? c with
      | some k => return .named k
      | none => throw (.unexpectedChar c)

/-- A literal after the quotation mark that it begins with. -/
def literal (quote : Char) : Descent Element := do
  let text ← takeWhile (· ≠ quote)
  match ← next with
  | none => throw .unclosedLiteral
  | some _ => return .literal text (quote = '\x27')

/-- The end of a group. -/
def close (alternatives : Compound) : Descent Element := do
  if (← next) = some ')' then
    return .group alternatives
  throw .unclosedGroup

/-- An element, where the inside of a group is read as given. -/
abbrev elementBy (inside : Descent Compound) : Descent Element := do
  match ← peek with
  | none => throw .unexpectedEnd
  | some c =>
    if c = '(' then
      let _ ← next
      close (← inside)
    else if c = '\x27' || c = '"' then
      let _ ← next
      literal c
    else if c = '-' then
      let _ ← next
      return .set (← charSet) true
    else if c.isAlpha then
      return .set (← charSet) false
    else throw (.unexpectedChar c)

/-! ### Phrases -/

/-- Makes something of what is read. -/
abbrev map (p : Descent β) (f : β → γ) : Descent γ := do
  return f (← p)

/-- Goes on with what is read. -/
abbrev andThen (p : Descent β) (f : β → Descent γ) : Descent γ :=
  p >>= f

mutual

/-- Alternatives, in canonical form. -/
def compound : Descent Compound :=
  alternatives.map .ofAlternatives
partial_fixpoint

/-- Sequences with bars between them. -/
def alternatives : Descent (List Sequence) :=
  sequence.andThen fun items => do
    let _ ← gap
    if (← peek) = some '|' then
      let _ ← next
      alternatives.map (items :: ·)
    else
      return [items]
partial_fixpoint

/-- Items up to where there is none. -/
def sequence : Descent Sequence :=
  item.andThen fun
    | none => return []
    | some i => sequence.map (i :: ·)
partial_fixpoint

/-- An item, if there is one. -/
def item : Descent (Option Item) := do
  let _ ← gap
  if isTerminator (← peek) then
    return none
  let q ← quantifier
  let _ ← gap
  if isTerminator (← peek) then
    match q with
    | none => return none
    | some _ => throw .unexpectedEnd
  else
    element.map fun e => some ⟨q.getD .once, e⟩
partial_fixpoint

/-- An element. -/
def element : Descent Element :=
  compound.elementBy
partial_fixpoint

end

/-- Alternatives that make up the whole text. -/
def whole : Descent Compound := do
  let c ← compound
  let _ ← gap
  match ← next with
  | none => return c
  | some d => throw (.unexpectedChar d)

/-! ### What comes of reading -/

/-- What the reader gives on the text and what it leaves, if it comes to an end. -/
def read (p : Descent β) (text : List Char) : Option (Except Fault β × List Char) :=
  StateT.run (ExceptT.run p) text

section Read

variable {p : Descent β} {f : β → Descent γ} {text rest : List Char}

lemma read_pure (x : β) (text : List Char) : read (pure x) text = some (.ok x, text) := rfl

lemma read_throw (fault : Fault) (text : List Char) : read (throw fault : Descent β) text = some (.error fault, text) :=
  rfl

lemma read_ofExcept (r : Except Fault β) (text : List Char) : read (ofExcept r) text = some (r, text) := by
  cases r <;> rfl

lemma read_bind (p : Descent β) (f : β → Descent γ) (text : List Char) :
    read (p >>= f) text = (read p text).bind fun
      | (.ok x, rest) => read (f x) rest
      | (.error fault, rest) => some (.error fault, rest) := by
  change Option.bind (read p text) _ = _
  congr 1
  funext out
  obtain ⟨_ | _, rest⟩ := out <;> rfl

lemma read_peek_bind (f : Option Char → Descent γ) (text : List Char) :
    read (peek >>= f) text = read (f text.head?) text := rfl

lemma read_next_bind (f : Option Char → Descent γ) (text : List Char) :
    read (next >>= f) text = read (f text.head?) text.tail := rfl

lemma read_takeWhile_bind (test : Char → Bool) (f : List Char → Descent γ) (text : List Char) :
    read (takeWhile test >>= f) text = read (f (text.takeWhile test)) (text.dropWhile test) := rfl

end Read

/-- On the text, the reader comes to an end and leaves an end part of it, and `post` holds of what it gives and
leaves. -/
def Ends (p : Descent β) (text : List Char) (post : Except Fault β → List Char → Prop) : Prop :=
  ∃ r rest, read p text = some (r, rest) ∧ rest <:+ text ∧ post r rest

namespace Ends

variable {p : Descent β} {f : β → Descent γ} {text rest : List Char} {post mid : Except Fault β → List Char → Prop}
  {post' : Except Fault γ → List Char → Prop}

lemma mono (h : Ends p text post) (hmid : ∀ r rest, rest <:+ text → post r rest → mid r rest) : Ends p text mid := by
  obtain ⟨r, rest, hread, hrest, hpost⟩ := h
  exact ⟨r, rest, hread, hrest, hmid r rest hrest hpost⟩

/-- What is known of a reading twice over. -/
lemma and (h : Ends p text post) (h' : Ends p text mid) : Ends p text fun r rest => post r rest ∧ mid r rest := by
  obtain ⟨r, rest, hread, hrest, hpost⟩ := h
  obtain ⟨r', rest', hread', -, hmid⟩ := h'
  obtain ⟨rfl, rfl⟩ : r = r' ∧ rest = rest' := by simpa [hread] using hread'
  exact ⟨r, rest, hread, hrest, hpost, hmid⟩

lemma pure {x : β} (h : post (.ok x) text) : Ends (pure x) text post :=
  ⟨.ok x, text, read_pure x text, List.suffix_rfl, h⟩

lemma throw {fault : Fault} (h : post (.error fault) text) : Ends (throw fault) text post :=
  ⟨.error fault, text, read_throw fault text, List.suffix_rfl, h⟩

lemma ofExcept {r : Except Fault β} (h : post r text) : Ends (ofExcept r) text post :=
  ⟨r, text, read_ofExcept r text, List.suffix_rfl, h⟩

/-- One reader goes on where another has left off, unless that met with a fault. -/
lemma bind (h : Ends p text mid) (hok : ∀ x rest, rest <:+ text → mid (.ok x) rest → Ends (f x) rest post')
    (herror : ∀ fault rest, mid (.error fault) rest → post' (.error fault) rest) : Ends (p >>= f) text post' := by
  obtain ⟨r, rest, hread, hrest, hmid⟩ := h
  cases r with
  | error fault => exact ⟨.error fault, rest, by rw [read_bind, hread]; rfl, hrest, herror fault rest hmid⟩
  | ok x =>
    obtain ⟨r, rest', hread', hrest', hpost⟩ := hok x rest hrest hmid
    exact ⟨r, rest', by rw [read_bind, hread]; exact hread', hrest'.trans hrest, hpost⟩

lemma of_suffix {q : Descent β} (h : Ends q rest post) (hrest : rest <:+ text) (hread : read p text = read q rest) :
    Ends p text post := by
  obtain ⟨r, rest', hread', hrest', hpost⟩ := h
  exact ⟨r, rest', hread.trans hread', hrest'.trans hrest, hpost⟩

lemma peek {f : Option Char → Descent γ} (h : Ends (f text.head?) text post') : Ends (peek >>= f) text post' := h

lemma next {f : Option Char → Descent γ} (h : Ends (f text.head?) text.tail post') : Ends (next >>= f) text post' :=
  h.of_suffix (List.tail_suffix text) (read_next_bind f text)

lemma takeWhile {test : Char → Bool} {f : List Char → Descent γ}
    (h : Ends (f (text.takeWhile test)) (text.dropWhile test) post') : Ends (takeWhile test >>= f) text post' :=
  h.of_suffix (List.dropWhile_suffix test) (read_takeWhile_bind test f text)

end Ends

/-! ### Nothing is given back -/

/-- The reader comes to an end on every text, and what it leaves is an end part of the text. -/
def Advances (p : Descent β) : Prop :=
  ∀ text, Ends p text fun _ _ => True

namespace Advances

variable {p : Descent β} {f : β → Descent γ}

lemma pure (x : β) : Advances (pure x) := fun _ => .pure trivial

lemma throw (fault : Fault) : Advances (throw fault : Descent β) := fun _ => .throw trivial

lemma bind (h : Advances p) (hf : ∀ x, Advances (f x)) : Advances (p >>= f) := fun text =>
  (h text).bind (fun x rest _ _ => hf x rest) fun _ _ _ => trivial

lemma peek {f : Option Char → Descent γ} (hf : ∀ c, Advances (f c)) : Advances (peek >>= f) := fun text =>
  .peek (hf text.head? text)

lemma next {f : Option Char → Descent γ} (hf : ∀ c, Advances (f c)) : Advances (next >>= f) := fun text =>
  .next (hf text.head? text.tail)

lemma takeWhile {test : Char → Bool} {f : List Char → Descent γ} (hf : ∀ front, Advances (f front)) :
    Advances (takeWhile test >>= f) := fun text =>
  .takeWhile (hf (text.takeWhile test) (text.dropWhile test))

end Advances

lemma gap_advances : Advances gap := fun text =>
  ⟨.ok (text.takeWhile isGap), text.dropWhile isGap, rfl, List.dropWhile_suffix isGap, trivial⟩

lemma number_advances : Advances number := by
  unfold number
  refine .takeWhile fun text => ?_
  split_ifs
  · exact .pure _
  · exact .throw _

lemma bound_advances (marks : List Char) : Advances (bound marks) := by
  unfold bound
  refine .peek fun c => ?_
  split_ifs
  · exact .pure _
  · exact number_advances.bind fun n => .pure _

lemma bounds_advances : Advances bounds := by
  unfold bounds
  refine (bound_advances _).bind fun least => .next fun c => ?_
  split
  · split
    · exact .pure _
    · exact .throw _
  · refine (bound_advances _).bind fun most => .next fun c => ?_
    split_ifs
    · exact fun _ => .ofExcept trivial
    · exact .throw _
  · exact .throw _

lemma quantifier_advances : Advances quantifier := by
  unfold quantifier
  refine .peek fun c => ?_
  split
  · exact .pure _
  · split_ifs
    · exact .next fun _ => .pure _
    · exact .next fun _ => .pure _
    · exact .next fun _ => .pure _
    · exact .next fun _ => bounds_advances.bind fun q => .pure _
    · exact number_advances.bind fun n => .pure _
    · exact .pure _

/-- To prove something of every text, prove it of a text from all that are shorter. -/
@[elab_as_elim]
lemma induction_on_length {motive : List Char → Prop} (text : List Char)
    (step : ∀ text : List Char, (∀ rest : List Char, rest.length < text.length → motive rest) → motive text) :
    motive text :=
  (measure List.length).wf.induction text step

lemma readMembers_suffix (scan : SetScan) (text : List Char) : (scan.readMembers text).2 <:+ text := by
  fun_induction SetScan.readMembers scan text with
  | case1 | case3 => exact List.nil_suffix
  | case2 scan rest => exact List.suffix_cons scan.delimiter rest
  | case4 scan rest => exact List.suffix_append ['.', '.', scan.delimiter] rest
  | case5 scan last rest _ _ ih => exact ih.trans (List.suffix_append ['.', '.', last] rest)
  | case6 _ rest _ _ _ ih => exact ih.trans (List.suffix_cons '.' rest)
  | case7 _ c rest _ _ ih => exact ih.trans (List.suffix_cons c rest)

lemma members_advances (scan : SetScan) : Advances (members scan) := fun text =>
  ⟨_, _, rfl, readMembers_suffix scan text, trivial⟩

lemma literal_advances (quote : Char) : Advances (literal quote) := by
  unfold literal
  refine .takeWhile fun text => .next fun c => ?_
  split
  · exact .throw _
  · exact .pure _

lemma close_advances (alternatives : Compound) : Advances (close alternatives) := by
  unfold close
  refine .next fun c => ?_
  split_ifs
  · exact .pure _
  · exact .throw _

/-! ### Progress -/

/-- What is read, if anything is, takes at least a character of the text. -/
def Takes (text : List Char) (r : Except Fault β) (rest : List Char) : Prop :=
  ∀ x, r = .ok x → rest.length < text.length

/-- A reader that takes a character to begin with has taken one in the end. -/
lemma takes_of_next {f : Option Char → Descent γ} {c : Char} {text : List Char}
    (h : Ends (f (some c)) text fun _ _ => True) : Ends (next >>= f) (c :: text) (Takes (c :: text)) :=
  .next (h.mono fun _ _ hrest _ _ _ => Nat.lt_succ_of_le hrest.length_le)

lemma charSet_takes (text : List Char) : Ends charSet text (Takes text) := by
  unfold charSet
  cases text with
  | nil => exact .next (.throw nofun)
  | cons c text =>
    -- the letter is taken whatever comes of it
    refine takes_of_next ?_
    dsimp only
    split_ifs
    · refine .next ?_
      split
      · exact .throw trivial
      · exact (members_advances _ _).bind (fun _ _ _ _ => .pure trivial) fun _ _ _ => trivial
    · split
      · exact .pure trivial
      · exact .throw trivial

lemma charSet_advances : Advances charSet := fun text => (charSet_takes text).mono fun _ _ _ _ => trivial

/-- An element takes a character, and the inside of a group is read from what is left after that. -/
lemma elementBy_takes {inside : Descent Compound} {text : List Char}
    (hinside : ∀ rest : List Char, rest.length < text.length → Ends inside rest fun _ _ => True) :
    Ends (elementBy inside) text (Takes text) := by
  unfold elementBy
  refine .peek ?_
  cases text with
  | nil => exact .throw nofun
  | cons c text =>
    have hset : ∀ negated, Ends (do return .set (← charSet) negated : Descent Element) text fun _ _ => True :=
      fun negated => (charSet_takes text).bind (fun _ _ _ _ => .pure trivial) fun _ _ _ => trivial
    dsimp only [List.head?_cons]
    split_ifs
    · -- a group: the inside is read after the parenthesis, from a shorter text
      refine takes_of_next ((hinside text (Nat.lt_succ_self _)).bind ?_ ?_)
      · exact fun c rest _ _ => close_advances c rest
      · exact fun _ _ _ => trivial
    · exact takes_of_next (literal_advances c text)
    · exact takes_of_next (hset true)
    · -- a set without a sign: nothing is taken here, but the set takes its letter
      refine (charSet_takes _).bind (fun chars rest _ htakes => .pure fun _ _ => htakes chars rfl) ?_
      exact fun fault rest _ => nofun
    · exact .throw nofun

/-- An item that is read takes a character. -/
lemma item_takes {text : List Char}
    (hinside : ∀ rest : List Char, rest.length < text.length → Ends compound rest fun _ _ => True) :
    Ends item text fun r rest => ∀ i, r = .ok (some i) → rest.length < text.length := by
  rw [item]
  refine .takeWhile (.peek ?_)
  split_ifs
  · -- there is no item, so there is nothing to show
    exact .pure nofun
  · refine (quantifier_advances _).bind (fun q rest hrest _ => .takeWhile (.peek ?_)) fun _ _ _ => nofun
    -- neither the gaps nor the quantifier need take a character; it is the element that does
    have hle : (rest.dropWhile isGap).length ≤ text.length :=
      (((List.dropWhile_suffix isGap).trans hrest).trans (List.dropWhile_suffix isGap)).length_le
    split_ifs
    · cases q with
      | none => exact .pure nofun
      | some q => exact .throw nofun
    · rw [element]
      have helement := elementBy_takes fun rest' h => hinside rest' (h.trans_le hle)
      refine helement.bind (fun e rest' _ htakes => .pure fun _ _ => (htakes e rfl).trans_le hle) ?_
      exact fun _ _ _ => nofun

/-- The loop over items ends, since each of them takes a character. -/
lemma sequence_ends {text : List Char}
    (hinside : ∀ rest : List Char, rest.length < text.length → Ends compound rest fun _ _ => True) :
    Ends sequence text fun _ _ => True := by
  induction text using induction_on_length with
  | step text ih =>
    rw [sequence]
    refine (item_takes hinside).bind (fun i rest _ htakes => ?_) fun _ _ _ => trivial
    cases i with
    | none => exact .pure trivial
    | some i =>
      -- the item has taken a character, so there is less to go
      have hlt : rest.length < text.length := htakes i rfl
      have hrest := ih rest hlt fun rest' h => hinside rest' (h.trans hlt)
      exact hrest.bind (fun _ _ _ _ => .pure trivial) fun _ _ _ => trivial

/-- The loop over alternatives ends, since each bar is taken. -/
lemma alternatives_ends {text : List Char}
    (hinside : ∀ rest : List Char, rest.length < text.length → Ends compound rest fun _ _ => True) :
    Ends alternatives text fun _ _ => True := by
  induction text using induction_on_length with
  | step text ih =>
    rw [alternatives]
    refine (sequence_ends hinside).bind (fun items rest hrest _ => .takeWhile (.peek ?_)) fun _ _ _ => trivial
    -- a sequence may be empty, so that it is the bar that is taken for sure
    have hle : (rest.dropWhile isGap).length ≤ text.length := ((List.dropWhile_suffix isGap).trans hrest).length_le
    split_ifs with hbar
    · refine .next ?_
      cases hdrop : rest.dropWhile isGap with
      | nil => simp [hdrop] at hbar
      | cons c later =>
        rw [hdrop] at hle
        have hlt : later.length < text.length := hle
        have hlater := ih later hlt fun rest' h => hinside rest' (h.trans hlt)
        exact hlater.bind (fun _ _ _ _ => .pure trivial) fun _ _ _ => trivial
    · exact .pure trivial

/-- Groups within groups come to an end, since the text inside is shorter. -/
lemma compound_advances : Advances compound := by
  intro text
  induction text using induction_on_length with
  | step text ih =>
    rw [compound]
    exact (alternatives_ends ih).bind (fun _ _ _ _ => .pure trivial) fun _ _ _ => trivial

lemma alternatives_advances : Advances alternatives := fun _ => alternatives_ends fun rest _ => compound_advances rest

lemma sequence_advances : Advances sequence := fun _ => sequence_ends fun rest _ => compound_advances rest

lemma item_advances : Advances item := fun _ =>
  (item_takes fun rest _ => compound_advances rest).mono fun _ _ _ _ => trivial

lemma element_advances : Advances element := by
  intro text
  rw [element]
  exact (elementBy_takes fun rest _ => compound_advances rest).mono fun _ _ _ _ => trivial

lemma whole_advances : Advances whole := by
  unfold whole
  refine compound_advances.bind fun c => .takeWhile fun _ => .next fun d => ?_
  split
  · exact .pure _
  · exact .throw _

/-- What an element is depends on the inside of a group only as far as shorter texts go. -/
lemma elementBy_congr {inside inside' : Descent Compound} {text : List Char}
    (h : ∀ rest : List Char, rest.length < text.length → read inside rest = read inside' rest) :
    read (elementBy inside) text = read (elementBy inside') text := by
  unfold elementBy
  rw [read_peek_bind, read_peek_bind]
  cases text with
  | nil => rfl
  | cons c text =>
    dsimp only [List.head?_cons]
    split_ifs
    · -- the inside is asked for once, after the parenthesis
      rw [read_next_bind, read_next_bind, read_bind, read_bind, List.tail_cons, h text (Nat.lt_succ_self _)]
    all_goals rfl

end Descent

end PegTrace.Shorthand
