import PegTrace.Shorthand.Error
import PegTrace.Shorthand.Expression

/-!
# Reading shorthand

A pattern in shorthand is read one character at a time, without going back. The state of the reader holds the
alternatives read so far on every open level and what it is in the middle of; `parse` runs it over the whole text and
asks at the end whether the text may end there.

An item is an optional quantifier followed by an element. Quantifiers are `?`, `*`, `+`, a number, or bounds in
brackets. Elements are class letters, `D` with a set between two delimiters, either of them negated by a minus sign,
literals in quotes, and groups in parentheses. Blanks and tabs may stand around items.
-/

namespace PegTrace.Shorthand

/-! ### States -/

/-- The number that a count or a bound must stay below. -/
def countLimit : Nat :=
  UInt64.size

/-- Bounds in brackets, as far as they are read. -/
inductive Bounds where
  /-- The bracket is open. -/
  | opened
  /-- The first number is being read. -/
  | first (n : Nat)
  /-- The comma is read. -/
  | comma (least : Option Nat)
  /-- The second number is being read. -/
  | second (least : Option Nat) (n : Nat)
deriving DecidableEq, Repr

/-- How many dots of a range `first..last` are read. -/
inductive Dots where
  | none | one | two
deriving DecidableEq, Repr

/-- A custom set, as far as it is read. -/
structure SetScan where
  /-- The character that closes the set. -/
  delimiter : Char
  /-- The members that are complete, the last one first. -/
  members : List Member := []
  /-- A character that is a member by itself unless a range follows. -/
  pending : Option Char := none
  /-- The dots after it. -/
  dots : Dots := .none
deriving DecidableEq, Repr

/-- What the reader is in the middle of. -/
inductive Mode where
  /-- Between items. -/
  | ready
  /-- After a quantifier. -/
  | quantified (q : Quantifier)
  /-- In a bare number. -/
  | count (n : Nat)
  /-- In bounds. -/
  | bounds (b : Bounds)
  /-- After a minus sign. -/
  | minus (q : Quantifier)
  /-- After the letter of a custom set. -/
  | setOpen (q : Quantifier) (negated : Bool)
  /-- In a custom set. -/
  | inSet (q : Quantifier) (negated : Bool) (scan : SetScan)
  /-- In a literal, of which the characters are held with the last one first. -/
  | inLiteral (q : Quantifier) (quote : Char) (text : List Char)
deriving DecidableEq, Repr

/-- The alternatives of one level, as far as they are read. What is read last is held first. -/
structure Level where
  /-- The alternatives that are complete, the last one first. -/
  alternatives : List Sequence := []
  /-- The items of the current alternative, the last one first. -/
  items : Sequence := []

/-- An open group: the level around it and its quantifier. -/
structure OpenGroup where
  /-- The level that the group is an item of. -/
  outer : Level
  /-- The quantifier of the group. -/
  quantifier : Quantifier

/-- The state of the reader. -/
structure State where
  /-- The open groups, innermost first. -/
  groups : List OpenGroup := []
  /-- The level that is being read. -/
  level : Level := {}
  /-- What is being read there. -/
  mode : Mode := .ready

/-- The alternatives of a level, the current one among them, the last one first. -/
def Level.settled (l : Level) : List Sequence :=
  l.items.reverse :: l.alternatives

/-- The alternatives of a level that ends here. -/
def Level.close (l : Level) : Compound :=
  .ofAlternatives l.settled.reverse

/-- The level with one more item. -/
def Level.push (l : Level) (item : Item) : Level :=
  { l with items := item :: l.items }

/-- The level with a new alternative, which has no items yet. -/
def Level.split (l : Level) : Level :=
  { alternatives := l.settled }

namespace State

/-- Goes on in another mode. -/
def enter (s : State) (mode : Mode) : State :=
  { s with mode := mode }

/-- Adds a complete item to the current level. -/
def add (s : State) (q : Quantifier) (e : Element) : State :=
  { s with level := s.level.push ⟨q, e⟩, mode := .ready }

end State

/-! ### Steps -/

/-- A blank between items. -/
def isGap (c : Char) : Bool :=
  c = ' ' || c = '\t'

/-- Appends a digit to a number. -/
def appendDigit (n : Nat) (c : Char) : Except Fault Nat :=
  let value := 10 * n + (c.toNat - '0'.toNat)
  if value < countLimit then .ok value else .error .invalidNumber

/-- Reads the letter of a set. -/
def readSetLetter (s : State) (q : Quantifier) (negated : Bool) (c : Char) : Except Fault State :=
  if c.toUpper = 'D' then .ok (s.enter (.setOpen q negated))
  else
    match CharClass.ofLetter? c with
    | some k => .ok (s.add q (.set (.named k) negated))
    | none => .error (.unexpectedChar c)

/-- Reads the first character of an element. -/
def readElement (s : State) (q : Quantifier) (c : Char) : Except Fault State :=
  if c = '(' then
    .ok { groups := ⟨s.level, q⟩ :: s.groups, level := {}, mode := .ready }
  else if c = '\x27' || c = '"' then .ok (s.enter (.inLiteral q c []))
  else if c = '-' then .ok (s.enter (.minus q))
  else if c.isAlpha then readSetLetter s q false c
  else .error (.unexpectedChar c)

/-- Closes the innermost group. -/
def closeGroup (s : State) : Except Fault State :=
  match s.groups with
  | [] => .error (.unexpectedChar ')')
  | g :: groups =>
    .ok { groups, level := g.outer.push ⟨g.quantifier, .group s.level.close⟩, mode := .ready }

/-- Reads a character between items. -/
def readReady (s : State) (c : Char) : Except Fault State :=
  if isGap c then .ok s
  else if c = '|' then .ok { s with level := s.level.split }
  else if c = ')' then closeGroup s
  else if c = '*' then .ok (s.enter (.quantified .zeroOrMore))
  else if c = '+' then .ok (s.enter (.quantified .oneOrMore))
  else if c = '?' then .ok (s.enter (.quantified .optional))
  else if c = '[' then .ok (s.enter (.bounds .opened))
  else if c.isDigit then return s.enter (.count (← appendDigit 0 c))
  else readElement s .once c

/-- Reads a character after a quantifier. -/
def readQuantified (s : State) (q : Quantifier) (c : Char) : Except Fault State :=
  if isGap c then .ok (s.enter (.quantified q))
  else if c = '|' || c = ')' then .error .unexpectedEnd
  else readElement s q c

/-- Reads a character of a bare number or after it. -/
def readCount (s : State) (n : Nat) (c : Char) : Except Fault State := do
  if c.isDigit then
    return s.enter (.count (← appendDigit n c))
  readQuantified s (.exactly n) c

/-- The quantifier of complete bounds. -/
def boundsQuantifier (least most : Option Nat) : Except Fault Quantifier :=
  match least, most with
  | none, none => .ok .zeroOrMore
  | some n, none => .ok (.atLeast n)
  | none, some m => .ok (.between 0 m)
  | some n, some m => if n ≤ m then .ok (.between n m) else .error .invalidBounds

/-- Reads a character of bounds. -/
def readBounds (s : State) (b : Bounds) (c : Char) : Except Fault State := do
  match b with
  | .opened =>
    if c = ',' then return s.enter (.bounds (.comma none))
    if c = ']' then .error .invalidBounds
    if c.isDigit then return s.enter (.bounds (.first (← appendDigit 0 c)))
    .error .invalidNumber
  | .first n =>
    if c = ',' then return s.enter (.bounds (.comma (some n)))
    if c = ']' then return s.enter (.quantified (.exactly n))
    if c.isDigit then return s.enter (.bounds (.first (← appendDigit n c)))
    .error .invalidBounds
  | .comma least =>
    if c = ']' then return s.enter (.quantified (← boundsQuantifier least none))
    if c.isDigit then return s.enter (.bounds (.second least (← appendDigit 0 c)))
    .error .invalidNumber
  | .second least n =>
    if c = ']' then return s.enter (.quantified (← boundsQuantifier least (some n)))
    if c.isDigit then return s.enter (.bounds (.second least (← appendDigit n c)))
    .error .invalidBounds

/-- The members of a set with the pending character among them, the last one first. -/
def SetScan.settled (scan : SetScan) : List Member :=
  scan.pending.toList.map .single ++ scan.members

/-- The set with one more character, which stands by itself unless a range follows. -/
def SetScan.push (scan : SetScan) (c : Char) : SetScan :=
  { scan with members := scan.settled, pending := some c, dots := .none }

/-- Ends a set at its delimiter, or reads a character of it that is no dot of a range. -/
def readPlain (s : State) (q : Quantifier) (negated : Bool) (scan : SetScan) (c : Char) : State :=
  if c = scan.delimiter then s.add q (.set (.custom scan.settled.reverse) negated)
  else s.enter (.inSet q negated (scan.push c))

/-- Reads a character of a custom set. A dot is put aside until it is clear that no second one follows. -/
def readSet (s : State) (q : Quantifier) (negated : Bool) (scan : SetScan) (c : Char) :
    Except Fault State :=
  match scan.dots with
  | .none =>
    if c = '.' && c ≠ scan.delimiter then .ok (s.enter (.inSet q negated { scan with dots := .one }))
    else .ok (readPlain s q negated scan c)
  | .one =>
    if c = '.' then .ok (s.enter (.inSet q negated { scan with dots := .two }))
    else .ok (readPlain s q negated (scan.push '.') c)
  | .two =>
    if c = scan.delimiter then .error .unclosedSet
    else
      let members := match scan.pending with
        | some first => .range first c :: scan.members
        | none => .single c :: .single '.' :: .single '.' :: scan.members
      .ok (s.enter (.inSet q negated { scan with members, pending := none, dots := .none }))

/-- Reads a character of a literal. -/
def readLiteral (s : State) (q : Quantifier) (quote : Char) (text : List Char) (c : Char) : State :=
  if c = quote then s.add q (.literal text.reverse (quote = '\x27'))
  else s.enter (.inLiteral q quote (c :: text))

/-- Reads one character. -/
def step (s : State) (c : Char) : Except Fault State :=
  match s.mode with
  | .ready => readReady s c
  | .quantified q => readQuantified s q c
  | .count n => readCount s n c
  | .bounds b => readBounds s b c
  | .minus q => readSetLetter s q true c
  | .setOpen q negated => .ok (s.enter (.inSet q negated { delimiter := c }))
  | .inSet q negated scan => readSet s q negated scan c
  | .inLiteral q quote text => .ok (readLiteral s q quote text c)

/-! ### Whole texts -/

/-- Reads some characters. -/
def advance (s : State) (text : List Char) : Except Fault State :=
  text.foldlM step s

/-- What has been read, if the text may end here. -/
def finish (s : State) : Except Fault Compound :=
  match s.mode with
  | .ready => if s.groups.isEmpty then .ok s.level.close else .error .unclosedGroup
  | .quantified _ | .count _ | .minus _ | .setOpen _ _ => .error .unexpectedEnd
  | .bounds .opened | .bounds (.comma _) => .error .invalidNumber
  | .bounds (.first _) | .bounds (.second _ _) => .error .invalidBounds
  | .inSet _ _ _ => .error .unclosedSet
  | .inLiteral _ _ _ => .error .unclosedLiteral

/-- Reads a pattern in shorthand. -/
def parse (text : List Char) : Except Fault Compound :=
  advance {} text >>= finish

end PegTrace.Shorthand
