/-!
# Lines and positions

A line ends at a line feed, at a carriage return, or at the two together, which count as one break. A position
in a text is the number of breaks before it and the distance from the last of them; a position between a
carriage return and its line feed still belongs to the line that they end.
-/

namespace PegTrace.Text

/-! ### Line breaks -/

/-- The offsets just after each line break of a text that begins at `offset`. -/
def lineStarts (offset : Nat) : List Char → List Nat
  | [] => []
  | '\r' :: '\n' :: rest => (offset + 2) :: lineStarts (offset + 2) rest
  | c :: rest =>
    if c = '\n' ∨ c = '\r' then (offset + 1) :: lineStarts (offset + 1) rest
    else lineStarts (offset + 1) rest

/-- Puts a character in front of the first line. -/
def consFirst (c : Char) : List (List Char) → List (List Char)
  | [] => [[c]]
  | line :: lines => (c :: line) :: lines

/-- The lines of a text, each with its ending; the last line is what follows the last break. -/
def lines : List Char → List (List Char)
  | [] => [[]]
  | '\r' :: '\n' :: rest => ['\r', '\n'] :: lines rest
  | c :: rest => if c = '\n' ∨ c = '\r' then [c] :: lines rest else consFirst c (lines rest)

/-- A line without the carriage returns and line feeds at its end. -/
def trimEnding (line : List Char) : List Char :=
  (line.reverse.dropWhile fun c => c = '\n' ∨ c = '\r').reverse

/-! ### Positions -/

/-- A place in a text, counted from zero. -/
structure Position where
  /-- The number of lines before this one. -/
  line : Nat
  /-- The number of characters before this one on its line. -/
  column : Nat
deriving DecidableEq, Repr

namespace Position

/-- The first place of every text. -/
def zero : Position :=
  ⟨0, 0⟩

/-- The place of the character at `index`; beyond the end, the place of the end. -/
def ofIndex (text : List Char) (index : Nat) : Position :=
  let i := min index text.length
  let passed := (lineStarts 0 text).takeWhile (· ≤ i)
  { line := passed.length, column := i - passed.getLastD 0 }

/-- Line and column as a reader counts them, from one. -/
def display (p : Position) : String :=
  toString (p.line + 1) ++ ":" ++ toString (p.column + 1)

end Position

end PegTrace.Text
