import PegTrace.CharTest
import PegTrace.Text.Alphabetic
import PegTrace.Text.Blank
import PegTrace.Text.Lowercase
import PegTrace.Text.Numeric
import PegTrace.Text.Quoted
import PegTrace.Text.Uppercase

/-!
# Named character classes

Nine classes of characters have names, and seven of them also a letter by which they are written in shorthand.
Names and letters are found in either case.
-/

namespace PegTrace

open Text

/-- A class of characters. -/
inductive CharClass where
  | alnum | alpha | digit | lower | printable | punct | space | upper | whitespace
deriving DecidableEq, Repr

namespace CharClass

/-- Every class, in the order of the names. -/
def list : List CharClass :=
  [alnum, alpha, digit, lower, printable, punct, space, upper, whitespace]

/-- The name of a class. -/
def name : CharClass → String
  | alnum => "alnum"
  | alpha => "alpha"
  | digit => "digit"
  | lower => "lower"
  | printable => "printable"
  | punct => "punct"
  | space => "space"
  | upper => "upper"
  | whitespace => "whitespace"

/-- The letter of a class in shorthand. -/
def letter? : CharClass → Option Char
  | alnum => none
  | alpha => some 'A'
  | digit => some 'N'
  | lower => some 'L'
  | printable => some 'C'
  | punct => some 'P'
  | space => some 'S'
  | upper => some 'U'
  | whitespace => none

/-- Whether a character belongs to the class. -/
def holds : CharClass → Char → Bool
  | alnum, c => alphabetic.contains c || numeric.contains c
  | alpha, c => alphabetic.contains c
  | digit, c => c.isDigit
  | lower, c => lowercase.contains c
  | printable, c => ' ' ≤ c && c ≤ '~'
  | punct, c => "(),.;:\"'!?-`".toList.contains c
  | space, c => c = ' '
  | upper, c => uppercase.contains c
  | whitespace, c => isBlank c

/-- The class of the given name, in either case. -/
def ofName? (name : String) : Option CharClass :=
  list.find? fun k => k.name = String.ofList (name.toList.map Char.toLower)

/-- The class of the given letter, in either case. -/
def ofLetter? (letter : Char) : Option CharClass :=
  list.find? fun k => k.letter? = some letter.toUpper

/-- The test for members of the class, labelled with its name. -/
def test (k : CharClass) : CharTest Char :=
  .predicate k.name k.holds

end CharClass

/-- A name that no class has. -/
structure UnknownClass where
  /-- The name that was asked for. -/
  name : String
deriving DecidableEq, Repr

/-- What is said of a name that no class has. -/
def UnknownClass.message (e : UnknownClass) : String :=
  "Unknown character class " ++ quoteString e.name ++ " (known: " ++
    ", ".intercalate (CharClass.list.map CharClass.name) ++ ")"

/-- The test for members of the class of the given name. -/
def CharTest.ofClassName (name : String) : Except UnknownClass (CharTest Char) :=
  match CharClass.ofName? name with
  | some k => .ok k.test
  | none => .error ⟨name⟩

end PegTrace
