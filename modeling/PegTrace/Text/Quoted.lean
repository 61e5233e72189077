import PegTrace.Text.Extending
import PegTrace.Text.Ignorable
import PegTrace.Text.Unprintable

/-!
# Quoted text

How characters and strings are shown in messages: between quotes, with the quote itself, the backslash and
everything that cannot be read on its own written as an escape.
-/

namespace PegTrace.Text

/-- Whether the character is shown by its code point: it attaches to its neighbour, may be left out, or leaves no
mark. -/
def isHidden (c : Char) : Bool :=
  extending.contains c || ignorable.contains c || unprintable.contains c

/-- A code point in lower-case hexadecimal digits between braces. -/
def codePoint (c : Char) : List Char :=
  ['\\', 'u', '\x7b'] ++ Nat.toDigits 16 c.toNat ++ ['\x7d']

/-- How a character is written between two of the given quotes. -/
def escape (quote c : Char) : List Char :=
  if c = '\x00' then ['\\', '0']
  else if c = '\t' then ['\\', 't']
  else if c = '\r' then ['\\', 'r']
  else if c = '\n' then ['\\', 'n']
  else if c = '\\' ∨ c = quote then ['\\', c]
  else if isHidden c then codePoint c
  else [c]

/-- A text between two of the given quotes. -/
def quoted (quote : Char) (text : List Char) : List Char :=
  quote :: text.flatMap (escape quote) ++ [quote]

/-- A single character between apostrophes. -/
def quoteChar (c : Char) : String :=
  String.ofList (quoted '\x27' [c])

/-- A string between double quotes. -/
def quoteString (s : String) : String :=
  String.ofList (quoted '"' s.toList)

end PegTrace.Text
