import PegTrace.Grammar
import PegTrace.Pattern.Derived
import PegTrace.Search

/-!
# Documents

A document is a run of tokens: blanks, numbers with an optional sign, labels `word/TAG`, and words, which are anything
else up to a blank or a slash. The rules of the document are ordinary patterns.
-/

namespace PegTrace.Document

open Text

/-! ### Characters -/

/-- Accepts blanks. -/
def blankTest : CharTest Char :=
  .predicate "whitespace" isBlank

/-- Accepts what a word may hold: neither blanks nor slashes. -/
def wordTest : CharTest Char :=
  .signed [.any [blankTest, .equals '/']] true

/-- Accepts what a tag may hold. -/
def tagTest : CharTest Char :=
  .any [.range 'A' 'Z', .range '0' '9', .set ['-', '_', '$']]

/-! ### Rules -/

/-- A run of characters that pass a test. -/
def runOf (test : CharTest Char) : Pattern Char :=
  .collapse (Pattern.oneOrMore (.literal test))

/-- A run of blanks. -/
def whitespace : Pattern Char :=
  runOf blankTest

/-- A number with an optional sign. -/
def number : Pattern Char :=
  .concat
    [.named "sign" (Pattern.optional (.oneOf ['+', '-'])),
      .named "digits" (runOf (.range '0' '9'))]

/-- A run of characters that are neither blanks nor slashes. -/
def word : Pattern Char :=
  runOf wordTest

/-- A word with a tag after a slash. -/
def label : Pattern Char :=
  .concat [.named "word" word, .plain (.one '/'), .named "tag" (runOf tagTest)]

/-- A token: the first of these that matches. -/
def token : Pattern Char :=
  .choice
    [.named "whitespace" whitespace, .named "label" label, .named "number" number,
      .named "word" word]

/-- A run of tokens. -/
def document : Pattern Char :=
  token.star

/-- The rules by name. -/
def rule? : String → Option (Pattern Char)
  | "whitespace" => some whitespace
  | "number" => some number
  | "word" => some word
  | "label" => some label
  | "token" => some token
  | "document" => some document
  | _ => none

/-- Matches a rule against a whole text. -/
def matchRule (rule : Pattern Char) (text : Array Char) : Option Attempt :=
  Search.matchWhole (Grammar.matcher {} text rule) text.size

end PegTrace.Document
