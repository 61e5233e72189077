import PegTrace.Record.Stretch

/-!
# Tokens

The tokens of a document are read off the record that it leaves. Each repetition is a choice between the kinds of
tokens, kept under the name of its kind; a label keeps its word and its tag by name.
-/

namespace PegTrace.Document

/-- The kinds of tokens. -/
inductive TokenKind where
  | whitespace | number | word | label
deriving DecidableEq, Repr

namespace TokenKind

/-- The kind of the token that is kept under the key. -/
def ofKey? : Key → Option TokenKind
  | "whitespace" => some whitespace
  | "number" => some number
  | "word" => some word
  | "label" => some label
  | _ => none

/-- The name of a kind, which stands in for a tag. -/
def name : TokenKind → String
  | whitespace => "WS"
  | number => "NUM"
  | word => "WORD"
  | label => "LABEL"

end TokenKind

/-- A token of a document. -/
structure Token where
  /-- What kind of token it is. -/
  kind : TokenKind
  /-- Where it starts. -/
  start : Nat
  /-- Where it stops. -/
  stop : Nat
  /-- Its text, for a label without the tag. -/
  text : String
  /-- The tag of a label. -/
  tag : Option String
deriving DecidableEq, Repr

/-- The text and the tag of a token, with a tab between them. -/
def Token.tagged (t : Token) : String :=
  t.text ++ "\t" ++ t.tag.getD t.kind.name

/-- The text and the tag that the record of a token holds. -/
def contents? (kind : TokenKind) (r : Record) (text : Array Char) :
    Option (String × Option String) :=
  match kind with
  | .label => do
    let word ← r.get? "word"
    let tag ← r.get? "tag"
    return (word.text text, some (tag.text text))
  | _ => some (r.text text, none)

/-- The token that the record of a repetition holds. -/
def token? (text : Array Char) : Record → Option Token
  | .choice _ _ (some key) (some child) => do
    let kind ← TokenKind.ofKey? key
    let (content, tag) ← contents? kind child text
    return ⟨kind, child.start, child.stop, content, tag⟩
  | _ => none

/-- The tokens that the record of a document holds. -/
def tokens (document : Record) (text : Array Char) : List Token :=
  match document with
  | .series _ items => items.filterMap (token? text)
  | _ => []

end PegTrace.Document
