import PegTrace.Attempt
import PegTrace.CharClass
import PegTrace.CharTest
import PegTrace.Cli.Options
import PegTrace.Cli.Outcome
import PegTrace.Diagnostic
import PegTrace.Document.Rules
import PegTrace.Document.Token
import PegTrace.Grammar
import PegTrace.Keyed
import PegTrace.Log
import PegTrace.Main
import PegTrace.Matcher
import PegTrace.Pattern.Basic
import PegTrace.Pattern.Derived
import PegTrace.Pattern.Matching
import PegTrace.Pattern.Outline
import PegTrace.Record.Basic
import PegTrace.Record.Edit
import PegTrace.Record.Roster
import PegTrace.Record.Stretch
import PegTrace.Record.Tree
import PegTrace.Record.Walk
import PegTrace.Search
import PegTrace.Shorthand.Error
import PegTrace.Shorthand.Expression
import PegTrace.Shorthand.Meaning
import PegTrace.Shorthand.Reader
import PegTrace.Text.Alphabetic
import PegTrace.Text.Blank
import PegTrace.Text.CodeRange
import PegTrace.Text.Extending
import PegTrace.Text.Ignorable
import PegTrace.Text.Lines
import PegTrace.Text.Lowercase
import PegTrace.Text.Numeric
import PegTrace.Text.Quoted
import PegTrace.Text.Unprintable
import PegTrace.Text.Uppercase
import PegTrace.Trace
import PegTrace.Proofs.Matching.Parts
import PegTrace.Proofs.Record.Framed
import PegTrace.Proofs.Matching.Framing
import PegTrace.Proofs.Matching.Answers
import PegTrace.Proofs.Matching.Replay
import PegTrace.Proofs.Matching.Locality
import PegTrace.Proofs.Recognition.Outcome
import PegTrace.Proofs.Recognition.Parses
import PegTrace.Proofs.Matching.Exactness
import PegTrace.Proofs.Matching.Rounds
import PegTrace.Proofs.Recognition.Recogniser
import PegTrace.Proofs.Shorthand.Writing
import PegTrace.Proofs.Shorthand.Denotation
import PegTrace.Proofs.Document.Lexing
import PegTrace.Proofs.Document.Tokens
import PegTrace.Proofs.Document.Slashes
import PegTrace.Proofs.Matching.Guarded
import PegTrace.Proofs.Search.Scan
import PegTrace.Proofs.Text.Lines
import PegTrace.Proofs.Cli.Highlight
import PegTrace.Proofs.Cli.Tagging
import PegTrace.Proofs.Pattern.Revision
import PegTrace.Proofs.Matching.Lockstep
import PegTrace.Proofs.Matching.Dressing
import PegTrace.Proofs.Matching.Unfolding
import PegTrace.Proofs.Grammar.Binding
import PegTrace.Proofs.Shorthand.Canonical
import PegTrace.Proofs.Record.Shifted
import PegTrace.Proofs.Matching.Windows
import PegTrace.Proofs.Matching.Ends
import PegTrace.Proofs.Matching.Unrolling
import PegTrace.Proofs.Matching.Series
import PegTrace.Proofs.Matching.Exclusion
import PegTrace.Proofs.Matching.Grouping
import PegTrace.Proofs.Matching.Leaves
import PegTrace.Proofs.Matching.SignedTests
import PegTrace.Proofs.Matching.Farthest
import PegTrace.Proofs.Shorthand.Faults
import PegTrace.Proofs.Matching.Mismatch
import PegTrace.Proofs.Recognition.Balanced
import PegTrace.Proofs.Matching.Agreement
import PegTrace.Proofs.Search.Directed
import PegTrace.Proofs.Text.Columns
import PegTrace.Proofs.Record.Preorder
import PegTrace.Proofs.Matching.Rosters
import PegTrace.Proofs.Record.Lookup
import PegTrace.Proofs.Matching.Lookups
import PegTrace.Proofs.Shorthand.Descent
import PegTrace.Proofs.Shorthand.Concord
