import PegTrace.Cli.Options
import PegTrace.Diagnostic
import PegTrace.Document.Rules
import PegTrace.Document.Token
import PegTrace.Record.Tree
import PegTrace.Shorthand.Meaning

/-!
# Runs of the command

A run reads a text and either shows the lines in which a pattern is found, with the matches in reverse video, or splits
the text into tagged tokens. What it writes and its exit status are computed from the options and the text alone.
-/

namespace PegTrace.Cli

open Text

/-! ### Outcomes -/

/-- What a run leaves behind. -/
structure Outcome where
  /-- The exit status. -/
  status : Nat := 0
  /-- What was written to standard output. -/
  output : String := ""
  /-- What was written to standard error. -/
  errors : String := ""
deriving DecidableEq, Repr

/-- Why a text could not be read. -/
inductive ReadFailure where
  /-- There is no such file. -/
  | missing
  /-- The file may not be read. -/
  | denied
  /-- A part of the path before the last is no directory. -/
  | notDirectory
  /-- The file is a directory. -/
  | isDirectory
  /-- The path or a part of it is longer than a name may be. -/
  | nameTooLong
  /-- The bytes are not a text in UTF-8. -/
  | notText
  /-- Something else, in the words of the system. -/
  | other (reason : String)
deriving DecidableEq, Repr

/-- What is said of a text that could not be read. -/
def ReadFailure.message : ReadFailure → String
  | missing => "No such file or directory (os error 2)"
  | denied => "Permission denied (os error 13)"
  | notDirectory => "Not a directory (os error 20)"
  | isDirectory => "Is a directory (os error 21)"
  | nameTooLong => "File name too long (os error 36)"
  | notText => "stream did not contain valid UTF-8"
  | other reason => reason

/-- Why a run failed. -/
inductive Failure where
  /-- The text could not be read. -/
  | unreadable (file : Option String) (reason : ReadFailure)
  /-- The pattern is no pattern. -/
  | badPattern (pattern : String) (fault : Shorthand.Fault)
  /-- The text is no document. -/
  | notDocument (diagnostic : Diagnostic)
  /-- Matching took more steps than are allowed. -/
  | tooManySteps
deriving DecidableEq, Repr

/-- What went wrong and, where there is one, the cause. -/
def Failure.message : Failure → String × Option String
  | unreadable none reason => ("Failed to read stdin", some reason.message)
  | unreadable (some file) reason => ("Failed to read " ++ file, some reason.message)
  | badPattern pattern fault => ("Bad pattern " ++ quoteString pattern, some fault.message)
  | notDocument diagnostic => (diagnostic.message, none)
  | tooManySteps => ("Too many steps", none)

/-- The failure as it is written to standard error. -/
def Failure.report (f : Failure) : String :=
  match f.message with
  | (what, none) => "Error: " ++ what ++ "\n"
  | (what, some cause) => "Error: " ++ what ++ "\n\nCaused by:\n    " ++ cause ++ "\n"

/-! ### Logging -/

/-- The most detailed level that is shown. -/
def shownLevel (verbosity : Nat) : LogLevel :=
  match verbosity with
  | 0 => .warn
  | 1 => .info
  | 2 => .debug
  | _ => .trace

/-- The part of the program that a line comes from. -/
def logSource : LogLevel → String
  | .debug => "strand::search"
  | .trace => "strand::pattern::placeholder"
  | _ => "strand"

/-- A line of the log as it is written to standard error. -/
def writeLog (line : LogLine) : String :=
  "[" ++ line.level.name ++ " " ++ logSource line.level ++ "] " ++ line.message ++ "\n"

/-- The lines that are shown at a verbosity. -/
def writeLogs (verbosity : Nat) (lines : List LogLine) : String :=
  String.join
    ((lines.filter fun line => line.level.rank ≤ (shownLevel verbosity).rank).map writeLog)

/-! ### Searching lines -/

/-- A piece of a line, which may be a match. -/
structure Piece where
  /-- The characters. -/
  text : List Char
  /-- Whether they are a match. -/
  isMatch : Bool
deriving DecidableEq, Repr

/-- A piece as it is written, a match in reverse video. -/
def Piece.write (piece : Piece) : String :=
  let text := String.ofList piece.text
  if piece.isMatch then "\x1b[7m" ++ text ++ "\x1b[0m" else text

/-- The line from `place` on, cut at the ends of the matches. -/
def piecesFrom (line : Array Char) (place : Nat) : List Found → List Piece
  | [] => [⟨slice line place line.size, false⟩]
  | f :: found =>
    ⟨slice line place f.start, false⟩ :: ⟨slice line f.start f.stop, true⟩ ::
      piecesFrom line f.stop found

/-- The matches in a line that have characters. -/
def searchLine (p : Pattern Char) (line : Array Char) : Option (Logged (List Found)) := do
  let scan ← Search.scan (Grammar.matcher {} line p) line.size
  return { scan with value := scan.value.filter fun f => !f.isEmpty }

/-- A line with matches, as it is written. -/
def writeLine (number : Nat) (line : Array Char) (found : List Found) : String :=
  toString number ++ ":" ++ String.join ((piecesFrom line 0 found).map Piece.write) ++ "\n"

/-- What is written of a line: nothing without matches, otherwise the line and, if asked for, the records. -/
def showLine (tree : Bool) (number : Nat) (line : Array Char) (found : List Found) : String :=
  if found.isEmpty then ""
  else
    writeLine number line found ++
      (if tree then String.join (found.map (·.record.tree)) else "")

/-- What a search through lines has come to. -/
structure Tally where
  /-- The number of matches. -/
  total : Nat := 0
  /-- What was written. -/
  output : String := ""
  /-- What was logged. -/
  log : List LogLine := []

/-- Searches the lines from the given number on. -/
def searchLines (p : Pattern Char) (tree : Bool) : (number : Nat) → List (List Char) → Option Tally
  | _, [] => some {}
  | number, line :: lines => do
    let line := (trimEnding line).toArray
    let found ← searchLine p line
    let rest ← searchLines p tree (number + 1) lines
    return { total := found.value.length + rest.total
             output := showLine tree number line found.value ++ rest.output
             log := found.log ++ rest.log }

/-- Shows the lines of a text in which the pattern is found; it is an error if there are none. -/
def search (options : Options) (pattern : String) (text : List Char) : Except Failure Outcome := do
  let p ← (Shorthand.compile pattern.toList).mapError (.badPattern pattern)
  let some tally := searchLines p options.tree 1 (lines text) | .error .tooManySteps
  let log := tally.log ++ [⟨.info, toString tally.total ++ " matches"⟩]
  return { status := if tally.total = 0 then 1 else 0
           output := tally.output
           errors := writeLogs options.verbosity log }

/-! ### Tagging -/

/-- The tokens of a document that are not blanks, one on each line. -/
def writeTokens (tokens : List Document.Token) : String :=
  String.join ((tokens.filter (·.kind ≠ .whitespace)).map fun t => t.tagged ++ "\n")

/-- What comes of the match of a text as a document. -/
def tagMatched (options : Options) (text : Array Char) : Option Attempt → Except Failure Outcome
  | none => .error .tooManySteps
  | some a =>
    if a.success then
      let tree := if options.tree then a.record.tree else ""
      .ok { output := tree ++ writeTokens (Document.tokens a.record text) }
    else .error (.notDocument (.ofRecord a.record text))

/-- Splits a text into tagged tokens. -/
def tag (options : Options) (text : List Char) : Except Failure Outcome :=
  tagMatched options text.toArray (Document.matchRule Document.document text.toArray)

/-! ### Whole runs -/

/-- The text that was read, or the reason why it could not be. -/
abbrev Source := Except ReadFailure ByteArray

/-- The characters of a text in UTF-8. -/
def decode (source : Source) : Except ReadFailure (List Char) := do
  let bytes ← source
  match String.fromUTF8? bytes with
  | some text => return text.toList
  | none => .error .notText

/-- A text that is written in UTF-8 is read back. -/
theorem decode_toUTF8 (text : String) : decode (.ok text.toUTF8) = .ok text.toList := by
  have hread : String.fromUTF8? text.toUTF8 = some text := dif_pos text.isValidUTF8
  simp only [decode, bind, Except.bind, hread]
  rfl

/-- What is logged of a text. -/
def describeText (text : List Char) : LogLine :=
  ⟨.info, "read " ++ toString text.length ++ " chars in " ++ toString (lines text).length ++ " lines"⟩

/-- Runs with the given options on what was read. -/
def Options.execute (options : Options) (source : Source) : Outcome :=
  match decode source with
  | .error reason => { status := 1, errors := (Failure.unreadable options.file reason).report }
  | .ok text =>
    let before := writeLogs options.verbosity [describeText text]
    let outcome := match options.pattern with
      | some pattern => search options pattern text
      | none => tag options text
    match outcome with
    | .ok outcome => { outcome with errors := before ++ outcome.errors }
    | .error failure => { status := 1, errors := before ++ failure.report }

/-- The version of the program. -/
def versionText : String :=
  "strand 0.1.0\n"

/-- How the program is used. -/
def helpText : String :=
  String.join
    ["Composable character-level pattern combinators with introspectable match records.\n",
      "\n",
      "Usage: strand [OPTIONS] [FILE]\n",
      "\n",
      "Arguments:\n",
      "  [FILE]  File to read; standard input when absent\n",
      "\n",
      "Options:\n",
      "  -p, --pattern <NOTATION>  Search each line for a pattern written in notation\n",
      "  -t, --tree                Print the match record tree\n",
      "  -v, --verbose...          More logging on stderr (repeatable)\n",
      "  -h, --help                Print help\n",
      "  -V, --version             Print version\n"]

/-- What is said when the arguments are not understood, whatever is wrong with them. The program names the argument
here, in words that are not kept; only the exit status is the same. -/
def misuseText : String :=
  "error: unexpected arguments\n\nUsage: strand [OPTIONS] [FILE]\n\nFor more information, try '--help'.\n"

/-- The outcome of a command, given what is read from the source that it names. -/
def Command.execute (command : Command) (source : Options → Source) : Outcome :=
  match command with
  | .run options => options.execute (source options)
  | .version => { output := versionText }
  | .help => { output := helpText }
  | .misuse => { status := 2, errors := misuseText }

end PegTrace.Cli
