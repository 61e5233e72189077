import PegTrace.Record.Basic
import PegTrace.Text.Lines
import PegTrace.Text.Quoted

/-!
# Diagnostics

A failed match still tells how far it came. The farthest character that any part of it looked at is usually the one to
blame.
-/

namespace PegTrace

open Text

/-- Where a match stopped and how far it looked. -/
structure Diagnostic where
  /-- Where the committed stretch ends. -/
  stopped : Position
  /-- Where the farthest character is that was looked at. -/
  reached : Position
  /-- That character, unless it is the end of the text. -/
  found : Option Char
  /-- The index of that character. -/
  reachedAt : Nat
deriving DecidableEq, Repr

namespace Diagnostic

/-- The index of the farthest character looked at: a reach beyond the stop is one past it. -/
def examined (e : Extent) : Nat :=
  if e.stop < e.reach then e.reach - 1 else e.stop

/-- Locates a record in a text. -/
def ofRecord (r : Record) (text : Array Char) : Diagnostic :=
  let i := examined r.extent
  { stopped := .ofIndex text.toList r.stop
    reached := .ofIndex text.toList i
    found := text[i]?
    reachedAt := i }

/-- What is said of a failed match. -/
def message (d : Diagnostic) : String :=
  let found := match d.found with
    | some c => quoteChar c
    | none => "end of input"
  "no match: stopped at " ++ d.stopped.display ++ ", reached " ++ d.reached.display ++
    " (found " ++ found ++ ")"

end Diagnostic

end PegTrace
