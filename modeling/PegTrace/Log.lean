import PegTrace.Attempt

/-!
# Log lines

What is worth telling about a run, graded by how much detail was asked for.
-/

namespace PegTrace

/-- How much detail a line belongs to. -/
inductive LogLevel where
  | error | warn | info | debug | trace
deriving DecidableEq, Repr

namespace LogLevel

/-- The name of a level. -/
def name : LogLevel → String
  | error => "ERROR"
  | warn => "WARN"
  | info => "INFO"
  | debug => "DEBUG"
  | trace => "TRACE"

/-- The place of a level, the most detailed last. -/
def rank : LogLevel → Nat
  | error => 1
  | warn => 2
  | info => 3
  | debug => 4
  | trace => 5

end LogLevel

/-- A line of the log. -/
structure LogLine where
  /-- The detail that it belongs to. -/
  level : LogLevel
  /-- What it says. -/
  message : String
deriving DecidableEq, Repr

/-- A value with what was logged on the way to it. -/
structure Logged (β : Type) where
  /-- The value. -/
  value : β
  /-- The lines, in order. -/
  log : List LogLine := []

/-- Only holes without a body are logged. -/
def Event.logLine? : Event → Option LogLine
  | unbound place => some ⟨.trace, "unbound placeholder at " ++ toString place⟩
  | _ => none

/-- What is logged of an attempt. -/
def Attempt.log (a : Attempt) : List LogLine :=
  a.trace.events.filterMap Event.logLine?

end PegTrace
