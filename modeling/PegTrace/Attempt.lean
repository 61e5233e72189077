import PegTrace.Record.Basic
import PegTrace.Trace

/-!
# Attempts

An attempt is what comes of matching a pattern at a place: whether it succeeded, the record it left, and a trace of
the places it looked at on the way, in order, those of abandoned alternatives included.
-/

namespace PegTrace

/-- The outcome of matching a pattern at a place. -/
structure Attempt where
  /-- Whether the pattern matched. -/
  success : Bool
  /-- The record, which tells how far it came either way. -/
  record : Record
  /-- What happened on the way. -/
  trace : Trace
deriving DecidableEq

namespace Attempt

/-- How far the attempt was committed. -/
def stop (a : Attempt) : Nat :=
  a.record.stop

/-- Whether the attempt matched everything up to `place`. -/
def covers (a : Attempt) (place : Nat) : Bool :=
  a.success && a.stop = place

end Attempt

/-! ### Attempts under keys -/

/-- The records of some attempts under their keys. -/
def keyedRecords (tried : List (Keyed Attempt)) : List (Keyed Record) :=
  tried.map (·.map Attempt.record)

/-- The farthest of a place and what some attempts came to. -/
def reachOf (place : Nat) (tried : List (Keyed Attempt)) : Nat :=
  Record.farthest place (tried.map (·.value.record))

/-- What happened in some attempts, in order. -/
def traceOf (tried : List (Keyed Attempt)) : Trace :=
  .join (tried.map (·.value.trace))

end PegTrace
