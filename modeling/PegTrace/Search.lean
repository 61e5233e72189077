import PegTrace.Log
import PegTrace.Matcher

/-!
# Searching

A search tries a matcher at one place after another, from the first to the last or the other way round, and stops at the
first success. A scan collects the matches from left to right that do not overlap; after a match without characters it
moves on by one. Since a match may be empty, the place after the last character is tried too.
-/

namespace PegTrace

/-- A match that a search came upon. -/
structure Found where
  /-- Where the match was tried. -/
  start : Nat
  /-- Its record. -/
  record : Record
deriving DecidableEq

namespace Found

/-- Where the match stopped. -/
def stop (f : Found) : Nat :=
  f.record.stop

/-- Whether the match has no characters. -/
def isEmpty (f : Found) : Bool :=
  f.stop ≤ f.start

/-- Where to look for the next match. -/
def next (f : Found) : Nat :=
  if f.isEmpty then f.start + 1 else f.stop

end Found

namespace Search

variable (m : Matcher) (length : Nat)

/-! ### Anchored matches -/

/-- Matches at a place, up to the end of the input. -/
def matchPrefix (place : Nat) : Option Attempt :=
  m place length

/-- Matches the whole input: a match that stops short of the end does not count. -/
def matchWhole : Option Attempt := do
  let a ← m 0 length
  return { a with success := a.covers length }

/-! ### Searches -/

/-- Tries `count` places in turn until one succeeds, where `place` says which comes at each index. -/
def firstAlong (place : Nat → Nat) : (count index : Nat) → Option (Logged (Option Found))
  | 0, _ => some ⟨none, []⟩
  | count + 1, index => do
    let a ← m (place index) length
    if a.success then
      return ⟨some ⟨place index, a.record⟩, a.log⟩
    let later ← firstAlong place count (index + 1)
    return ⟨later.value, a.log ++ later.log⟩

/-- The stretch of a match as it is logged. -/
def describe : Option Found → String
  | none => "None"
  | some f => "Some(" ++ toString f.start ++ ".." ++ toString f.stop ++ ")"

/-- Logs the outcome of a search. -/
def report (name : String) (start : Nat) (outcome : Logged (Option Found)) : Logged (Option Found) :=
  let line := name ++ " from " ++ toString start ++ ": " ++ describe outcome.value
  { outcome with log := outcome.log ++ [⟨.debug, line⟩] }

/-- The first match at or after `start`. -/
def forward (start : Nat) : Option (Logged (Option Found)) :=
  report "find_forward" start <$> firstAlong m length id (length + 1 - start) start

/-- The last match at or before `start`. -/
def backward (start : Nat) : Option (Logged (Option Found)) :=
  let last := min start length
  report "find_backward" start <$> firstAlong m length (last - ·) (last + 1) 0

/-! ### Scans -/

/-- The next match of a scan that has come to `place`, and the place that it comes to then. -/
def next (place : Nat) : Option (Logged (Option Found) × Nat) :=
  if length < place then some (⟨none, []⟩, place)
  else do
    let outcome ← forward m length place
    match outcome.value with
    | some f => return (outcome, f.next)
    | none => return (outcome, length + 1)

/-- The matches of a scan from `place`, taking at most the given number of steps. -/
def scanFrom : (steps place : Nat) → Option (Logged (List Found))
  | 0, _ => some ⟨[], []⟩
  | steps + 1, place => do
    let (outcome, after) ← next m length place
    match outcome.value with
    | none => return ⟨[], outcome.log⟩
    | some f =>
      let later ← scanFrom steps after
      return ⟨f :: later.value, outcome.log ++ later.log⟩

/-- The matches from left to right that do not overlap; each step moves on, so no more are needed than there are
places. -/
def scan : Option (Logged (List Found)) :=
  scanFrom m length (length + 1) 0

end Search

end PegTrace
