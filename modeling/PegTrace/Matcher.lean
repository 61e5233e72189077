import PegTrace.Attempt
import PegTrace.CharTest

/-!
# Matchers

A matcher makes an attempt at a place with a bound that it must not read beyond, and gives no answer if it runs out of
the steps it was allowed. Each way to combine patterns is an operator on matchers: it first makes the attempts it
needs and then reads its own attempt off them.
-/

namespace PegTrace

/-- Attempts a match from the first place, reading nothing at or beyond the second. -/
abbrev Matcher := Nat → Nat → Option Attempt

namespace Matcher

/-! ### Leaves -/

/-- Matches the empty stretch. -/
def empty : Matcher := fun start _ =>
  some ⟨true, .empty start, .quiet⟩

/-- Fails for want of a body. -/
def unbound : Matcher := fun start _ =>
  some ⟨false, .empty start, .event (.unbound start)⟩

/-- The character at a place below the bound. -/
def charAt? {α : Type} (input : Array α) (place bound : Nat) : Option α :=
  if place < bound then input[place]? else none

/-- Matches one character that passes the test; one that does not still counts as read. -/
def literal {α : Type} [DecidableEq α] [LE α] [DecidableLE α] (input : Array α) (test : CharTest α) :
    Matcher := fun start bound =>
  match charAt? input start bound with
  | none => some ⟨false, .empty start, .event (.exhausted start)⟩
  | some c => some ⟨test.accepts c, .span ⟨start, start + 1, start + 1⟩, .event (.read start)⟩

/-! ### Choice -/

/-- The attempts at one place up to the first that succeeds. -/
def tryInTurn (start bound : Nat) : List (Keyed Matcher) → Option (List (Keyed Attempt))
  | [] => some []
  | m :: items => do
    let a ← m.value start bound
    if a.success then
      return [⟨m.key, a⟩]
    let tried ← tryInTurn start bound items
    return ⟨m.key, a⟩ :: tried

/-- Matches what the first alternative matches that matches at all. -/
def choice (items : List (Keyed Matcher)) : Matcher := fun start bound => do
  let tried ← tryInTurn start bound items
  let reach := reachOf start tried
  let trace := traceOf tried
  match tried.getLast? with
  | none =>
    return ⟨false, .choice (.covering start start reach) none none none, trace⟩
  | some ⟨key, a⟩ =>
    if a.success then
      let extent := Extent.covering start a.stop reach
      return ⟨true, .choice extent (some (tried.length - 1)) key (some a.record), trace⟩
    return ⟨false, .choice (.covering start start reach) none none (some a.record), trace⟩

/-! ### Concatenation -/

/-- The attempts that follow one another up to the first that fails. -/
def tryInSequence (bound : Nat) (start : Nat) : List (Keyed Matcher) → Option (List (Keyed Attempt))
  | [] => some []
  | m :: items => do
    let a ← m.value start bound
    if a.success then
      let tried ← tryInSequence bound a.stop items
      return ⟨m.key, a⟩ :: tried
    return [⟨m.key, a⟩]

/-- Where the last of some attempts stopped, or `start` if there was none. -/
def lastStop (start : Nat) (tried : List (Keyed Attempt)) : Nat :=
  match tried.getLast? with
  | none => start
  | some item => item.value.stop

/-- Matches the items one after the other and stops where the first failing one stops. -/
def concat (items : List (Keyed Matcher)) : Matcher := fun start bound => do
  let tried ← tryInSequence bound start items
  let extent := Extent.covering start (lastStop start tried) (reachOf start tried)
  return ⟨tried.all (·.value.success), .all extent (.ofList (keyedRecords tried)), traceOf tried⟩

/-! ### Intersection -/

/-- The attempts at one place up to the first that fails or stops elsewhere than those before it. -/
def tryInAgreement (start bound : Nat) (agreed : Option Nat) :
    List (Keyed Matcher) → Option (List (Keyed Attempt))
  | [] => some []
  | m :: items => do
    let a ← m.value start bound
    if a.success && agreed.all (· = a.stop) then
      let tried ← tryInAgreement start bound (some a.stop) items
      return ⟨m.key, a⟩ :: tried
    return [⟨m.key, a⟩]

/-- Where the first of some attempts stopped, or `start` if there was none. -/
def firstStop (start : Nat) (tried : List (Keyed Attempt)) : Nat :=
  match tried.head? with
  | none => start
  | some item => item.value.stop

/-- Matches a stretch that every item matches; the first item decides how long it is. -/
def intersection (items : List (Keyed Matcher)) : Matcher := fun start bound => do
  let tried ← tryInAgreement start bound none items
  let stop := firstStop start tried
  let extent := Extent.covering start stop (reachOf start tried)
  return ⟨tried.all (·.value.covers stop), .all extent (.ofList (keyedRecords tried)), traceOf tried⟩

/-! ### Difference -/

/-- The attempts of all items at one place. -/
def tryEach (start bound : Nat) : List (Keyed Matcher) → Option (List (Keyed Attempt))
  | [] => some []
  | m :: items => do
    let a ← m.value start bound
    let tried ← tryEach start bound items
    return ⟨m.key, a⟩ :: tried

/-- Matches what the first item matches, unless the nested exclusion of the others covers it; without `exclude`, only
if it does. The others are attempted last to first. -/
def difference (items : List (Keyed Matcher)) (exclude : Bool) : Matcher := fun start bound => do
  match items with
  | [] => return ⟨false, .empty start, .quiet⟩
  | m :: others =>
    let base ← m.value start bound
    if !base.success then
      return base
    let tried ← tryEach start base.stop others.reverse
    let kept := ⟨m.key, base⟩ :: tried.reverse
    let vetoed := alternating (tried.reverse.map (·.value.covers base.stop))
    let extent := Extent.covering start base.stop (reachOf start kept)
    return ⟨exclude != vetoed, .all extent (.ofList (keyedRecords kept)),
      .both base.trace (traceOf tried)⟩

/-! ### Repetition -/

/-- Why a run of repetitions ended. -/
inductive Ending where
  /-- The upper bound was met. -/
  | full
  /-- The next attempt failed. -/
  | refused (a : Attempt)
  /-- The next attempt matched without moving on. -/
  | idle (a : Attempt)

/-- The attempt that a run of repetitions ended with. -/
def Ending.attempt? : Ending → Option Attempt
  | full => none
  | refused a | idle a => some a

/-- A run of repetitions. -/
structure Run where
  /-- The repetitions that moved on. -/
  accepted : List Attempt
  /-- Why there were no more. -/
  ending : Ending

/-- Repeats until the next attempt fails or does not move on. At most `limit` repetitions are made: with `bounded` that
is the end of the run, otherwise it is one step more than was allowed. -/
def repeatFrom (m : Matcher) (bound : Nat) (bounded : Bool) : (limit start : Nat) → Option Run
  | 0, _ => if bounded then some ⟨[], .full⟩ else none
  | limit + 1, start => do
    let a ← m start bound
    if !a.success then
      return ⟨[], .refused a⟩
    if a.stop ≤ start then
      return ⟨[], .idle a⟩
    let run ← repeatFrom m bound bounded limit a.stop
    return { run with accepted := a :: run.accepted }

/-- The run of repetitions with an upper bound, or without one and within the given steps. -/
def repeatWithin (m : Matcher) (bound start : Nat) (most : Option Nat) (steps : Nat) : Option Run :=
  match most with
  | some most => repeatFrom m bound true most start
  | none => repeatFrom m bound false steps start

/-- Where the last accepted repetition stopped. -/
def Run.cursor (start : Nat) (run : Run) : Nat :=
  match run.accepted.getLast? with
  | none => start
  | some a => a.stop

/-- Whether the lower bound is met: by count, or because the pattern would go on matching without moving on. -/
def Run.satisfies (least : Nat) (run : Run) : Bool :=
  match run.ending with
  | .idle _ => true
  | _ => least ≤ run.accepted.length

/-- Where the run stops: after the accepted repetitions or, when there are too few, where the failing attempt
stopped. -/
def Run.stop (start least : Nat) (run : Run) : Nat :=
  match run.ending with
  | .refused a => if run.satisfies least then run.cursor start else max a.stop (run.cursor start)
  | _ => run.cursor start

/-- All attempts of the run, in order. -/
def Run.attempts (run : Run) : List Attempt :=
  run.accepted ++ run.ending.attempt?.toList

/-- Matches at least `least` and at most `most` repetitions, as many as possible; an upper bound below the lower one is
raised to it. -/
def repetition (m : Matcher) (least : Nat) (most : Option Nat) (steps : Nat) : Matcher :=
  fun start bound => do
    let run ← repeatWithin m bound start (most.map (max least)) steps
    let attempts := run.attempts
    let extent := Extent.covering start (run.stop start least)
      (Record.farthest start (attempts.map Attempt.record))
    return ⟨run.satisfies least, .series extent (run.accepted.map Attempt.record),
      .join (attempts.map Attempt.trace)⟩

/-! ### Conditions and wrappers -/

/-- Matches what the first matcher matches and the second covers or, without `require`, does not cover. -/
def conditional (first second : Matcher) (require : Bool) : Matcher := fun start bound => do
  let a ← first start bound
  if !a.success then
    return a
  let b ← second start a.stop
  let extent := Extent.covering start a.stop (Record.farthest start [a.record, b.record])
  return ⟨b.covers a.stop = require, .pair extent a.record b.record, .both a.trace b.trace⟩

/-- Keeps only the stretch of the attempt. -/
def collapse (m : Matcher) : Matcher := fun start bound => do
  let a ← m start bound
  return { a with record := .span ⟨start, a.record.stop, a.record.reach⟩ }

/-- Edits the record of the attempt. -/
def custom (m : Matcher) (edit : Record → Record) : Matcher := fun start bound => do
  let a ← m start bound
  return { a with record := edit a.record }

end Matcher

end PegTrace
