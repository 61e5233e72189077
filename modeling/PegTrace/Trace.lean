/-!
# Traces

A trace tells what happened while a pattern was being matched, in order. It is kept as a tree, so that two traces are
joined in one step however long they are; `Trace.events` lists what it tells.
-/

namespace PegTrace

/-- Something that happened while a pattern was being matched. -/
inductive Event where
  /-- The character at this place was read. -/
  | read (place : Nat)
  /-- A character was wanted at this place and there was none. -/
  | exhausted (place : Nat)
  /-- A hole without a body was met at this place. -/
  | unbound (place : Nat)
deriving DecidableEq, Repr

/-- What happened while a pattern was being matched. -/
inductive Trace where
  /-- Nothing happened. -/
  | quiet
  /-- One thing happened. -/
  | event (e : Event)
  /-- One thing happened after the other. -/
  | both (first second : Trace)
deriving DecidableEq, Repr

namespace Trace

/-- The events of a trace, in front of some more. -/
def onto : Trace → List Event → List Event
  | quiet, rest => rest
  | event e, rest => e :: rest
  | both first second, rest => first.onto (second.onto rest)

/-- The events of a trace, in order. -/
def events (t : Trace) : List Event :=
  t.onto []

/-- One trace after the other, for all of them. -/
def join : List Trace → Trace
  | [] => quiet
  | [t] => t
  | t :: ts => both t (join ts)

/-- What stands behind a trace stays behind its events. -/
theorem onto_eq_append (t : Trace) (rest : List Event) : t.onto rest = t.events ++ rest := by
  induction t generalizing rest with
  | quiet => rfl
  | event e => rfl
  | both first second ih₁ ih₂ =>
    simp only [onto, events]
    rw [ih₁, ih₂, ih₁ (second.onto []), ih₂ []]
    simp

@[simp] theorem events_quiet : events quiet = [] := rfl

@[simp] theorem events_event (e : Event) : events (event e) = [e] := rfl

@[simp] theorem events_both (first second : Trace) :
    events (both first second) = first.events ++ second.events := by
  rw [events, onto, onto_eq_append, onto_eq_append, List.append_nil]

@[simp] theorem events_join (ts : List Trace) : events (join ts) = ts.flatMap events := by
  induction ts with
  | nil => rfl
  | cons t ts ih => cases ts <;> simp_all [join]

end Trace

end PegTrace
