import PegTrace.Record.Basic

/-!
# Editing records

Ways to reshape a record after a match: dropping its structure, emptying it, wrapping it as a single repetition,
moving its cursors, or putting one of its parts in its place.
-/

namespace PegTrace

/-- The largest value of a cursor. -/
def cursorLimit : Nat :=
  UInt64.size - 1

/-- Moves a cursor by a signed distance and keeps it between zero and the largest cursor. -/
def moveCursor (cursor : Nat) (distance : Int) : Nat :=
  min (Int.toNat (cursor + distance)) cursorLimit

namespace Record

/-- The record without its parts. -/
def flattened (r : Record) : Record :=
  span r.extent

/-- A record that commits nothing where the given one starts. -/
def emptied (r : Record) : Record :=
  empty r.start

/-- The record as the only repetition of a series. -/
def wrapped (r : Record) : Record :=
  series (.covering r.start r.stop (farthest r.start [r])) [r]

/-- The record with its three cursors moved. -/
def moved (start stop reach : Int) (r : Record) : Record :=
  r.withExtent
    ⟨moveCursor r.start start, moveCursor r.stop stop, moveCursor r.reach reach⟩

/-- The part with the given number, or the record itself when it has none. -/
def part (index : Nat) (r : Record) : Record :=
  match r.children[index]? with
  | some c => c.value
  | none => r

end Record

end PegTrace
