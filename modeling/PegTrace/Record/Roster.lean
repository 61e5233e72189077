import PegTrace.Keyed

/-!
# Rosters

A roster keeps items in the order in which they were added, together with an index from keys to places. An item
added under a key that is already taken hides the earlier one from lookups and leaves it in its place.
-/

namespace PegTrace

/-- Items in order with an index of their keys. -/
structure Roster (β : Type) where
  /-- The items, first to last. -/
  entries : List (Keyed β) := []
  /-- The place of each key, the latest first. -/
  index : List (Key × Nat) := []

namespace Roster

variable {β : Type}

/-- The roster without items. -/
def empty : Roster β :=
  {}

/-- Adds an item at the end and notes its place under its key. -/
def push (r : Roster β) (item : Keyed β) : Roster β :=
  { entries := r.entries ++ [item]
    index :=
      match item.key with
      | none => r.index
      | some key => (key, r.entries.length) :: r.index }

/-- An index with the places of some more items, the first of which stands at `place`. -/
def extendIndex (index : List (Key × Nat)) (place : Nat) : List (Keyed β) → List (Key × Nat)
  | [] => index
  | ⟨none, _⟩ :: items => extendIndex index (place + 1) items
  | ⟨some key, _⟩ :: items => extendIndex ((key, place) :: index) (place + 1) items

/-- The roster of the given items, in one go. -/
def ofList (items : List (Keyed β)) : Roster β :=
  { entries := items, index := extendIndex [] 0 items }

/-- The number of items. -/
def size (r : Roster β) : Nat :=
  r.entries.length

/-- Whether there are no items. -/
def isEmpty (r : Roster β) : Bool :=
  r.entries.isEmpty

/-- The keys of the items that have one, in order. -/
def keys (r : Roster β) : List Key :=
  r.entries.filterMap Keyed.key

/-- The item that the index names for the key. -/
def get? (r : Roster β) (key : Key) : Option β := do
  let place ← r.index.lookup key
  let entry ← r.entries[place]?
  return entry.value

@[simp] theorem entries_push (r : Roster β) (item : Keyed β) :
    (r.push item).entries = r.entries ++ [item] := rfl

@[simp] theorem entries_ofList (items : List (Keyed β)) : (ofList items).entries = items := rfl

/-- Adding items one after the other extends the entries and the index. -/
theorem foldl_push (items : List (Keyed β)) (r : Roster β) :
    items.foldl push r =
      { entries := r.entries ++ items
        index := extendIndex r.index r.entries.length items } := by
  induction items generalizing r with
  | nil => simp [extendIndex]
  | cons item items ih =>
    obtain ⟨key, value⟩ := item
    cases key <;> simp [ih, push, extendIndex]

/-- The roster of some items is what adding them one after the other gives. -/
theorem ofList_eq_foldl_push (items : List (Keyed β)) : ofList items = items.foldl push empty := by
  simp [foldl_push, ofList, empty]

end Roster

end PegTrace
