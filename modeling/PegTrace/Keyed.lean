/-!
# Keyed items

A key names an item among its siblings. Patterns and records hold lists of items of which any may carry a key;
the same key may be carried by several.
-/

namespace PegTrace

/-- The name of an item. -/
abbrev Key := String

/-- An item that may carry a key. -/
structure Keyed (β : Type) where
  /-- The key, if the item has one. -/
  key : Option Key
  /-- The item itself. -/
  value : β
deriving DecidableEq, Repr

namespace Keyed

/-- An item without a key. -/
def plain {β : Type} (value : β) : Keyed β :=
  ⟨none, value⟩

/-- An item under the given key. -/
def named {β : Type} (key : Key) (value : β) : Keyed β :=
  ⟨some key, value⟩

/-- The same key on the image of the item. -/
def map {β γ : Type} (f : β → γ) (item : Keyed β) : Keyed γ :=
  ⟨item.key, f item.value⟩

end Keyed

end PegTrace
