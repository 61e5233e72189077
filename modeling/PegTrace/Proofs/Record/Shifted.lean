import Mathlib.Data.List.Forall2
import PegTrace.Proofs.Record.Framed
import PegTrace.Record.Stretch

/-!
# Records moved along the input

A record is shifted by moving all cursors in it on by the same distance; its shape, its keys and the numbers of its
alternatives stay. A walk through the shifted record meets the shifted records in the same order
(`Record.visits_shifted`). A record that is about a stretch of a window is about the same characters as the shifted
record in the whole (`slice_window`).
-/

namespace PegTrace

/-- The extent with its cursors moved on. -/
def Extent.shifted (distance : Nat) (e : Extent) : Extent :=
  ⟨distance + e.start, distance + e.stop, distance + e.reach⟩

/-- The index of a roster depends on its keys alone. -/
lemma Roster.extendIndex_map {β γ : Type} (f : β → γ) (index : List (Key × Nat)) (place : Nat)
    (items : List (Keyed β)) : extendIndex index place (items.map (·.map f)) = extendIndex index place items := by
  induction items generalizing index place with
  | nil => rfl
  | cons item items ih =>
    obtain ⟨key, value⟩ := item
    cases key with
    | none => exact ih index (place + 1)
    | some key => exact ih ((key, place) :: index) (place + 1)

namespace Record

mutual

/-- The record with all cursors in it moved on. -/
def shifted (distance : Nat) : Record → Record
  | span e => span (e.shifted distance)
  | pair e first second => pair (e.shifted distance) (first.shifted distance) (second.shifted distance)
  | choice e index key child => choice (e.shifted distance) index key (shiftedOption distance child)
  | all e ⟨entries, index⟩ => all (e.shifted distance) ⟨shiftedEntries distance entries, index⟩
  | series e items => series (e.shifted distance) (shiftedList distance items)

/-- A record that may be absent, with all cursors moved on. -/
def shiftedOption (distance : Nat) : Option Record → Option Record
  | none => none
  | some r => some (r.shifted distance)

/-- Records under their keys, with all cursors moved on. -/
def shiftedEntries (distance : Nat) : List (Keyed Record) → List (Keyed Record)
  | [] => []
  | ⟨key, r⟩ :: entries => ⟨key, r.shifted distance⟩ :: shiftedEntries distance entries

/-- Records with all cursors moved on. -/
def shiftedList (distance : Nat) : List Record → List Record
  | [] => []
  | r :: items => r.shifted distance :: shiftedList distance items

end

variable {distance : Nat}

@[simp] lemma shiftedOption_eq_map (child : Option Record) :
    shiftedOption distance child = child.map (shifted distance) := by
  cases child with
  | none => simp [shiftedOption]
  | some r => simp [shiftedOption]

@[simp] lemma shiftedEntries_eq_map (entries : List (Keyed Record)) :
    shiftedEntries distance entries = entries.map (·.map (shifted distance)) := by
  induction entries with
  | nil => simp [shiftedEntries]
  | cons entry entries ih => simp [shiftedEntries, Keyed.map, ih]

@[simp] lemma shiftedList_eq_map (items : List Record) :
    shiftedList distance items = items.map (shifted distance) := by
  induction items with
  | nil => simp [shiftedList]
  | cons r items ih => simp [shiftedList, ih]

@[simp] lemma extent_shifted (r : Record) : (r.shifted distance).extent = r.extent.shifted distance := by
  cases r <;> simp [shifted, extent]

@[simp] lemma stop_shifted (r : Record) : (r.shifted distance).stop = distance + r.stop := by
  simp [stop, Extent.shifted]

@[simp] lemma reach_shifted (r : Record) : (r.shifted distance).reach = distance + r.reach := by
  simp [reach, Extent.shifted]

lemma shifted_all_ofList (e : Extent) (items : List (Keyed Record)) :
    (all e (.ofList items)).shifted distance =
      all (e.shifted distance) (.ofList (items.map (·.map (shifted distance)))) := by
  simp [Roster.ofList, shifted, Roster.extendIndex_map]

/-! ### Walks -/

lemma children_shifted (r : Record) :
    (r.shifted distance).children = r.children.map (·.map (shifted distance)) := by
  cases r with
  | span e => simp [shifted, children]
  | pair e first second => simp [shifted, children, Keyed.plain, Keyed.map]
  | choice e index key child => simp [shifted, children, Option.toList_map, Keyed.map, Function.comp_def]
  | all e roster => simp [shifted, children]
  | series e items => simp [shifted, children, Keyed.plain, Keyed.map, Function.comp_def]

lemma visitsFrom_shifted (r : Record) (depth : Nat) (key : Option Key) :
    (r.shifted distance).visitsFrom depth key =
      (r.visitsFrom depth key).map fun v => ⟨v.depth, v.key, v.record.shifted distance⟩ := by
  induction r using Record.inductionOn generalizing depth key with
  | step r ih =>
    rw [visitsFrom_eq, visitsFrom_eq, children_shifted, List.map_cons, List.map_flatMap, List.flatMap_map]
    congr 1
    apply List.flatMap_congr
    intro c hc
    exact ih c hc (depth + 1) c.key

/-- A walk through the shifted record meets the shifted records, at the same depths and under the same keys. -/
lemma visits_shifted (r : Record) : (r.shifted distance).visits =
    r.visits.map fun v => ⟨v.depth, v.key, v.record.shifted distance⟩ :=
  visitsFrom_shifted r 0 none

end Record

/-! ### Stretches of a window -/

/-- A stretch that keeps within a window, or is empty, has the same characters in the whole. -/
lemma slice_window {α : Type} (input : Array α) {low high start stop : Nat} (h : low + stop ≤ high ∨ stop ≤ start) :
    slice (input.extract low high) start stop = slice input (low + start) (low + stop) := by
  rw [slice, slice, Array.extract_extract]
  rcases h with hin | hempty
  · rw [Nat.min_eq_left hin]
  · rw [Array.extract_eq_empty_of_le (by omega), Array.extract_eq_empty_of_le (by omega)]

end PegTrace
