import Mathlib.Data.List.Induction
import Mathlib.Logic.Function.Basic
import Mathlib.Tactic.Common
import PegTrace.Record.Roster

/-!
# Lookups by key

A roster can be kept in three containers that are added to side by side: the values, their keys, and an index that
says for each key where to look (`Columns`). Adding an item keeps the three in step (`Columns.InStep.push`), so that the
index never points to a place where nothing stands, and what is found under a key is the item that was added last under
it (`Columns.findsLast`). A roster answers just as its columns do (`Roster.columns_foldl_push`).
-/

namespace PegTrace

variable {β : Type}

/-! ### The last item of a key -/

/-- The value stands under the key, and no item after it has that key. -/
def LastUnder (key : Key) (items : List (Keyed β)) (value : β) : Prop :=
  ∃ before after, items = before ++ .named key value :: after ∧ ∀ item ∈ after, item.key ≠ some key

/-- What is found under a key is the last item of that key, and nothing is found if there is none. -/
structure FindsLast (lookup : Key → Option β) (items : List (Keyed β)) : Prop where
  eq_some_iff : ∀ key value, lookup key = some value ↔ LastUnder key items value
  eq_none_iff : ∀ key, lookup key = none ↔ ∀ item ∈ items, item.key ≠ some key

lemma not_lastUnder_nil (key : Key) (value : β) : ¬ LastUnder key [] value := by
  rintro ⟨before, after, h, -⟩
  exact List.append_ne_nil_of_right_ne_nil before (List.cons_ne_nil _ after) h.symm

/-- An item at the end is the last one of its key and leaves the others as they are. -/
lemma lastUnder_append_singleton_iff {key : Key} {items : List (Keyed β)} {item : Keyed β} {value : β} :
    LastUnder key (items ++ [item]) value ↔
      item = .named key value ∨ item.key ≠ some key ∧ LastUnder key items value := by
  constructor
  · rintro ⟨before, after, h, hafter⟩
    -- the item found is the new one, with nothing behind it, or it stands before the new one
    cases after using List.reverseRecOn with
    | nil => exact .inl (List.append_singleton_inj.1 h).2
    | append_singleton after final =>
      rw [← List.cons_append, ← List.append_assoc, List.append_singleton_inj] at h
      obtain ⟨rfl, rfl⟩ := h
      rw [List.forall_mem_append, List.forall_mem_singleton] at hafter
      exact .inr ⟨hafter.2, before, after, rfl, hafter.1⟩
  · rintro (rfl | ⟨hkey, before, after, rfl, hafter⟩)
    · exact ⟨items, [], rfl, List.forall_mem_nil _⟩
    · refine ⟨before, after ++ [item], by rw [List.append_assoc, List.cons_append], ?_⟩
      exact List.forall_mem_append.2 ⟨hafter, List.forall_mem_singleton.2 hkey⟩

lemma findsLast_nil : FindsLast (fun _ => none : Key → Option β) [] where
  eq_some_iff key value := iff_of_false nofun (not_lastUnder_nil key value)
  eq_none_iff _ := iff_of_true rfl (List.forall_mem_nil _)

/-- Whatever finds the last items goes on to do so if it finds one more item under its key. -/
lemma FindsLast.append_singleton {lookup lookup' : Key → Option β} {items : List (Keyed β)} {item : Keyed β}
    (h : FindsLast lookup items)
    (hlookup : ∀ key, lookup' key = if item.key = some key then some item.value else lookup key) :
    FindsLast lookup' (items ++ [item]) where
  eq_some_iff key value := by
    obtain ⟨_, last⟩ := item
    rw [hlookup, lastUnder_append_singleton_iff]
    split_ifs with hkey
    · obtain rfl : _ = some key := hkey
      simp [Keyed.named]
    · rw [h.eq_some_iff]
      refine ⟨fun hlast => .inr ⟨hkey, hlast⟩, ?_⟩
      rintro (heq | ⟨-, hlast⟩)
      · exact absurd (congrArg Keyed.key heq) hkey
      · exact hlast
  eq_none_iff key := by
    rw [hlookup, List.forall_mem_append, List.forall_mem_singleton]
    split_ifs with hkey
    · exact iff_of_false nofun fun hall => hall.2 hkey
    · rw [h.eq_none_iff]
      exact (and_iff_left hkey).symm

/-! ### Three containers -/

/-- Values in order, their keys in the same order, and the place of each key. -/
@[ext]
structure Columns (β : Type) where
  values : List β := []
  keys : List (Option Key) := []
  /-- Where the value of a key stands; a key has one place at most. -/
  index : Key → Option Nat := fun _ => none

namespace Columns

/-- Adds an item to each of the three. The place of a key that has one already is overwritten. -/
def push (c : Columns β) (item : Keyed β) : Columns β :=
  { values := c.values ++ [item.value]
    keys := c.keys ++ [item.key]
    index :=
      match item.key with
      | none => c.index
      | some key => Function.update c.index key (some c.values.length) }

/-- The value at the place that the index names for the key. -/
def get? (c : Columns β) (key : Key) : Option β := do
  let place ← c.index key
  c.values[place]?

/-- There are as many keys as values, and the place that the index names for a key is one of theirs and has that key. -/
structure InStep (c : Columns β) : Prop where
  length_eq : c.keys.length = c.values.length
  of_index : ∀ key place, c.index key = some place → place < c.values.length ∧ c.keys[place]? = some (some key)

variable {c : Columns β}

lemma inStep_empty : InStep ({} : Columns β) where
  length_eq := rfl
  of_index := nofun

lemma index_push (c : Columns β) (item : Keyed β) (key : Key) :
    (c.push item).index key = if item.key = some key then some c.values.length else c.index key := by
  obtain ⟨_ | key', value⟩ := item
  · rfl
  · simp [push, Function.update_apply, eq_comm]

/-- Adding an item keeps the containers in step. -/
lemma InStep.push (h : c.InStep) (item : Keyed β) : (c.push item).InStep where
  length_eq := by simp [Columns.push, h.length_eq]
  of_index key place hplace := by
    simp only [Columns.push, List.length_append, List.length_singleton]
    rw [index_push] at hplace
    split_ifs at hplace with hkey
    · cases hplace
      rw [← h.length_eq, hkey]
      exact ⟨Nat.lt_succ_self _, List.getElem?_concat_length⟩
    · obtain ⟨hlt, hkeys⟩ := h.of_index key place hplace
      refine ⟨Nat.lt_succ_of_lt hlt, ?_⟩
      rwa [List.getElem?_append_left (h.length_eq ▸ hlt)]

/-- An item that is added is found under its key, and hides nothing else. -/
lemma InStep.get?_push (h : c.InStep) (item : Keyed β) (key : Key) :
    (c.push item).get? key = if item.key = some key then some item.value else c.get? key := by
  rw [get?, index_push]
  split_ifs with hkey
  · exact List.getElem?_concat_length
  · cases hplace : c.index key with
    | none => simp [get?, hplace]
    | some place =>
      rw [get?, hplace]
      exact List.getElem?_append_left (h.of_index key place hplace).1

/-- However many items are added, the containers stay in step and the last item of each key is found. -/
lemma findsLast (items : List (Keyed β)) :
    (items.foldl push {}).InStep ∧ FindsLast (items.foldl push {}).get? items := by
  induction items using List.reverseRecOn with
  | nil => exact ⟨inStep_empty, findsLast_nil⟩
  | append_singleton items item ih =>
    rw [List.foldl_append]
    exact ⟨ih.1.push item, ih.2.append_singleton (ih.1.get?_push item)⟩

end Columns

/-! ### Rosters in columns -/

namespace Roster

/-- The containers of a roster. -/
def columns (r : Roster β) : Columns β where
  values := r.entries.map Keyed.value
  keys := r.entries.map Keyed.key
  index key := r.index.lookup key

lemma lookup_index_push (r : Roster β) (item : Keyed β) (key : Key) :
    (r.push item).index.lookup key = if item.key = some key then some r.entries.length else r.index.lookup key := by
  obtain ⟨_ | key', value⟩ := item
  · rfl
  · rw [push, List.lookup_cons]
    by_cases h : key = key'
    · simp [h]
    · simp [beq_false_of_ne h, Ne.symm h]

/-- Adding an item to a roster adds it to its containers. -/
lemma columns_push (r : Roster β) (item : Keyed β) : (r.push item).columns = r.columns.push item := by
  ext1
  · simp [columns, Columns.push]
  · simp [columns, Columns.push]
  · funext key
    have hlength : r.columns.values.length = r.entries.length := List.length_map Keyed.value
    rw [Columns.index_push, hlength]
    exact r.lookup_index_push item key

lemma columns_foldl_push (items : List (Keyed β)) :
    (items.foldl push empty).columns = items.foldl Columns.push {} :=
  (List.foldl_hom columns fun r item => (columns_push r item).symm).symm

/-- A roster finds what its containers do. -/
lemma get?_columns (r : Roster β) : r.columns.get? = r.get? := by
  funext key
  simp only [Columns.get?, columns, get?, List.getElem?_map, Option.bind_eq_bind]
  congr
  funext place
  exact Option.map_eq_bind

lemma findsLast_ofList (items : List (Keyed β)) : FindsLast (ofList items).get? items := by
  rw [ofList_eq_foldl_push, ← get?_columns, columns_foldl_push]
  exact (Columns.findsLast items).2

end Roster

end PegTrace
