import PegTrace.Record.Basic

/-!
# Walking a record

A walk visits a record and everything in it, parents before their parts and parts in order. What a walk shows of
each record it visits is a flat list from which the tree can be told.
-/

namespace PegTrace

/-- A record met on a walk. -/
structure Visit where
  /-- The number of records around it. -/
  depth : Nat
  /-- The key under which its parent keeps it. -/
  key : Option Key
  /-- The record itself. -/
  record : Record

/-- The kinds of records. -/
inductive Kind where
  | span
  | pair
  | choice (index : Option Nat) (key : Option Key)
  | all
  | series
deriving DecidableEq, Repr

/-- What a walk shows of a record that it visits. -/
structure Node where
  /-- The number of records around it. -/
  depth : Nat
  /-- The key under which its parent keeps it. -/
  key : Option Key
  /-- Its kind, and of a choice the number and key of the alternative that won. -/
  kind : Kind
  /-- Its cursors. -/
  extent : Extent
deriving DecidableEq, Repr

namespace Record

/-- The kind of a record. -/
def kind : Record → Kind
  | span _ => .span
  | pair _ _ _ => .pair
  | choice _ index key _ => .choice index key
  | all _ _ => .all
  | series _ _ => .series

/-- The sizes of some records together. -/
noncomputable def totalSize : List Record → Nat
  | [] => 0
  | r :: records => sizeOf r + totalSize records

theorem totalSize_append (first second : List Record) :
    totalSize (first ++ second) = totalSize first + totalSize second := by
  induction first with
  | nil => simp [totalSize]
  | cons r first ih => simp only [List.cons_append, totalSize, ih, Nat.add_assoc]

/-- The records under some keys together are no larger than their list. -/
theorem totalSize_values_le (entries : List (Keyed Record)) :
    totalSize (entries.map Keyed.value) ≤ sizeOf entries := by
  induction entries with
  | nil => exact Nat.zero_le _
  | cons entry entries ih =>
    obtain ⟨key, value⟩ := entry
    simp only [List.map_cons, totalSize, List.cons.sizeOf_spec, Keyed.mk.sizeOf_spec]
    omega

/-- Some records together are no larger than their list. -/
theorem totalSize_le (items : List Record) : totalSize items ≤ sizeOf items := by
  induction items with
  | nil => exact Nat.zero_le _
  | cons item items ih =>
    simp only [totalSize, List.cons.sizeOf_spec]
    omega

/-- The parts of a record together are smaller than the record. -/
theorem totalSize_children_lt (r : Record) : totalSize (r.children.map Keyed.value) < sizeOf r := by
  cases r with
  | span e =>
    simp only [children, List.map_nil, totalSize, span.sizeOf_spec]
    omega
  | pair e first second =>
    simp only [children, Keyed.plain, List.map_cons, List.map_nil, totalSize, pair.sizeOf_spec]
    omega
  | choice e index key child =>
    cases child with
    | none =>
      simp only [children, Option.toList_none, List.map_nil, totalSize, choice.sizeOf_spec]
      omega
    | some r =>
      simp only [children, Option.toList_some, List.map_cons, List.map_nil, totalSize, choice.sizeOf_spec,
        Option.some.sizeOf_spec]
      omega
  | all e roster =>
    obtain ⟨entries, index⟩ := roster
    have := totalSize_values_le entries
    simp only [children, all.sizeOf_spec, Roster.mk.sizeOf_spec]
    omega
  | series e items =>
    have := totalSize_le items
    simp only [children, List.map_map, Function.comp_def, Keyed.plain, List.map_id', series.sizeOf_spec]
    omega

end Record

namespace Visit

/-- The visits to the parts of a visited record. -/
def below (v : Visit) : List Visit :=
  v.record.children.map fun c => ⟨v.depth + 1, c.key, c.value⟩

/-- Going into a record leaves less before the walk. -/
theorem totalSize_below_append_lt (v : Visit) (pending : List Visit) :
    Record.totalSize ((v.below ++ pending).map Visit.record) < Record.totalSize ((v :: pending).map Visit.record) := by
  have hlt := v.record.totalSize_children_lt
  have hbelow : v.below.map Visit.record = v.record.children.map Keyed.value := by simp [below]
  rw [List.map_append, hbelow, Record.totalSize_append, List.map_cons, Record.totalSize]
  omega

/-- Goes on with a walk that has seen some records, the last one first, and has others before it: each of them is
followed by its parts. -/
def explore (seen pending : List Visit) : List Visit :=
  match pending with
  | [] => seen.reverse
  | v :: pending => explore (v :: seen) (v.below ++ pending)
termination_by Record.totalSize (pending.map Visit.record)
decreasing_by exact v.totalSize_below_append_lt pending

/-- What has been seen stands in front. -/
theorem explore_eq_append (seen pending : List Visit) :
    explore seen pending = seen.reverse ++ explore [] pending := by
  match pending with
  | [] => simp [explore]
  | v :: pending =>
    rw [explore, explore, explore_eq_append (v :: seen), explore_eq_append [v]]
    simp
termination_by Record.totalSize (pending.map Visit.record)
decreasing_by all_goals exact v.totalSize_below_append_lt pending

/-- What comes later does not disturb what comes before. -/
theorem explore_append (seen first second : List Visit) :
    explore seen (first ++ second) = explore seen first ++ explore [] second := by
  match first with
  | [] => rw [List.nil_append, explore_eq_append, explore]
  | v :: first =>
    rw [List.cons_append, explore, explore, ← List.append_assoc, explore_append]
termination_by Record.totalSize (first.map Visit.record)
decreasing_by exact v.totalSize_below_append_lt first

/-- Records that stand side by side are walked through one after the other. -/
theorem explore_eq_flatMap (pending : List Visit) :
    explore [] pending = pending.flatMap fun v => explore [] [v] := by
  induction pending with
  | nil => simp [explore]
  | cons v pending ih =>
    rw [← List.singleton_append, explore_append, ih]
    simp

/-- A record is followed by what is below it. -/
theorem explore_singleton (v : Visit) :
    explore [] [v] = v :: v.below.flatMap fun w => explore [] [w] := by
  rw [explore, explore_eq_append, List.append_nil, explore_eq_flatMap]
  simp

end Visit

namespace Record

/-- The visits of a walk that enters the record at the given depth and key. -/
def visitsFrom (depth : Nat) (key : Option Key) (r : Record) : List Visit :=
  Visit.explore [] [⟨depth, key, r⟩]

/-- A walk visits the record and then walks through its parts. -/
theorem visitsFrom_eq (depth : Nat) (key : Option Key) (r : Record) :
    r.visitsFrom depth key =
      ⟨depth, key, r⟩ :: r.children.flatMap fun c => c.value.visitsFrom (depth + 1) c.key := by
  rw [visitsFrom, Visit.explore_singleton, Visit.below, List.flatMap_map]
  rfl

/-- The records met on a walk, in order. -/
def visits (r : Record) : List Visit :=
  r.visitsFrom 0 none

end Record

/-- What is shown of a visited record. -/
def Visit.node (v : Visit) : Node :=
  ⟨v.depth, v.key, v.record.kind, v.record.extent⟩

namespace Record

/-- The flat list that a walk shows. -/
def walk (r : Record) : List Node :=
  r.visits.map Visit.node

/-- The number of records in the tree. -/
def nodeCount (r : Record) : Nat :=
  r.visits.length

/-- The depth of the deepest record in the tree. -/
def height (r : Record) : Nat :=
  r.visits.foldl (fun deepest v => max deepest v.depth) 0

end Record

end PegTrace
