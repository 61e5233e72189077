import PegTrace.Record.Roster

/-!
# Match records

Every attempt to match leaves a record, whether it succeeds or fails. A record says which stretch of the input it
is about and how it came about: a bare span, the two halves of a conditional pair, the alternative that a choice
settled on, the items that were attempted in order, or the accepted repetitions.
-/

namespace PegTrace

/-! ### Extents -/

/-- The three cursors of a record. -/
structure Extent where
  /-- Where the attempt started. -/
  start : Nat
  /-- How far it was committed: the end of a match, or where a failed sequence gave up. -/
  stop : Nat
  /-- The farthest place that any part of the attempt came to, in vain or not. -/
  reach : Nat
deriving DecidableEq, Repr

namespace Extent

/-- The extent of an attempt that committed nothing at `place`. -/
def empty (place : Nat) : Extent :=
  ⟨place, place, place⟩

/-- The extent of an attempt whose parts came as far as `reach`, which is never short of its own end. -/
def covering (start stop reach : Nat) : Extent :=
  ⟨start, stop, max reach stop⟩

/-- The number of committed characters. -/
def length (e : Extent) : Nat :=
  e.stop - e.start

/-- Whether no character was committed. -/
def isEmpty (e : Extent) : Bool :=
  e.stop ≤ e.start

end Extent

/-! ### Records -/

/-- The record of an attempt. -/
inductive Record where
  /-- A stretch without parts. -/
  | span (extent : Extent)
  /-- Both halves of a conditional pair. -/
  | pair (extent : Extent) (first second : Record)
  /-- The alternative that won, with its number and key, or the last one tried in vain. -/
  | choice (extent : Extent) (index : Option Nat) (key : Option Key) (child : Option Record)
  /-- The items attempted, in order and by key. -/
  | all (extent : Extent) (roster : Roster Record)
  /-- The accepted repetitions. -/
  | series (extent : Extent) (items : List Record)

namespace Record

/-- The cursors of a record. -/
def extent : Record → Extent
  | span e => e
  | pair e _ _ => e
  | choice e _ _ _ => e
  | all e _ => e
  | series e _ => e

/-- Where the attempt started. -/
def start (r : Record) : Nat :=
  r.extent.start

/-- How far the attempt was committed. -/
def stop (r : Record) : Nat :=
  r.extent.stop

/-- The farthest place that the attempt came to. -/
def reach (r : Record) : Nat :=
  r.extent.reach

/-- The same record with other cursors. -/
def withExtent (r : Record) (e : Extent) : Record :=
  match r with
  | span _ => span e
  | pair _ first second => pair e first second
  | choice _ index key child => choice e index key child
  | all _ roster => all e roster
  | series _ items => series e items

/-- The record of an attempt that committed nothing at `place`. -/
def empty (place : Nat) : Record :=
  span (.empty place)

/-- The immediate parts, in order, under the keys that they are kept by. -/
def children : Record → List (Keyed Record)
  | span _ => []
  | pair _ first second => [.plain first, .plain second]
  | choice _ _ key child => child.toList.map fun r => ⟨key, r⟩
  | all _ roster => roster.entries
  | series _ items => items.map .plain

/-- The part that a roster keeps under the key; other records keep none. -/
def get? : Record → Key → Option Record
  | all _ roster, key => roster.get? key
  | _, _ => none

/-- The farthest of a place and the reaches of some records. -/
def farthest (place : Nat) (records : List Record) : Nat :=
  records.foldl (fun reach r => max reach r.reach) place

/-! ### Recursion into the parts -/

/-- A part is smaller than the whole. -/
theorem sizeOf_lt_of_mem_children {r : Record} {c : Keyed Record} (h : c ∈ r.children) :
    sizeOf c.value < sizeOf r := by
  cases r with
  | span e => simp [children] at h
  | pair e first second =>
    simp only [children, List.mem_cons, List.not_mem_nil, or_false] at h
    rw [pair.sizeOf_spec]
    rcases h with rfl | rfl
    · change sizeOf first < _
      omega
    · change sizeOf second < _
      omega
  | choice e index key child =>
    cases child <;> simp [children] at h
    subst h
    simp
    omega
  | all e roster =>
    obtain ⟨entries, index⟩ := roster
    obtain ⟨key, value⟩ := c
    have := List.sizeOf_lt_of_mem (show _ ∈ entries from h)
    simp at this ⊢
    omega
  | series e items =>
    obtain ⟨r, hr, rfl⟩ := List.mem_map.1 h
    have := List.sizeOf_lt_of_mem hr
    simp [Keyed.plain]
    omega

/-- To prove something of every record, prove it of a record from its parts. -/
@[elab_as_elim]
theorem inductionOn {motive : Record → Prop} (r : Record)
    (step : ∀ r : Record, (∀ c ∈ r.children, motive c.value) → motive r) : motive r :=
  step r fun c _ => inductionOn c.value step
termination_by sizeOf r
decreasing_by exact sizeOf_lt_of_mem_children ‹_›

/-! ### Deciding equality -/

mutual

/-- Records are compared part by part. -/
def decEq : (a b : Record) → Decidable (a = b)
  | span e, b =>
    match b with
    | span f => if h : e = f then isTrue (by rw [h]) else isFalse (by grind)
    | pair .. | choice .. | all .. | series .. => isFalse (by grind)
  | pair e a₁ a₂, b =>
    match b with
    | pair f b₁ b₂ =>
      match decEq a₁ b₁, decEq a₂ b₂ with
      | isTrue _, isTrue _ => if h : e = f then isTrue (by grind) else isFalse (by grind)
      | isFalse _, _ => isFalse (by grind)
      | _, isFalse _ => isFalse (by grind)
    | span .. | choice .. | all .. | series .. => isFalse (by grind)
  | choice e i k c, b =>
    match b with
    | choice f j l d =>
      match decEqOption c d with
      | isTrue _ => if h : e = f ∧ i = j ∧ k = l then isTrue (by grind) else isFalse (by grind)
      | isFalse _ => isFalse (by grind)
    | span .. | pair .. | all .. | series .. => isFalse (by grind)
  | all e ⟨xs, i⟩, b =>
    match b with
    | all f ⟨ys, j⟩ =>
      match decEqEntries xs ys with
      | isTrue _ => if h : e = f ∧ i = j then isTrue (by grind) else isFalse (by grind)
      | isFalse _ => isFalse (by grind)
    | span .. | pair .. | choice .. | series .. => isFalse (by grind)
  | series e xs, b =>
    match b with
    | series f ys =>
      match decEqList xs ys with
      | isTrue _ => if h : e = f then isTrue (by grind) else isFalse (by grind)
      | isFalse _ => isFalse (by grind)
    | span .. | pair .. | choice .. | all .. => isFalse (by grind)
termination_by structural a => a

/-- Two records that may be absent are compared. -/
def decEqOption : (a b : Option Record) → Decidable (a = b)
  | none, none => isTrue rfl
  | none, some _ => isFalse (by grind)
  | some _, none => isFalse (by grind)
  | some a, some b =>
    match decEq a b with
    | isTrue _ => isTrue (by grind)
    | isFalse _ => isFalse (by grind)

/-- Lists of records are compared from the front. -/
def decEqList : (xs ys : List Record) → Decidable (xs = ys)
  | [], [] => isTrue rfl
  | [], _ :: _ => isFalse (by grind)
  | _ :: _, [] => isFalse (by grind)
  | a :: xs, b :: ys =>
    match decEq a b, decEqList xs ys with
    | isTrue _, isTrue _ => isTrue (by grind)
    | isFalse _, _ => isFalse (by grind)
    | _, isFalse _ => isFalse (by grind)

/-- Keyed records are compared with their keys. -/
def decEqEntries : (xs ys : List (Keyed Record)) → Decidable (xs = ys)
  | [], [] => isTrue rfl
  | [], _ :: _ => isFalse (by grind)
  | _ :: _, [] => isFalse (by grind)
  | ⟨k, a⟩ :: xs, ⟨l, b⟩ :: ys =>
    match decEq a b, decEqEntries xs ys with
    | isTrue _, isTrue _ => if h : k = l then isTrue (by grind) else isFalse (by grind)
    | isFalse _, _ => isFalse (by grind)
    | _, isFalse _ => isFalse (by grind)

end

instance : DecidableEq Record :=
  decEq

end Record

end PegTrace
