import PegTrace.Record.Basic

/-!
# The stretch of a record

An input is an array of characters of any alphabet, and a record is about a stretch of it. What lies beyond the end of
the input is left out.
-/

namespace PegTrace

variable {α : Type}

/-- The characters from `start` up to `stop`, as far as there are any. -/
def slice (input : Array α) (start stop : Nat) : List α :=
  (input.extract start stop).toList

/-- Two stretches that meet make up one. -/
theorem slice_append (input : Array α) {start middle stop : Nat} (hstart : start ≤ middle) (hstop : middle ≤ stop) :
    slice input start middle ++ slice input middle stop = slice input start stop := by
  rw [slice, slice, slice, ← Array.toList_append, Array.extract_append_extract, Nat.min_eq_left hstart,
    Nat.max_eq_right hstop]

/-- A stretch without its first characters starts that much later. -/
theorem drop_slice (input : Array α) (start stop n : Nat) :
    (slice input start stop).drop n = slice input (start + n) stop := by
  rw [slice, slice, Array.toList_extract, Array.toList_extract, List.extract_eq_take_drop, List.extract_eq_take_drop,
    List.drop_take, List.drop_drop, Nat.sub_sub]

/-- What follows the first character of a stretch. -/
theorem slice_succ_of_eq_cons {input : Array α} {start stop : Nat} {c : α} {rest : List α}
    (h : slice input start stop = c :: rest) : slice input (start + 1) stop = rest := by
  rw [← drop_slice, h, List.drop_one, List.tail_cons]

/-- A stretch has as many characters as there are from its start to its stop or to the end of the input. -/
theorem length_slice (input : Array α) (start stop : Nat) :
    (slice input start stop).length = min stop input.size - start := by
  rw [slice, Array.length_toList, Array.size_extract]

/-- The characters that a record committed. -/
def Record.symbols (r : Record) (input : Array α) : List α :=
  slice input r.start r.stop

/-- The text that a record committed. -/
def Record.text (r : Record) (input : Array Char) : String :=
  String.ofList (r.symbols input)

end PegTrace
