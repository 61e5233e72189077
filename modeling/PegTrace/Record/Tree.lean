import PegTrace.Record.Walk

/-!
# Records as text

A record is shown as an indented tree, one line for each record in it. A line names the key under which the record
is kept, its kind, the stretch it committed and, when it came farther than that, how far.
-/

namespace PegTrace

namespace Record

/-- The name of a record's kind with the number of the winning alternative, the keys of the items or the number of
repetitions. -/
def label : Record → String
  | span _ => "span"
  | pair _ _ _ => "pair"
  | choice _ (some index) _ _ => "choice#" ++ toString index
  | choice _ none _ _ => "choice"
  | all _ roster =>
    let keys := ",".intercalate roster.keys
    if keys.isEmpty then "all" else "all\x7b" ++ keys ++ "\x7d"
  | series _ items => "repeat×" ++ toString items.length

end Record

/-- The line of a visited record. -/
def Visit.line (v : Visit) : String :=
  let e := v.record.extent
  let indent := String.ofList (List.replicate (2 * v.depth) ' ')
  let key := match v.key with
    | none => ""
    | some key => "[" ++ key ++ "] "
  let reach := if e.reach = e.stop then "" else " (reach " ++ toString e.reach ++ ")"
  indent ++ key ++ v.record.label ++ " " ++ toString e.start ++ ".." ++ toString e.stop ++ reach ++ "\n"

/-- The record as an indented tree. -/
def Record.tree (r : Record) : String :=
  String.join (r.visits.map Visit.line)

end PegTrace
