import PegTrace.Pattern.Matching

/-!
# Grammars

A grammar gives bodies to holes. A hole is declared first, used in patterns, and bound once; a hole that is not bound
matches nothing. Matching a pattern under a grammar may go round in circles, so it is done with a number of nested
steps: `run` gives no answer when they are used up, and `matcher` allows enough of them for every pattern of which no
hole can come back to itself without moving on.
-/

namespace PegTrace

/-- Bodies for holes. -/
structure Grammar (α : Type) where
  /-- The body of each declared hole, if it is bound. -/
  bodies : Array (Option (Pattern α)) := #[]

/-- Why a hole could not be bound. -/
inductive BindError where
  /-- The hole already has a body. -/
  | alreadyBound
deriving DecidableEq, Repr

/-- What is said of a hole that could not be bound. -/
def BindError.message : BindError → String
  | alreadyBound => "Placeholder is already bound"

namespace Grammar

variable {α : Type}

/-! ### Holes -/

/-- Declares a new hole, which is not bound yet, and gives its number. -/
def declare (g : Grammar α) : Grammar α × Nat :=
  (⟨g.bodies.push none⟩, g.bodies.size)

/-- The body of a hole. -/
def body? (g : Grammar α) (id : Nat) : Option (Pattern α) :=
  g.bodies[id]?.join

/-- Whether the hole has a body. -/
def isBound (g : Grammar α) (id : Nat) : Bool :=
  (g.body? id).isSome

/-- Gives a body to a declared hole that has none. -/
def bind (g : Grammar α) (id : Nat) (body : Pattern α) : Except BindError (Grammar α) :=
  if g.isBound id then .error .alreadyBound
  else .ok ⟨g.bodies.setIfInBounds id (some body)⟩

/-! ### Matching -/

variable [DecidableEq α] [LE α] [DecidableLE α]

/-- Matches what is in a hole, with the given number of nested steps: one is used up by each hole that is entered. -/
def holes (g : Grammar α) (input : Array α) : (steps id : Nat) → Matcher
  | 0, _, _, _ => none
  | steps + 1, id, start, bound =>
    match g.body? id with
    | some body => body.matcher input (g.holes input steps) steps start bound
    | none => Matcher.unbound start bound

/-- Matches a pattern on an input with the given number of nested steps. -/
def run (g : Grammar α) (input : Array α) (steps : Nat) (p : Pattern α) : Matcher :=
  p.matcher input (g.holes input steps) steps

/-- A hole that is bound matches what its body matches, with one step less. -/
theorem run_hole_of_body? (g : Grammar α) (input : Array α) (steps : Nat) {id : Nat} {body : Pattern α}
    (h : g.body? id = some body) : g.run input (steps + 1) (.hole id) = g.run input steps body := by
  funext start bound
  simp only [run, Pattern.matcher, holes, h]

/-- A hole that is not bound matches nothing. -/
theorem run_hole_of_unbound (g : Grammar α) (input : Array α) (steps : Nat) {id : Nat}
    (h : g.body? id = none) : g.run input (steps + 1) (.hole id) = Matcher.unbound := by
  funext start bound
  simp only [run, Pattern.matcher, holes, h]

/-- Steps beyond those that matching needs by itself, for edits that move cursors about. -/
def spareSteps : Nat :=
  1 <<< 40

/-- As many nested steps as matching a pattern can need: between two characters no hole is entered twice, and a
repetition goes round no more often than there are characters. -/
def budget (g : Grammar α) (input : Array α) : Nat :=
  (input.size + 2) * (g.bodies.size + 1) + spareSteps

/-- Matches a pattern on an input. -/
def matcher (g : Grammar α) (input : Array α) (p : Pattern α) : Matcher :=
  g.run input (g.budget input) p

end Grammar

end PegTrace
