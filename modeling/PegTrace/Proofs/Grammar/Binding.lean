import PegTrace.Log
import PegTrace.Proofs.Matching.Replay

/-!
# Bound once and for all

Holes are declared, bound and matched in any order. A hole takes the first body that it is given, and keeps it; bodies
that come later are refused, and leave no mark on what follows. A match may come out differently once a hole is bound,
but only if it met the hole without a body, which is logged: a match that logs nothing is never changed by what is bound
after it (`Grammar.binding_lasts`).

A grammar only ever grows by an action (`Grammar.Extends`), and what is bound is told from the actions alone.
-/

namespace PegTrace

/-! ### Actions -/

/-- Something that is done with a grammar. -/
inductive Action (α : Type) where
  /-- A hole is declared. -/
  | declare
  /-- A body is given to a hole. -/
  | bind (id : Nat) (body : Pattern α)
  /-- A pattern is matched. -/
  | attempt (input : Array α) (p : Pattern α) (start bound : Nat)

/-- What comes of an action. -/
inductive Reply where
  /-- The number of the new hole. -/
  | declared (id : Nat)
  /-- Why the body was refused, if it was. -/
  | bound (error : Option BindError)
  /-- The attempt, if there was an answer. -/
  | attempted (result : Option Attempt)
deriving DecidableEq

namespace Grammar

variable {α : Type}

/-- The grammar after an action. A body that is refused leaves it as it was. -/
def next (g : Grammar α) : Action α → Grammar α
  | .declare => g.declare.1
  | .bind id body =>
    match g.bind id body with
    | .ok g' => g'
    | .error _ => g
  | .attempt _ _ _ _ => g

/-- The grammar after some actions. -/
def after (g : Grammar α) (actions : List (Action α)) : Grammar α :=
  actions.foldl next g

@[simp] lemma after_cons (g : Grammar α) (action : Action α) (actions : List (Action α)) :
    g.after (action :: actions) = (g.next action).after actions := rfl

@[simp] lemma after_append (g : Grammar α) (earlier later : List (Action α)) :
    g.after (earlier ++ later) = (g.after earlier).after later :=
  List.foldl_append

/-! ### Holes -/

lemma body?_declare (g : Grammar α) (id : Nat) : g.declare.1.body? id = g.body? id := by
  simp only [body?, declare, Array.getElem?_push]
  split
  · rename_i h
    simp [h]
  · rfl

lemma bind_of_unbound {g : Grammar α} {id : Nat} (h : g.body? id = none) (body : Pattern α) :
    g.bind id body = .ok ⟨g.bodies.setIfInBounds id (some body)⟩ := by
  simp [bind, isBound, h]

lemma bind_of_bound {g : Grammar α} {id : Nat} {body : Pattern α} (h : g.body? id = some body) (body' : Pattern α) :
    g.bind id body' = .error .alreadyBound := by
  simp [bind, isBound, h]

lemma body?_bind_self {g : Grammar α} {id : Nat} (hid : id < g.bodies.size) (body : Pattern α) :
    (⟨g.bodies.setIfInBounds id (some body)⟩ : Grammar α).body? id = some body := by
  simp [body?, hid]

lemma body?_bind_of_ne (g : Grammar α) {id other : Nat} (hne : id ≠ other) (body : Pattern α) :
    (⟨g.bodies.setIfInBounds id (some body)⟩ : Grammar α).body? other = g.body? other := by
  simp [body?, hne]

/-- What an action can do: declare a hole, give a body to a hole that has none, or nothing. -/
lemma next_cases (g : Grammar α) (action : Action α) :
    (action = .declare ∧ g.next action = g.declare.1) ∨
    (∃ id body, action = .bind id body ∧ g.body? id = none ∧
      g.next action = ⟨g.bodies.setIfInBounds id (some body)⟩) ∨
    g.next action = g := by
  cases action with
  | declare => exact .inl ⟨rfl, rfl⟩
  | bind id body =>
    cases h : g.body? id with
    | none => exact .inr (.inl ⟨id, body, rfl, h, by simp only [next, bind_of_unbound h]⟩)
    | some old => exact .inr (.inr (by simp only [next, bind_of_bound h]))
  | attempt input p start bound => exact .inr (.inr rfl)

/-! ### Growing grammars -/

/-- The second grammar has the holes of the first, and the bodies that were given to them. -/
structure Extends (g g' : Grammar α) : Prop where
  size_le : g.bodies.size ≤ g'.bodies.size
  body? : ∀ {id body}, g.body? id = some body → g'.body? id = some body

namespace Extends

variable {g g' g'' : Grammar α}

lemma refl (g : Grammar α) : g.Extends g := ⟨Nat.le_refl _, id⟩

lemma trans (h : g.Extends g') (h' : g'.Extends g'') : g.Extends g'' :=
  ⟨Nat.le_trans h.size_le h'.size_le, fun hbody => h'.body? (h.body? hbody)⟩

lemma budget_le (h : g.Extends g') (input : Array α) : g.budget input ≤ g'.budget input := by
  have hsize := Nat.mul_le_mul_left (input.size + 2) (Nat.succ_le_succ h.size_le)
  exact Nat.add_le_add_right hsize spareSteps

end Extends

lemma extends_next (g : Grammar α) (action : Action α) : g.Extends (g.next action) := by
  obtain ⟨-, hnext⟩ | ⟨id, body, -, hunbound, hnext⟩ | hnext := g.next_cases action
  · rw [hnext]
    exact ⟨by simp [declare], fun hbody => by rwa [body?_declare]⟩
  · rw [hnext]
    refine ⟨by simp, fun {other old} hbody => ?_⟩
    have hne : id ≠ other := by
      rintro rfl
      rw [hunbound] at hbody
      cases hbody
    rwa [body?_bind_of_ne g hne]
  · rw [hnext]
    exact .refl g

lemma extends_after (g : Grammar α) (actions : List (Action α)) : g.Extends (g.after actions) := by
  induction actions generalizing g with
  | nil => exact .refl g
  | cons action actions ih => exact (g.extends_next action).trans (ih (g.next action))

/-- A hole that no action gives a body to stays as it is. -/
lemma body?_next_of_ne {g : Grammar α} {id : Nat} {action : Action α} (h : ∀ body, .bind id body ≠ action) :
    (g.next action).body? id = g.body? id := by
  obtain ⟨-, hnext⟩ | ⟨other, body, rfl, -, hnext⟩ | hnext := g.next_cases action
  · rw [hnext, body?_declare]
  · have hne : other ≠ id := by
      rintro rfl
      exact h body rfl
    rw [hnext, body?_bind_of_ne g hne]
  · rw [hnext]

lemma body?_after_of_not_mem {g : Grammar α} {id : Nat} {actions : List (Action α)}
    (h : ∀ body, .bind id body ∉ actions) : (g.after actions).body? id = g.body? id := by
  induction actions generalizing g with
  | nil => rfl
  | cons action actions ih =>
    rw [after_cons, ih fun body hmem => h body (List.mem_cons_of_mem _ hmem)]
    exact body?_next_of_ne fun body heq => h body (heq ▸ List.mem_cons_self)

/-! ### Matches that log nothing -/

variable [DecidableEq α] [LE α] [DecidableLE α]

/-- Bounds are the same, and the attempt met no hole without a body. -/
def Undisturbed (bound bound' : Nat) (a : Attempt) : Prop :=
  bound = bound' ∧ a.log = []

lemma log_eq_nil_of_mem {start : Nat} {parts : List Attempt} {a b : Attempt} (ha : a.Assembled start parts)
    (hlog : a.log = []) (hb : b ∈ parts) : b.log = [] := by
  simp only [Attempt.log, List.filterMap_eq_nil_iff] at hlog ⊢
  intro e he
  exact hlog e ((ha.mem_events e).2 ⟨b, hb, he⟩)

lemma licence_undisturbed (input : Array α) :
    Licence input input (fun _ => True) (fun _ _ _ => True) Undisturbed where
  heritable := (licence_of_bound_eq input).heritable
  literal test := by
    rintro start bound _ a h ⟨rfl, -⟩
    exact h
  part _ ha h hb := ⟨h.1, log_eq_nil_of_mem ha h.2 hb⟩
  inner _ ha h hb _ := ⟨rfl, log_eq_nil_of_mem ha h.2 hb⟩
  collapse _ h := h
  custom _ h := h

/-- A run that logs nothing is not changed by growing the grammar, nor by more steps. -/
lemma Extends.run_eq_some {g g' : Grammar α} (h : g.Extends g') {input : Array α} {p : Pattern α}
    {steps steps' start bound : Nat} {a : Attempt} (hsteps : steps ≤ steps')
    (ha : g.run input steps p start bound = some a) (hlog : a.log = []) :
    g'.run input steps' p start bound = some a := by
  have hall : ∀ q : Pattern α, q.AllEdits fun _ => True := Pattern.allEdits_of_forall fun _ => trivial
  have hL := licence_undisturbed input
  refine hL.matcher_replays hsteps (fun _ _ _ _ _ => trivial) (fun id => ?_) (hall p) ha ⟨rfl, hlog⟩
  refine hL.holes_replay (fun _ body _ => hall body) h.body? (fun _ steps => ?_) hsteps id
  -- a hole without a body would have been logged
  intro start bound bound' b hb hquiet
  cases hb
  cases hquiet.2

/-! ### Replies -/

/-- What comes of an action. -/
def reply (g : Grammar α) : Action α → Reply
  | .declare => .declared g.declare.2
  | .bind id body =>
    match g.bind id body with
    | .ok _ => .bound none
    | .error e => .bound (some e)
  | .attempt input p start bound => .attempted (g.matcher input p start bound)

/-- What comes of some actions, one after the other. -/
def replies : Grammar α → List (Action α) → List Reply
  | _, [] => []
  | g, action :: actions => g.reply action :: (g.next action).replies actions

/-- The hole that an action declares is there after it. -/
lemma lt_size_of_reply {g : Grammar α} {action : Action α} {id : Nat} (h : g.reply action = .declared id) :
    id < (g.next action).bodies.size := by
  cases action with
  | declare =>
    cases h
    simp [next, declare]
  | bind other body =>
    simp only [reply] at h
    split at h <;> cases h
  | attempt input p start bound => cases h

lemma lt_size_of_mem_replies {g : Grammar α} {actions : List (Action α)} {id : Nat}
    (h : .declared id ∈ g.replies actions) : id < (g.after actions).bodies.size := by
  induction actions generalizing g with
  | nil => cases h
  | cons action actions ih =>
    rcases List.mem_cons.1 h with hreply | hlater
    · have hlt := lt_size_of_reply hreply.symm
      exact Nat.lt_of_lt_of_le hlt ((g.next action).extends_after actions).size_le
    · exact ih hlater

/-- A hole that has a body refuses another, and nothing that follows tells of it. -/
lemma replies_bind_of_bound {g : Grammar α} {id : Nat} {body : Pattern α} (h : g.body? id = some body)
    (body' : Pattern α) (actions : List (Action α)) :
    g.replies (.bind id body' :: actions) = .bound (some .alreadyBound) :: g.replies actions := by
  simp only [replies, reply, next, bind_of_bound h]

/-- In whatever order holes are declared, bound and matched: the first body that a declared hole is given is accepted,
and stays its body; every other body is refused later on, and changes no reply that follows; and a match that met no
hole without a body gives the same attempt whenever it is made again. -/
theorem binding_lasts (earlier later : List (Action α)) :
    (∀ id body, .declared id ∈ replies {} earlier → (∀ body', .bind id body' ∉ earlier) →
      (after {} earlier).reply (.bind id body) = .bound none ∧
      (after {} (earlier ++ .bind id body :: later)).body? id = some body ∧
      ∀ body' rest, (after {} (earlier ++ .bind id body :: later)).replies (.bind id body' :: rest) =
        .bound (some .alreadyBound) :: (after {} (earlier ++ .bind id body :: later)).replies rest) ∧
    ∀ input p start bound a,
      (after {} earlier).reply (.attempt input p start bound) = .attempted (some a) → a.log = [] →
      (after {} (earlier ++ later)).reply (.attempt input p start bound) = .attempted (some a) := by
  refine ⟨fun id body hdeclared hnew => ?_, fun input p start bound a ha hlog => ?_⟩
  · have hunbound : (after {} earlier).body? id = none := body?_after_of_not_mem hnew
    have hbind := bind_of_unbound hunbound body
    -- the identifier was declared, so there is a place for its body
    have hbody : ((after {} earlier).next (.bind id body)).body? id = some body := by
      simp only [next, hbind]
      exact body?_bind_self (lt_size_of_mem_replies hdeclared) body
    have hlater : (after {} (earlier ++ .bind id body :: later)).body? id = some body := by
      rw [after_append, after_cons]
      exact (extends_after _ later).body? hbody
    exact ⟨by simp only [reply, hbind], hlater, replies_bind_of_bound hlater⟩
  · simp only [reply, Reply.attempted.injEq] at ha ⊢
    rw [after_append]
    -- later actions bind open holes only, and a match with an empty log met none
    have hextends := (after {} earlier).extends_after later
    exact hextends.run_eq_some (hextends.budget_le input) ha hlog

/-- Two holes, of which the first is bound to a letter or the second. -/
def letterOrHole : List (Action Char) :=
  [.declare, .declare, .bind 0 (.choice [.plain (.one 'a'), .plain (.hole 1)])]

/-- The letter is found before the hole that has no body yet is met. Where it is not found the hole is met, and logged,
and the match comes out differently as soon as the hole is bound. -/
theorem letterOrHole_binding_lasts :
    .declared 1 ∈ replies {} letterOrHole ∧ (∀ body, .bind 1 body ∉ letterOrHole) ∧
    (after {} (letterOrHole ++ [.bind 1 (.one 'b'), .bind 0 .empty])).body? 1 = some (.one 'b') ∧
    ∃ a, (after {} letterOrHole).reply (.attempt #['a', 'b'] (.hole 0) 0 2) = .attempted (some a) ∧ a.log = [] ∧
      (after {} (letterOrHole ++ [.bind 1 (.one 'b')])).reply (.attempt #['a', 'b'] (.hole 0) 0 2) =
        .attempted (some a) ∧
      (after {} letterOrHole).reply (.attempt #['a', 'b'] (.hole 0) 1 2) ≠
        (after {} (letterOrHole ++ [.bind 1 (.one 'b')])).reply (.attempt #['a', 'b'] (.hole 0) 1 2) := by
  have hdeclared : .declared 1 ∈ replies {} letterOrHole := by decide
  have hnew : ∀ body, .bind 1 body ∉ letterOrHole := by simp [letterOrHole]
  have hrun : ((after {} letterOrHole).matcher #['a', 'b'] (.hole 0) 0 2).any fun a => a.log = [] := by decide +kernel
  obtain ⟨a, ha, hlog⟩ := (Option.any_eq_true _ _).1 hrun
  have hreply : (after {} letterOrHole).reply (.attempt #['a', 'b'] (.hole 0) 0 2) = .attempted (some a) := by
    rw [reply, ha]
  have hquiet : a.log = [] := by simpa using hlog
  exact ⟨hdeclared, hnew, ((binding_lasts letterOrHole [.bind 0 .empty]).1 1 _ hdeclared hnew).2.1, a, hreply, hquiet,
    (binding_lasts letterOrHole _).2 _ _ _ _ a hreply hquiet, by decide +kernel⟩

end Grammar

end PegTrace
