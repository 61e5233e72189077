import PegTrace.Proofs.Shorthand.Writing
import PegTrace.Shorthand.Meaning

/-!
# What the reader of shorthand gives

Whatever the text, the alternatives that are read from it are in canonical form at every level (`Compound.Canonical`):
none of them is a single empty sequence, counts are in range and bounds in order, classes are known by name and have a
letter, and no literal holds its own quotation mark. Each step of the reader keeps what it holds in this form.

Patterns are made of canonical alternatives without fail, even if each class is looked up by its name: a text has no
pattern only if it cannot be read (`parse_accepts_canonical`).
-/

namespace PegTrace.Shorthand

/-! ### Canonical form -/

/-- A class has a letter and is known by its name. -/
def CharSet.Canonical : CharSet → Prop
  | named k => k.letter?.isSome ∧ CharClass.ofName? k.name = some k
  | custom _ => True

/-- The element is in canonical form, and so is all that is in it. -/
inductive Element.Canonical : Element → Prop
  | set {chars : CharSet} (negated : Bool) (h : chars.Canonical) : Canonical (.set chars negated)
  | literal {text : List Char} {fold : Bool} (h : quoteMark fold ∉ text) : Canonical (.literal text fold)
  | group {alternatives : List (List (Quantified Element))} (hne : alternatives ≠ [[]])
      (hq : ∀ items ∈ alternatives, ∀ item ∈ items, item.quantifier.Expressible)
      (he : ∀ items ∈ alternatives, ∀ item ∈ items, Canonical item.element) : Canonical (.group alternatives)

/-- The quantifiers and the elements are in canonical form. -/
def ItemsCanonical (items : List (Quantified Element)) : Prop :=
  ∀ item ∈ items, item.quantifier.Expressible ∧ item.element.Canonical

/-- The alternatives are not a single empty sequence, and all that is in them is in canonical form. -/
def Compound.Canonical (compound : Compound) : Prop :=
  compound ≠ [[]] ∧ ∀ items ∈ compound, ItemsCanonical items

lemma Compound.Canonical.group {compound : Compound} (h : compound.Canonical) : Element.Canonical (.group compound) :=
  .group h.1 (fun items hitems item hitem => (h.2 items hitems item hitem).1)
    fun items hitems item hitem => (h.2 items hitems item hitem).2

/-! ### What the reader holds -/

structure Level.Canonical (l : Level) : Prop where
  alternatives : ∀ items ∈ l.alternatives, ItemsCanonical items
  items : ItemsCanonical l.items

structure OpenGroup.Canonical (g : OpenGroup) : Prop where
  outer : g.outer.Canonical
  quantifier : g.quantifier.Expressible

/-- The numbers that are read so far stay below the limit. -/
def Bounds.Canonical : Bounds → Prop
  | opened => True
  | first n => n < countLimit
  | comma least => ∀ n ∈ least, n < countLimit
  | second least n => (∀ n ∈ least, n < countLimit) ∧ n < countLimit

/-- The quantifier that waits for its element is in canonical form, and so is what is read of a number or a literal. -/
def Mode.Canonical : Mode → Prop
  | ready => True
  | quantified q | minus q | setOpen q _ | inSet q _ _ => q.Expressible
  | count n => n < countLimit
  | bounds b => b.Canonical
  | inLiteral q quote text => q.Expressible ∧ (quote = '\x27' ∨ quote = '"') ∧ quote ∉ text

/-- All that is read so far is in canonical form, complete or not. -/
structure State.Canonical (s : State) : Prop where
  groups : ∀ g ∈ s.groups, g.Canonical
  level : s.level.Canonical
  mode : s.mode.Canonical

lemma Level.canonical_empty : Level.Canonical {} := ⟨by simp, by simp [ItemsCanonical]⟩

lemma State.canonical_start : State.Canonical {} := ⟨by simp, Level.canonical_empty, trivial⟩

namespace Level.Canonical

variable {l : Level}

lemma push (h : l.Canonical) {q : Quantifier} {e : Element} (hq : q.Expressible) (he : e.Canonical) :
    (l.push ⟨q, e⟩).Canonical :=
  ⟨h.alternatives, List.forall_mem_cons.2 ⟨⟨hq, he⟩, h.items⟩⟩

lemma settled (h : l.Canonical) : ∀ items ∈ l.settled, ItemsCanonical items := by
  refine List.forall_mem_cons.2 ⟨fun item hitem => ?_, h.alternatives⟩
  exact h.items item (List.mem_reverse.1 hitem)

lemma split (h : l.Canonical) : l.split.Canonical := ⟨h.settled, by simp [ItemsCanonical, Level.split]⟩

/-- A single empty sequence is left out when a level ends. -/
lemma close (h : l.Canonical) : l.close.Canonical := by
  have hall : ∀ items ∈ l.settled.reverse, ItemsCanonical items := fun items hitems =>
    h.settled items (List.mem_reverse.1 hitems)
  unfold Level.close Compound.ofAlternatives
  split
  · exact ⟨by simp, by simp⟩
  · rename_i hne
    exact ⟨hne, hall⟩

end Level.Canonical

namespace State.Canonical

variable {s : State}

lemma enter (h : s.Canonical) {mode : Mode} (hmode : mode.Canonical) : (s.enter mode).Canonical :=
  ⟨h.groups, h.level, hmode⟩

lemma add (h : s.Canonical) {q : Quantifier} {e : Element} (hq : q.Expressible) (he : e.Canonical) :
    (s.add q e).Canonical :=
  ⟨h.groups, h.level.push hq he, trivial⟩

end State.Canonical

/-! ### Steps -/

/-- What is read, if nothing is wrong with it, has the property. -/
def Ensures {β : Type} (P : β → Prop) (result : Except Fault β) : Prop :=
  ∀ value, result = .ok value → P value

namespace Ensures

variable {β γ : Type} {P : β → Prop} {R : γ → Prop}

lemma ok {value : β} (h : P value) : Ensures P (.ok value) := by
  rintro _ ⟨⟩
  exact h

lemma error (fault : Fault) : Ensures P (.error fault) := by
  rintro _ ⟨⟩

lemma bind {result : Except Fault β} {f : β → Except Fault γ} (h : Ensures P result)
    (hf : ∀ value, P value → Ensures R (f value)) : Ensures R (result >>= f) := by
  cases result with
  | error fault => exact .error fault
  | ok value => exact hf value (h value rfl)

end Ensures

lemma appendDigit_lt (n : Nat) (c : Char) : Ensures (· < countLimit) (appendDigit n c) := by
  simp only [appendDigit]
  split_ifs with h
  · exact .ok h
  · exact .error _

lemma boundsQuantifier_expressible {least most : Option Nat} (hl : ∀ n ∈ least, n < countLimit)
    (hm : ∀ m ∈ most, m < countLimit) : Ensures Quantifier.Expressible (boundsQuantifier least most) := by
  cases least with
  | none =>
    cases most with
    | none => exact .ok trivial
    | some m => exact .ok ⟨Nat.zero_le m, hm m rfl⟩
  | some n =>
    cases most with
    | none => exact .ok (hl n rfl)
    | some m =>
      simp only [boundsQuantifier]
      split_ifs with h
      · exact .ok ⟨h, hm m rfl⟩
      · exact .error _

lemma ofLetter?_canonical {c : Char} {k : CharClass} (h : CharClass.ofLetter? c = some k) :
    (CharSet.named k).Canonical := by
  have hletter : k.letter? = some c.toUpper := by simpa using List.find?_some h
  refine ⟨by simp [hletter], ?_⟩
  cases k <;> decide

section Steps

variable {s : State} {q : Quantifier}

lemma readSetLetter_canonical (hs : s.Canonical) (hq : q.Expressible) (negated : Bool) (c : Char) :
    Ensures State.Canonical (readSetLetter s q negated c) := by
  unfold readSetLetter
  split_ifs
  · exact .ok (hs.enter hq)
  · split
    · rename_i k hk
      exact .ok (hs.add hq (.set negated (ofLetter?_canonical hk)))
    · exact .error _

lemma readElement_canonical (hs : s.Canonical) (hq : q.Expressible) (c : Char) :
    Ensures State.Canonical (readElement s q c) := by
  unfold readElement
  split_ifs with hopen hquote
  · exact .ok ⟨List.forall_mem_cons.2 ⟨⟨hs.level, hq⟩, hs.groups⟩, Level.canonical_empty, trivial⟩
  · exact .ok (hs.enter ⟨hq, by simpa using hquote, by simp⟩)
  · exact .ok (hs.enter hq)
  · exact readSetLetter_canonical hs hq false c
  · exact .error _

lemma closeGroup_canonical (hs : s.Canonical) : Ensures State.Canonical (closeGroup s) := by
  unfold closeGroup
  split
  · exact .error _
  · rename_i g groups hgroups
    have hall := hs.groups
    rw [hgroups, List.forall_mem_cons] at hall
    exact .ok ⟨hall.2, hall.1.outer.push hall.1.quantifier hs.level.close.group, trivial⟩

lemma readReady_canonical (hs : s.Canonical) (c : Char) : Ensures State.Canonical (readReady s c) := by
  unfold readReady
  split_ifs
  · exact .ok hs
  · exact .ok ⟨hs.groups, hs.level.split, hs.mode⟩
  · exact closeGroup_canonical hs
  -- the signs of quantifiers, and the bracket of bounds, come without a number
  · exact .ok (hs.enter trivial)
  · exact .ok (hs.enter trivial)
  · exact .ok (hs.enter trivial)
  · exact .ok (hs.enter trivial)
  · exact (appendDigit_lt 0 c).bind fun n hn => .ok (hs.enter hn)
  · exact readElement_canonical hs (q := .once) trivial c

lemma readQuantified_canonical (hs : s.Canonical) (hq : q.Expressible) (c : Char) :
    Ensures State.Canonical (readQuantified s q c) := by
  unfold readQuantified
  split_ifs
  · exact .ok (hs.enter hq)
  · exact .error _
  · exact readElement_canonical hs hq c

lemma readCount_canonical (hs : s.Canonical) {n : Nat} (hn : n < countLimit) (c : Char) :
    Ensures State.Canonical (readCount s n c) := by
  unfold readCount
  split_ifs
  · exact (appendDigit_lt n c).bind fun m hm => .ok (hs.enter hm)
  · exact readQuantified_canonical hs (q := .exactly n) hn c

lemma readBounds_canonical (hs : s.Canonical) {b : Bounds} (hb : b.Canonical) (c : Char) :
    Ensures State.Canonical (readBounds s b c) := by
  cases b with
  | opened =>
    simp only [readBounds]
    split_ifs
    · exact .ok (hs.enter (by simp [Mode.Canonical, Bounds.Canonical]))
    -- a bracket that is closed at once is refused before digits are asked for, on either side of that test
    · exact .error _
    · exact .error _
    · exact (appendDigit_lt 0 c).bind fun n hn => .ok (hs.enter hn)
    · exact .error _
  | first n =>
    simp only [readBounds]
    split_ifs
    · exact .ok (hs.enter (by simpa [Mode.Canonical, Bounds.Canonical] using hb))
    · exact .ok (hs.enter hb)
    · exact (appendDigit_lt n c).bind fun m hm => .ok (hs.enter hm)
    · exact .error _
  | comma least =>
    simp only [readBounds]
    split_ifs
    · exact (boundsQuantifier_expressible hb (by simp)).bind fun q hq => .ok (hs.enter hq)
    · exact (appendDigit_lt 0 c).bind fun n hn => .ok (hs.enter ⟨hb, hn⟩)
    · exact .error _
  | second least n =>
    simp only [readBounds]
    split_ifs
    · exact (boundsQuantifier_expressible hb.1 (by simpa using hb.2)).bind fun q hq => .ok (hs.enter hq)
    · exact (appendDigit_lt n c).bind fun m hm => .ok (hs.enter ⟨hb.1, hm⟩)
    · exact .error _

lemma readPlain_canonical (hs : s.Canonical) (hq : q.Expressible) (negated : Bool) (scan : SetScan) (c : Char) :
    (readPlain s q negated scan c).Canonical := by
  unfold readPlain
  split_ifs
  · exact hs.add hq (.set negated trivial)
  · exact hs.enter hq

lemma readSet_canonical (hs : s.Canonical) (hq : q.Expressible) (negated : Bool) (scan : SetScan) (c : Char) :
    Ensures State.Canonical (readSet s q negated scan c) := by
  unfold readSet
  split
  · split_ifs
    · exact .ok (hs.enter hq)
    · exact .ok (readPlain_canonical hs hq negated scan c)
  · split_ifs
    · exact .ok (hs.enter hq)
    · exact .ok (readPlain_canonical hs hq negated (scan.push '.') c)
  · split_ifs
    · exact .error _
    · exact .ok (hs.enter hq)

/-- A literal ends at the first quotation mark of its own. -/
lemma readLiteral_canonical (hs : s.Canonical) {quote : Char} {text : List Char}
    (hmode : (Mode.inLiteral q quote text).Canonical) (c : Char) : (readLiteral s q quote text c).Canonical := by
  obtain ⟨hq, hquote, htext⟩ := hmode
  unfold readLiteral
  split_ifs with hc
  · refine hs.add hq (.literal ?_)
    have hmark : quoteMark (quote = '\x27') = quote := by
      rcases hquote with rfl | rfl <;> rfl
    rwa [hmark, List.mem_reverse]
  · refine hs.enter ⟨hq, hquote, ?_⟩
    rw [List.mem_cons, not_or]
    exact ⟨Ne.symm hc, htext⟩

/-- One step keeps what is read in canonical form. -/
lemma step_canonical (hs : s.Canonical) (c : Char) : Ensures State.Canonical (step s c) := by
  have hmode := hs.mode
  unfold step
  split <;> rename_i heq <;> rw [heq] at hmode
  · exact readReady_canonical hs c
  · exact readQuantified_canonical hs hmode c
  · exact readCount_canonical hs hmode c
  · exact readBounds_canonical hs hmode c
  · exact readSetLetter_canonical hs hmode true c
  · exact .ok (hs.enter hmode)
  · exact readSet_canonical hs hmode _ _ c
  · exact .ok (readLiteral_canonical hs hmode c)

end Steps

/-! ### Whole texts -/

lemma advance_canonical {s : State} (hs : s.Canonical) (text : List Char) :
    Ensures State.Canonical (advance s text) := by
  induction text generalizing s with
  | nil => exact .ok hs
  | cons c text ih =>
    rw [advance, List.foldlM_cons]
    exact (step_canonical hs c).bind fun s' hs' => ih hs'

lemma finish_canonical {s : State} (hs : s.Canonical) : Ensures Compound.Canonical (finish s) := by
  unfold finish
  split
  case h_1 =>
    split_ifs
    · exact .ok hs.level.close
    · exact .error _
  all_goals exact .error _

lemma parse_canonical (text : List Char) : Ensures Compound.Canonical (parse text) :=
  (advance_canonical State.canonical_start text).bind fun _ hs => finish_canonical hs

/-! ### Classes by name -/

/-- The test of a set. A class is looked up by its name. -/
def CharSet.resolve : CharSet → Except UnknownClass (CharTest Char)
  | named k => CharTest.ofClassName k.name
  | custom members => .ok (.any (members.map Member.test))

mutual

/-- The pattern of an element, if all names in it are known. -/
def Element.resolve : Element → Except UnknownClass (Pattern Char)
  | .set chars negated => do
    let test ← chars.resolve
    return .literal (if negated then test.negated else test)
  | .group alternatives => do
    let patterns ← resolveAlternatives alternatives
    return choiceOf patterns
  | .literal text fold =>
    return if fold then .textIgnoringCase (String.ofList text) else .text (String.ofList text)

def resolveAlternatives : List (List (Quantified Element)) → Except UnknownClass (List (Pattern Char))
  | [] => return []
  | items :: rest => do
    let patterns ← resolveItems items
    let others ← resolveAlternatives rest
    return concatOf patterns :: others

def resolveItems : List (Quantified Element) → Except UnknownClass (List (Pattern Char))
  | [] => return []
  | ⟨q, e⟩ :: rest => do
    let p ← e.resolve
    let others ← resolveItems rest
    return q.pattern p :: others

end

/-- Why there is no pattern for a text. -/
inductive CompileError where
  /-- The text cannot be read. -/
  | fault (f : Fault)
  /-- A name in it is not known. -/
  | unknownClass (e : UnknownClass)
deriving DecidableEq, Repr

/-- The pattern written in shorthand, with classes looked up by name. -/
def compileByName (text : List Char) : Except CompileError (Pattern Char) := do
  let compound ← (parse text).mapError .fault
  let patterns ← (resolveAlternatives compound).mapError .unknownClass
  return choiceOf patterns

lemma CharSet.Canonical.resolve_eq {chars : CharSet} (h : chars.Canonical) : chars.resolve = .ok chars.test := by
  cases chars with
  | named k => simp only [resolve, CharTest.ofClassName, h.2, test]
  | custom members => rfl

lemma resolveItems_eq {items : List (Quantified Element)}
    (h : ∀ item ∈ items, item.element.resolve = .ok item.element.pattern) :
    resolveItems items = .ok (itemPatterns items) := by
  induction items with
  | nil => rfl
  | cons item items ih =>
    rw [List.forall_mem_cons] at h
    simp only [resolveItems, h.1, ih h.2, itemPatterns]
    rfl

lemma resolveAlternatives_eq {alternatives : List (List (Quantified Element))}
    (h : ∀ items ∈ alternatives, ∀ item ∈ items, item.element.resolve = .ok item.element.pattern) :
    resolveAlternatives alternatives = .ok (alternativePatterns alternatives) := by
  induction alternatives with
  | nil => rfl
  | cons items alternatives ih =>
    rw [List.forall_mem_cons] at h
    simp only [resolveAlternatives, resolveItems_eq h.1, ih h.2, alternativePatterns]
    rfl

/-- No name of a canonical element is unknown. -/
lemma Element.Canonical.resolve_eq {e : Element} (h : e.Canonical) : e.resolve = .ok e.pattern := by
  induction h with
  | set negated h =>
    simp only [resolve, h.resolve_eq, pattern]
    rfl
  | literal _ =>
    simp only [resolve, pattern]
    rfl
  | group _ _ _ ih =>
    simp only [resolve, resolveAlternatives_eq ih, pattern]
    rfl

lemma Compound.Canonical.resolve_eq {compound : Compound} (h : compound.Canonical) :
    resolveAlternatives compound = .ok (alternativePatterns compound) :=
  resolveAlternatives_eq fun items hitems item hitem => (h.2 items hitems item hitem).2.resolve_eq

/-- Looking up classes by name makes no difference. -/
lemma compileByName_eq (text : List Char) : compileByName text = (compile text).mapError .fault := by
  cases h : parse text with
  | error fault =>
    rw [compileByName, compile, h]
    rfl
  | ok compound =>
    calc compileByName text
      _ = (resolveAlternatives compound).mapError .unknownClass >>= fun patterns => .ok (choiceOf patterns) := by
        rw [compileByName, h]
        rfl
      _ = .ok compound.pattern := by
        rw [(parse_canonical text compound h).resolve_eq]
        rfl
      _ = (compile text).mapError .fault := by
        rw [compile, h]
        rfl

/-- Whatever can be read is in canonical form at every level and has a pattern; what cannot be read has none, for the
same reason. A class that is not known is never the reason. -/
theorem parse_accepts_canonical (text : List Char) :
    (∀ compound, parse text = .ok compound →
      compound.Canonical ∧ compile text = .ok compound.pattern ∧ compileByName text = .ok compound.pattern) ∧
    (∀ fault, parse text = .error fault → compile text = .error fault ∧ compileByName text = .error (.fault fault)) ∧
    ∀ e, compileByName text ≠ .error (.unknownClass e) := by
  rw [compileByName_eq]
  refine ⟨fun compound h => ?_, fun fault h => ?_, fun e => ?_⟩
  · have hcompile : compile text = .ok compound.pattern := by
      rw [compile, h]
      rfl
    exact ⟨parse_canonical text compound h, hcompile, by rw [hcompile]; rfl⟩
  · have hcompile : compile text = .error fault := by
      rw [compile, h]
      rfl
    exact ⟨hcompile, by rw [hcompile]; rfl⟩
  · cases compile text <;> simp [Except.mapError]

/-- Two groups that may be empty, and bounds in the wrong order. -/
theorem groups_accepts_canonical :
    (∃ compound, parse ['2', '(', '|', 'N', ')'] = .ok compound ∧ compound.Canonical ∧
      compile ['2', '(', '|', 'N', ')'] = .ok compound.pattern) ∧
    parse ['[', '3', ',', '2', ']', 'N'] = .error .invalidBounds ∧
    compile ['[', '3', ',', '2', ']', 'N'] = .error .invalidBounds := by
  have haccepted : parse ['2', '(', '|', 'N', ')'] =
      .ok [[⟨.exactly 2, .group [[], [⟨.once, .set (.named .digit) false⟩]]⟩]] := rfl
  have hrefused : parse ['[', '3', ',', '2', ']', 'N'] = .error .invalidBounds := rfl
  obtain ⟨hcanonical, hcompile, _⟩ := (parse_accepts_canonical _).1 _ haccepted
  exact ⟨⟨_, haccepted, hcanonical, hcompile⟩, hrefused, ((parse_accepts_canonical _).2.1 _ hrefused).1⟩

end PegTrace.Shorthand
