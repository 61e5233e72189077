import PegTrace.Proofs.Pattern.Edits
import PegTrace.Record.Stretch

/-!
# Attempts and their parts

An operator on matchers makes attempts with its parts and reads its own attempt off them. Said once for all operators:
the parts follow a course, in which each starts at the start of the whole or where an earlier one stopped and is bounded
by the bound of the whole or by where an earlier one stopped (`Course`), and the whole is assembled from them
(`Attempt.Assembled`). A property that passes from the parts of an attempt to the attempt is met by every pattern under
every grammar (`Heritable.run_meets`).
-/

namespace PegTrace

variable {α : Type} {I : Nat → Nat → Attempt → Prop}

/-! ### Attempts that follow one another -/

/-- Every attempt of the matcher has the property `I`, which speaks of the start, the bound and the attempt. -/
def Matcher.Meets (m : Matcher) (I : Nat → Nat → Attempt → Prop) : Prop :=
  ∀ ⦃start bound a⦄, m start bound = some a → I start bound a

/-- Attempts made one after the other, all with the property `I`: each starts at one of the places and has one of the
bounds, and where it stops is one more place and one more bound for those after it. -/
inductive Course (I : Nat → Nat → Attempt → Prop) : List Nat → List Nat → List Attempt → Prop
  | nil {places bounds : List Nat} : Course I places bounds []
  | cons {places bounds : List Nat} {start bound : Nat} {a : Attempt} {later : List Attempt}
      (hs : start ∈ places) (hb : bound ∈ bounds) (ha : I start bound a)
      (hl : Course I (a.stop :: places) (a.stop :: bounds) later) : Course I places bounds (a :: later)

/-- Attempts that all start at one place with one bound. -/
lemma Course.of_forall {places bounds : List Nat} {start bound : Nat} {parts : List Attempt}
    (hs : start ∈ places) (hb : bound ∈ bounds) (h : ∀ a ∈ parts, I start bound a) :
    Course I places bounds parts := by
  induction parts generalizing places bounds with
  | nil => exact .nil
  | cons a parts ih =>
    refine .cons hs hb (h a List.mem_cons_self) (ih (List.mem_cons_of_mem _ hs) (List.mem_cons_of_mem _ hb) ?_)
    exact fun b hb => h b (List.mem_cons_of_mem _ hb)

lemma Course.imp {J : Nat → Nat → Attempt → Prop} (hIJ : ∀ start bound a, I start bound a → J start bound a)
    {places bounds : List Nat} {parts : List Attempt} (h : Course I places bounds parts) :
    Course J places bounds parts := by
  induction h with
  | nil => exact .nil
  | cons hs hb ha _ ih => exact .cons hs hb (hIJ _ _ _ ha) ih

lemma Course.forall_mem {places bounds : List Nat} {parts : List Attempt} (h : Course I places bounds parts) :
    ∀ a ∈ parts, ∃ start bound, I start bound a := by
  induction h with
  | nil => simp
  | cons _ _ ha _ ih => exact List.forall_mem_cons.2 ⟨⟨_, _, ha⟩, ih⟩

namespace Matcher

variable {items : List (Keyed Matcher)} {tried : List (Keyed Attempt)} {start bound : Nat}

lemma tryInTurn_meets (hm : ∀ m ∈ items, m.value.Meets I)
    (h : tryInTurn start bound items = some tried) : ∀ a ∈ tried.map Keyed.value, I start bound a := by
  induction items generalizing tried with
  | nil =>
    cases h
    simp
  | cons m items ih =>
    rw [List.forall_mem_cons] at hm
    simp only [tryInTurn, Option.bind_eq_bind, Option.bind_eq_some_iff] at h
    obtain ⟨a, ha, h⟩ := h
    split at h
    · cases h
      simpa using hm.1 ha
    · obtain ⟨later, hlater, h⟩ := Option.bind_eq_some_iff.1 h
      cases h
      simp only [List.map_cons, List.forall_mem_cons]
      exact ⟨hm.1 ha, ih hm.2 hlater⟩

lemma tryInAgreement_meets {agreed : Option Nat} (hm : ∀ m ∈ items, m.value.Meets I)
    (h : tryInAgreement start bound agreed items = some tried) :
    ∀ a ∈ tried.map Keyed.value, I start bound a := by
  induction items generalizing tried agreed with
  | nil =>
    cases h
    simp
  | cons m items ih =>
    rw [List.forall_mem_cons] at hm
    simp only [tryInAgreement, Option.bind_eq_bind, Option.bind_eq_some_iff] at h
    obtain ⟨a, ha, h⟩ := h
    split at h
    · obtain ⟨later, hlater, h⟩ := Option.bind_eq_some_iff.1 h
      cases h
      simp only [List.map_cons, List.forall_mem_cons]
      exact ⟨hm.1 ha, ih hm.2 hlater⟩
    · cases h
      simpa using hm.1 ha

lemma tryEach_meets (hm : ∀ m ∈ items, m.value.Meets I) (h : tryEach start bound items = some tried) :
    ∀ a ∈ tried.map Keyed.value, I start bound a := by
  induction items generalizing tried with
  | nil =>
    cases h
    simp
  | cons m items ih =>
    rw [List.forall_mem_cons] at hm
    simp only [tryEach, Option.bind_eq_bind, Option.bind_eq_some_iff] at h
    obtain ⟨a, ha, later, hlater, h⟩ := h
    cases h
    simp only [List.map_cons, List.forall_mem_cons]
    exact ⟨hm.1 ha, ih hm.2 hlater⟩

lemma tryInSequence_course {places bounds : List Nat} (hm : ∀ m ∈ items, m.value.Meets I)
    (hs : start ∈ places) (hb : bound ∈ bounds) (h : tryInSequence bound start items = some tried) :
    Course I places bounds (tried.map Keyed.value) := by
  induction items generalizing tried start places bounds with
  | nil =>
    cases h
    exact .nil
  | cons m items ih =>
    rw [List.forall_mem_cons] at hm
    simp only [tryInSequence, Option.bind_eq_bind, Option.bind_eq_some_iff] at h
    obtain ⟨a, ha, h⟩ := h
    split at h
    · obtain ⟨later, hlater, h⟩ := Option.bind_eq_some_iff.1 h
      cases h
      exact .cons hs hb (hm.1 ha) (ih hm.2 List.mem_cons_self (List.mem_cons_of_mem _ hb) hlater)
    · cases h
      exact .cons hs hb (hm.1 ha) .nil

lemma repeatFrom_course {m : Matcher} {bounded : Bool} {limit : Nat} {run : Run}
    {places bounds : List Nat} (hm : m.Meets I) (hs : start ∈ places) (hb : bound ∈ bounds)
    (h : repeatFrom m bound bounded limit start = some run) : Course I places bounds run.attempts := by
  induction limit generalizing start run places bounds with
  | zero =>
    simp only [repeatFrom] at h
    split at h
    · cases h
      exact .nil
    · cases h
  | succ limit ih =>
    simp only [repeatFrom, Option.bind_eq_bind, Option.bind_eq_some_iff] at h
    obtain ⟨a, ha, h⟩ := h
    split at h
    · cases h
      exact .cons hs hb (hm ha) .nil
    · split at h
      · cases h
        exact .cons hs hb (hm ha) .nil
      · obtain ⟨later, hlater, h⟩ := Option.bind_eq_some_iff.1 h
        cases h
        exact .cons hs hb (hm ha) (ih List.mem_cons_self (List.mem_cons_of_mem _ hb) hlater)

lemma repeatWithin_course {m : Matcher} {most : Option Nat} {steps : Nat} {run : Run}
    {places bounds : List Nat} (hm : m.Meets I) (hs : start ∈ places) (hb : bound ∈ bounds)
    (h : repeatWithin m bound start most steps = some run) : Course I places bounds run.attempts := by
  cases most with
  | none => exact repeatFrom_course hm hs hb h
  | some most => exact repeatFrom_course hm hs hb h

end Matcher

/-! ### What is assembled from the parts -/

namespace Record

lemma farthest_le_iff {place limit : Nat} {records : List Record} :
    farthest place records ≤ limit ↔ place ≤ limit ∧ ∀ r ∈ records, r.reach ≤ limit := by
  induction records generalizing place with
  | nil => simp [farthest]
  | cons r records ih =>
    have hcons : farthest place (r :: records) = farthest (max place r.reach) records := rfl
    rw [hcons, ih, List.forall_mem_cons, Nat.max_le, and_assoc]

lemma reach_le_farthest (place : Nat) {records : List Record} {r : Record} (h : r ∈ records) :
    r.reach ≤ farthest place records :=
  (farthest_le_iff.1 (Nat.le_refl _)).2 r h

end Record

/-- The attempt is read off its parts: it stops where it started or where one of them stopped, reaches as far as any of
them, keeps some of their records, and tells what they tell. -/
structure Attempt.Assembled (a : Attempt) (start : Nat) (parts : List Attempt) : Prop where
  start_eq : a.record.start = start
  stop_mem : a.stop ∈ start :: parts.map Attempt.stop
  reach_eq : a.record.reach = max (Record.farthest start (parts.map Attempt.record)) a.stop
  child_mem : ∀ c ∈ a.record.children, c.value ∈ parts.map Attempt.record
  mem_events : ∀ e, e ∈ a.trace.events ↔ ∃ b ∈ parts, e ∈ b.trace.events

/-- The whole reaches as far as any of its parts. -/
lemma Attempt.Assembled.reach_le_of_mem {a b : Attempt} {start : Nat} {parts : List Attempt}
    (ha : a.Assembled start parts) (hb : b ∈ parts) : b.record.reach ≤ a.record.reach := by
  rw [ha.reach_eq]
  exact Nat.le_trans (Record.reach_le_farthest start (List.mem_map_of_mem hb)) (Nat.le_max_left _ _)

lemma mem_events_join {parts : List Attempt} (e : Event) :
    e ∈ (Trace.join (parts.map Attempt.trace)).events ↔ ∃ b ∈ parts, e ∈ b.trace.events := by
  simp

lemma mem_events_traceOf {tried : List (Keyed Attempt)} (e : Event) :
    e ∈ (traceOf tried).events ↔ ∃ b ∈ tried.map Keyed.value, e ∈ b.trace.events := by
  simp [traceOf]

namespace Matcher

variable {items : List (Keyed Matcher)} {tried : List (Keyed Attempt)} {start bound : Nat} {a : Attempt}

/-- A record without parts that commits nothing. -/
lemma assembled_empty (success : Bool) : Attempt.Assembled ⟨success, .empty start, .quiet⟩ start [] where
  start_eq := rfl
  stop_mem := List.mem_cons_self
  reach_eq := (Nat.max_self start).symm
  child_mem := by simp [Record.empty, Record.children]
  mem_events := by simp

/-- A record that keeps all of the attempts. -/
lemma assembled_all {success : Bool} {stop : Nat} {trace : Trace}
    (hstop : stop ∈ start :: (tried.map Keyed.value).map Attempt.stop)
    (htrace : ∀ e, e ∈ trace.events ↔ ∃ b ∈ tried.map Keyed.value, e ∈ b.trace.events) :
    Attempt.Assembled
      ⟨success, .all (.covering start stop (reachOf start tried)) (.ofList (keyedRecords tried)), trace⟩
      start (tried.map Keyed.value) where
  start_eq := rfl
  stop_mem := hstop
  reach_eq := by simp [Record.reach, Record.extent, Extent.covering, reachOf, Attempt.stop, Record.stop,
    Function.comp_def]
  child_mem := by
    intro c hc
    simp only [Record.children, Roster.entries_ofList, keyedRecords, List.mem_map] at hc
    obtain ⟨b, hb, rfl⟩ := hc
    exact List.mem_map_of_mem (List.mem_map_of_mem hb)
  mem_events := htrace

/-- A record that keeps at most one of the attempts. -/
lemma assembled_choice {success : Bool} {stop : Nat} {index : Option Nat} {key : Option Key}
    {child : Option Record} (hstop : stop ∈ start :: (tried.map Keyed.value).map Attempt.stop)
    (hchild : ∀ r ∈ child, r ∈ (tried.map Keyed.value).map Attempt.record) :
    Attempt.Assembled
      ⟨success, .choice (.covering start stop (reachOf start tried)) index key child, traceOf tried⟩
      start (tried.map Keyed.value) where
  start_eq := rfl
  stop_mem := hstop
  reach_eq := by simp [Record.reach, Record.extent, Extent.covering, reachOf, Attempt.stop, Record.stop,
    Function.comp_def]
  child_mem := by
    intro c hc
    simp only [Record.children, List.mem_map, Option.mem_toList] at hc
    obtain ⟨r, hr, rfl⟩ := hc
    exact hchild r hr
  mem_events := mem_events_traceOf

lemma choice_assembled (hm : ∀ m ∈ items, m.value.Meets I) (h : choice items start bound = some a) :
    ∃ tried, tryInTurn start bound items = some tried ∧
      Course I [start] [bound] (tried.map Keyed.value) ∧ a.Assembled start (tried.map Keyed.value) := by
  simp only [choice, Option.bind_eq_bind, Option.bind_eq_some_iff] at h
  obtain ⟨tried, htried, h⟩ := h
  refine ⟨tried, htried,
    .of_forall List.mem_cons_self List.mem_cons_self (tryInTurn_meets hm htried), ?_⟩
  split at h
  · cases h
    exact assembled_choice List.mem_cons_self (by simp)
  · -- the child is the record of the last attempt, on success and on failure
    rename_i key b hlast
    have hb : b ∈ tried.map Keyed.value := List.mem_map_of_mem (List.mem_of_getLast? hlast)
    have hr : ∀ r ∈ some b.record, r ∈ (tried.map Keyed.value).map Attempt.record := by
      rintro r ⟨⟩
      exact List.mem_map_of_mem hb
    split at h
    · cases h
      exact assembled_choice (List.mem_cons_of_mem _ (List.mem_map_of_mem hb)) hr
    · cases h
      exact assembled_choice List.mem_cons_self hr

lemma lastStop_mem (start : Nat) (tried : List (Keyed Attempt)) :
    lastStop start tried ∈ start :: (tried.map Keyed.value).map Attempt.stop := by
  unfold lastStop
  split
  · exact List.mem_cons_self
  · rename_i item hlast
    exact List.mem_cons_of_mem _ (List.mem_map_of_mem (List.mem_map_of_mem (List.mem_of_getLast? hlast)))

lemma concat_assembled (hm : ∀ m ∈ items, m.value.Meets I) (h : concat items start bound = some a) :
    ∃ tried, tryInSequence bound start items = some tried ∧
      Course I [start] [bound] (tried.map Keyed.value) ∧ a.Assembled start (tried.map Keyed.value) := by
  simp only [concat, Option.bind_eq_bind, Option.bind_eq_some_iff] at h
  obtain ⟨tried, htried, h⟩ := h
  cases h
  exact ⟨tried, htried, tryInSequence_course hm List.mem_cons_self List.mem_cons_self htried,
    assembled_all (lastStop_mem start tried) mem_events_traceOf⟩

lemma firstStop_mem (start : Nat) (tried : List (Keyed Attempt)) :
    firstStop start tried ∈ start :: (tried.map Keyed.value).map Attempt.stop := by
  unfold firstStop
  split
  · exact List.mem_cons_self
  · rename_i item hhead
    exact List.mem_cons_of_mem _ (List.mem_map_of_mem (List.mem_map_of_mem (List.mem_of_head? hhead)))

lemma intersection_assembled (hm : ∀ m ∈ items, m.value.Meets I)
    (h : intersection items start bound = some a) :
    ∃ tried, tryInAgreement start bound none items = some tried ∧
      Course I [start] [bound] (tried.map Keyed.value) ∧ a.Assembled start (tried.map Keyed.value) := by
  simp only [intersection, Option.bind_eq_bind, Option.bind_eq_some_iff] at h
  obtain ⟨tried, htried, h⟩ := h
  cases h
  exact ⟨tried, htried,
    .of_forall List.mem_cons_self List.mem_cons_self (tryInAgreement_meets hm htried),
    assembled_all (firstStop_mem start tried) mem_events_traceOf⟩

lemma difference_of_success {m : Keyed Matcher} {base : Attempt} (hbase : m.value start bound = some base)
    (hs : base.success) (others : List (Keyed Matcher)) (exclude : Bool) :
    difference (m :: others) exclude start bound =
      (tryEach start base.stop others.reverse).map fun tried =>
        ⟨exclude != alternating (tried.reverse.map (·.value.covers base.stop)),
          .all (.covering start base.stop (reachOf start (⟨m.key, base⟩ :: tried.reverse)))
            (.ofList (keyedRecords (⟨m.key, base⟩ :: tried.reverse))),
          .both base.trace (traceOf tried)⟩ := by
  rw [difference, hbase, Option.bind_eq_bind, Option.bind_some, if_neg (by simp [hs]), Option.map_eq_bind]
  rfl

lemma difference_of_failure {m : Keyed Matcher} {base : Attempt} (hbase : m.value start bound = some base)
    (hs : ¬ base.success) (others : List (Keyed Matcher)) (exclude : Bool) :
    difference (m :: others) exclude start bound = some base := by
  simp [difference, hbase, hs]

/-- A base that matched, with the attempts of the other items on its stretch. -/
lemma difference_assembled {m : Keyed Matcher} {others : List (Keyed Matcher)} {exclude : Bool}
    {base : Attempt} (hm : m.value.Meets I) (ho : ∀ m ∈ others, m.value.Meets I)
    (hbase : m.value start bound = some base) (hsuccess : base.success)
    (h : difference (m :: others) exclude start bound = some a) :
    ∃ tried, tryEach start base.stop others.reverse = some tried ∧ a.stop = base.stop ∧
      Course I [start] [bound] (base :: tried.reverse.map Keyed.value) ∧
      a.Assembled start (base :: tried.reverse.map Keyed.value) := by
  rw [difference_of_success hbase hsuccess] at h
  obtain ⟨tried, htried, rfl⟩ := Option.map_eq_some_iff.1 h
  have hmeets : ∀ b ∈ tried.reverse.map Keyed.value, I start base.stop b := by
    intro b hb
    rw [List.map_reverse, List.mem_reverse] at hb
    exact tryEach_meets (fun m hm => ho m (List.mem_reverse.1 hm)) htried b hb
  refine ⟨tried, htried, rfl, .cons List.mem_cons_self List.mem_cons_self (hm hbase)
    (.of_forall (List.mem_cons_of_mem _ List.mem_cons_self) List.mem_cons_self hmeets), ?_⟩
  -- the attempts are put back in the order of the pattern, the base first
  have hkept : base :: tried.reverse.map Keyed.value =
      ((⟨m.key, base⟩ : Keyed Attempt) :: tried.reverse).map Keyed.value := rfl
  rw [hkept]
  refine assembled_all (List.mem_cons_of_mem _ List.mem_cons_self) fun e => ?_
  rw [Trace.events_both, List.mem_append, mem_events_traceOf]
  simp

lemma Run.cursor_mem (start : Nat) (run : Run) : run.cursor start ∈ start :: run.attempts.map Attempt.stop := by
  unfold Run.cursor
  split
  · exact List.mem_cons_self
  · rename_i b hlast
    have hb : b ∈ run.attempts := List.mem_append_left _ (List.mem_of_getLast? hlast)
    exact List.mem_cons_of_mem _ (List.mem_map_of_mem hb)

lemma Run.stop_mem (start least : Nat) (run : Run) :
    run.stop start least ∈ start :: run.attempts.map Attempt.stop := by
  unfold Run.stop
  split
  · rename_i b hending
    split
    · exact run.cursor_mem start
    · -- the farther of the cursor and the failing attempt
      rcases Nat.le_total b.stop (run.cursor start) with hle | hle
      · rw [Nat.max_eq_right hle]
        exact run.cursor_mem start
      · rw [Nat.max_eq_left hle]
        have hb : b ∈ run.attempts := List.mem_append_right _ (by simp [hending, Ending.attempt?])
        exact List.mem_cons_of_mem _ (List.mem_map_of_mem hb)
  · exact run.cursor_mem start

lemma repetition_assembled {m : Matcher} {least : Nat} {most : Option Nat} {steps : Nat}
    (hm : m.Meets I) (h : repetition m least most steps start bound = some a) :
    ∃ run, repeatWithin m bound start (most.map (max least)) steps = some run ∧
      Course I [start] [bound] run.attempts ∧ a.Assembled start run.attempts := by
  simp only [repetition, Option.bind_eq_bind, Option.bind_eq_some_iff] at h
  obtain ⟨run, hrun, h⟩ := h
  cases h
  refine ⟨run, hrun, repeatWithin_course hm List.mem_cons_self List.mem_cons_self hrun, ?_⟩
  exact {
    start_eq := rfl
    stop_mem := run.stop_mem start least
    reach_eq := rfl
    child_mem := by
      intro c hc
      simp only [Record.children, List.mem_map] at hc
      obtain ⟨_, ⟨b, hb, rfl⟩, rfl⟩ := hc
      -- the children are the accepted rounds only; the round that ended the run is an attempt without a child
      exact List.mem_map_of_mem (List.mem_append_left _ hb)
    mem_events := mem_events_join }

lemma conditional_of_success {first : Matcher} {base : Attempt} (hbase : first start bound = some base)
    (hs : base.success) (second : Matcher) (require : Bool) :
    conditional first second require start bound =
      (second start base.stop).map fun b =>
        ⟨b.covers base.stop = require,
          .pair (.covering start base.stop (Record.farthest start [base.record, b.record]))
            base.record b.record,
          .both base.trace b.trace⟩ := by
  rw [conditional, hbase, Option.bind_eq_bind, Option.bind_some, if_neg (by simp [hs]), Option.map_eq_bind]
  rfl

lemma conditional_of_failure {first : Matcher} {base : Attempt} (hbase : first start bound = some base)
    (hs : ¬ base.success) (second : Matcher) (require : Bool) :
    conditional first second require start bound = some base := by
  simp [conditional, hbase, hs]

/-- A first half that matched, with the attempt of the second on its stretch. -/
lemma conditional_assembled {first second : Matcher} {require : Bool} {base : Attempt}
    (h₁ : first.Meets I) (h₂ : second.Meets I) (hbase : first start bound = some base)
    (hsuccess : base.success) (h : conditional first second require start bound = some a) :
    ∃ b, second start base.stop = some b ∧ a.stop = base.stop ∧
      Course I [start] [bound] [base, b] ∧ a.Assembled start [base, b] := by
  rw [conditional_of_success hbase hsuccess] at h
  obtain ⟨b, hb, rfl⟩ := Option.map_eq_some_iff.1 h
  refine ⟨b, hb, rfl, .cons List.mem_cons_self List.mem_cons_self (h₁ hbase)
    (.cons (List.mem_cons_of_mem _ List.mem_cons_self) List.mem_cons_self (h₂ hb) .nil), ?_⟩
  exact {
    start_eq := rfl
    stop_mem := List.mem_cons_of_mem _ List.mem_cons_self
    reach_eq := rfl
    child_mem := by simp [Record.children, Keyed.plain]
    mem_events := by simp }

lemma charAt?_eq_some_iff {input : Array α} {place : Nat} {c : α} :
    charAt? input place bound = some c ↔ place < bound ∧ input[place]? = some c :=
  Option.ite_none_right_eq_some

lemma head?_slice (input : Array α) (start bound : Nat) :
    (slice input start bound).head? = charAt? input start bound := by
  rw [slice, Array.toList_extract, List.extract_eq_take_drop, List.head?_take, List.head?_drop, charAt?,
    Array.getElem?_toList]
  by_cases h : start < bound
  · rw [if_pos h, if_neg (Nat.sub_ne_zero_of_lt h)]
  · rw [if_neg h, if_pos (Nat.sub_eq_zero_of_le (Nat.le_of_not_lt h))]

end Matcher

/-! ### What every attempt inherits from its parts -/

variable [DecidableEq α] [LE α] [DecidableLE α]

/-- The property holds of the attempts at single characters and at unbound holes, and passes from the parts of an
attempt to the attempt, and through edits that satisfy `E`. -/
structure Heritable (input : Array α) (E : (Record → Record) → Prop) (I : Nat → Nat → Attempt → Prop) :
    Prop where
  unbound : Matcher.unbound.Meets I
  literal (test : CharTest α) : (Matcher.literal input test).Meets I
  assembled {start bound : Nat} {parts : List Attempt} {a : Attempt} (hc : Course I [start] [bound] parts)
    (ha : a.Assembled start parts) : I start bound a
  collapse {start bound : Nat} {a : Attempt} (ha : I start bound a) :
    I start bound { a with record := .span ⟨start, a.record.stop, a.record.reach⟩ }
  custom {start bound : Nat} {a : Attempt} {edit : Record → Record} (he : E edit)
    (ha : I start bound a) : I start bound { a with record := edit a.record }

namespace Heritable

variable {input : Array α} {E : (Record → Record) → Prop}

lemma matchers_meet {holes : Nat → Matcher} {rounds : Nat} {items : List (Keyed (Pattern α))}
    (h : ∀ item ∈ items, (item.value.matcher input holes rounds).Meets I) :
    ∀ m ∈ Pattern.matchers input holes rounds items, m.value.Meets I := by
  rw [Pattern.matchers_eq_map]
  intro m hm
  obtain ⟨item, hitem, rfl⟩ := List.mem_map.1 hm
  exact h item hitem

lemma difference_meets (hI : Heritable input E I) {items : List (Keyed Matcher)} (exclude : Bool)
    (hm : ∀ m ∈ items, m.value.Meets I) : (Matcher.difference items exclude).Meets I := by
  intro start bound a h
  cases items with
  | nil =>
    cases h
    exact hI.assembled .nil (Matcher.assembled_empty false)
  | cons m others =>
    rw [List.forall_mem_cons] at hm
    obtain ⟨base, hbase, _⟩ := Option.bind_eq_some_iff.1 h
    by_cases hs : base.success
    · obtain ⟨_, _, _, hc, ha⟩ := Matcher.difference_assembled hm.1 hm.2 hbase hs h
      exact hI.assembled hc ha
    · rw [Matcher.difference_of_failure hbase hs] at h
      cases h
      exact hm.1 hbase

lemma conditional_meets (hI : Heritable input E I) {first second : Matcher} (require : Bool)
    (h₁ : first.Meets I) (h₂ : second.Meets I) : (Matcher.conditional first second require).Meets I := by
  intro start bound a h
  obtain ⟨base, hbase, _⟩ := Option.bind_eq_some_iff.1 h
  by_cases hs : base.success
  · obtain ⟨_, _, _, hc, ha⟩ := Matcher.conditional_assembled h₁ h₂ hbase hs h
    exact hI.assembled hc ha
  · rw [Matcher.conditional_of_failure hbase hs] at h
    cases h
    exact h₁ hbase

/-- What is met in the holes of a pattern is met by the pattern. -/
lemma matcher_meets (hI : Heritable input E I) {holes : Nat → Matcher} (rounds : Nat)
    (hh : ∀ id, (holes id).Meets I) {p : Pattern α} (hp : p.AllEdits E) :
    (p.matcher input holes rounds).Meets I := by
  induction hp with
  | empty =>
    intro start bound a h
    cases h
    exact hI.assembled .nil (Matcher.assembled_empty true)
  | literal test => exact hI.literal test
  | choice _ ih =>
    intro start bound a h
    obtain ⟨_, _, hc, ha⟩ := Matcher.choice_assembled (matchers_meet ih) h
    exact hI.assembled hc ha
  | concat _ ih =>
    intro start bound a h
    obtain ⟨_, _, hc, ha⟩ := Matcher.concat_assembled (matchers_meet ih) h
    exact hI.assembled hc ha
  | intersection _ ih =>
    intro start bound a h
    obtain ⟨_, _, hc, ha⟩ := Matcher.intersection_assembled (matchers_meet ih) h
    exact hI.assembled hc ha
  | difference exclude _ ih => exact hI.difference_meets exclude (matchers_meet ih)
  | repetition least most _ ih =>
    intro start bound a h
    obtain ⟨_, _, hc, ha⟩ := Matcher.repetition_assembled ih h
    exact hI.assembled hc ha
  | conditional require _ _ ih₁ ih₂ => exact hI.conditional_meets require ih₁ ih₂
  | hole id => exact hh id
  | collapse _ ih =>
    intro start bound a h
    obtain ⟨b, hb, h⟩ := Option.bind_eq_some_iff.1 h
    cases h
    exact hI.collapse (ih hb)
  | custom he _ ih =>
    intro start bound a h
    obtain ⟨b, hb, h⟩ := Option.bind_eq_some_iff.1 h
    cases h
    exact hI.custom he (ih hb)

/-- What passes from parts to wholes holds of every attempt under a grammar. -/
theorem run_meets (hI : Heritable input E I) {g : Grammar α} (hg : g.AllEdits E) {p : Pattern α}
    (hp : p.AllEdits E) (steps : Nat) : (g.run input steps p).Meets I := by
  refine hI.matcher_meets steps (fun id => ?_) hp
  -- the holes, by induction on the steps that may be spent on entering them
  induction steps generalizing id with
  | zero =>
    intro start bound a h
    cases h
  | succ steps ih =>
    intro start bound a h
    simp only [Grammar.holes] at h
    split at h
    · rename_i body hbody
      exact hI.matcher_meets steps ih (hg hbody) h
    · exact hI.unbound h

end Heritable

end PegTrace
