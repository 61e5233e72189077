import Mathlib.Data.List.Forall2
import Mathlib.Tactic.Common
import PegTrace.Record.Walk

/-!
# Records told from their walks

A walk shows a flat list in which each record is followed by what is below it, and only the depths tell where that ends.
They are enough: a list that begins with what is shown of a record, and then goes on no deeper than the record stands,
determines the record and the rest of the list (`Record.Pushed.decodes`). So a walk loses nothing of the tree
(`Record.walk_eq_walk_iff`). It does not show the indexes of the rosters, which are determined by the items as long as
these were added one by one.
-/

namespace PegTrace

namespace Record

/-! ### Rosters made by adding items -/

/-- Every roster in the record was made by adding its items to an empty one. -/
inductive Pushed : Record → Prop
  | span (e : Extent) : Pushed (.span e)
  | pair {e : Extent} {first second : Record} (h₁ : Pushed first) (h₂ : Pushed second) : Pushed (.pair e first second)
  | choice {e : Extent} {index : Option Nat} {key : Option Key} {child : Option Record}
      (h : ∀ r ∈ child, Pushed r) : Pushed (.choice e index key child)
  | all {e : Extent} {items : List (Keyed Record)} (h : ∀ item ∈ items, Pushed item.value) :
      Pushed (.all e (items.foldl Roster.push .empty))
  | series {e : Extent} {items : List Record} (h : ∀ r ∈ items, Pushed r) : Pushed (.series e items)

variable {r s : Record}

lemma Pushed.of_mem_children (h : r.Pushed) {c : Keyed Record} (hc : c ∈ r.children) : c.value.Pushed := by
  cases h with
  | span e => cases hc
  | pair h₁ h₂ =>
    simp only [children, List.mem_cons, List.not_mem_nil, or_false] at hc
    rcases hc with rfl | rfl
    · exact h₁
    · exact h₂
  | choice h =>
    simp only [children, List.mem_map, Option.mem_toList] at hc
    obtain ⟨r, hr, rfl⟩ := hc
    exact h r hr
  | all h =>
    -- the parts of a roster are the items that were added to it
    rw [← Roster.ofList_eq_foldl_push] at hc
    exact h c hc
  | series h =>
    obtain ⟨r, hr, rfl⟩ := List.mem_map.1 hc
    exact h r hr

/-- Such a record is made up of its kind, its cursors and its parts. -/
lemma Pushed.eq_of_children (hr : r.Pushed) (hs : s.Pushed) (hkind : r.kind = s.kind) (hextent : r.extent = s.extent)
    (hchildren : r.children = s.children) : r = s := by
  cases hr with
  | span e =>
    cases hs with
    | span f => exact congrArg Record.span hextent
    | _ => cases hkind
  | @pair e first second _ _ =>
    cases hs with
    | @pair f first' second' _ _ =>
      obtain rfl : e = f := hextent
      obtain ⟨rfl, rfl⟩ : first = first' ∧ second = second' := by simpa [children, Keyed.plain] using hchildren
      rfl
    | _ => cases hkind
  | @choice e index key child _ =>
    cases hs with
    | @choice f index' key' child' _ =>
      obtain rfl : e = f := hextent
      obtain ⟨rfl, rfl⟩ : index = index' ∧ key = key' := by simpa [kind] using hkind
      have hinj : Function.Injective fun r : Record => (⟨key, r⟩ : Keyed Record) := fun _ _ h => congrArg Keyed.value h
      -- there is one part at most, so it is told by the head of the list
      have hhead := congrArg List.head? hchildren
      simp only [children, List.head?_map, Option.head?_toList] at hhead
      obtain rfl := Option.map_injective hinj hhead
      rfl
    | _ => cases hkind
  | @all e items _ =>
    cases hs with
    | @all f items' _ =>
      obtain rfl : e = f := hextent
      -- the items give the index too, which nothing else shows
      simp only [← Roster.ofList_eq_foldl_push] at hchildren ⊢
      obtain rfl : items = items' := hchildren
      rfl
    | _ => cases hkind
  | @series e items _ =>
    cases hs with
    | @series f items' _ =>
      obtain rfl : e = f := hextent
      have hinj : Function.Injective (Keyed.plain : Record → Keyed Record) := fun _ _ h => congrArg Keyed.value h
      obtain rfl : items = items' := hinj.list_map hchildren
      rfl
    | _ => cases hkind

/-! ### Lists that begin with a walk -/

/-- What a walk shows that enters the record at the given depth and key. -/
def nodesFrom (depth : Nat) (key : Option Key) (r : Record) : List Node :=
  (r.visitsFrom depth key).map Visit.node

lemma nodesFrom_eq (depth : Nat) (key : Option Key) (r : Record) : r.nodesFrom depth key =
    ⟨depth, key, r.kind, r.extent⟩ :: r.children.flatMap fun c => c.value.nodesFrom (depth + 1) c.key := by
  rw [nodesFrom, visitsFrom_eq, List.map_cons, List.map_flatMap]
  rfl

/-- The list is at its end or goes on no deeper than the given depth. -/
def Resumes (depth : Nat) (rest : List Node) : Prop :=
  ∀ n ∈ rest.head?, n.depth ≤ depth

lemma Resumes.append {depth : Nat} {rest : List Node} (h : Resumes depth rest) (parts : List (Keyed Record)) :
    Resumes (depth + 1) ((parts.flatMap fun c => c.value.nodesFrom (depth + 1) c.key) ++ rest) := by
  cases parts with
  | nil => exact fun n hn => Nat.le_succ_of_le (h n hn)
  | cons c parts =>
    rw [List.flatMap_cons, nodesFrom_eq]
    rintro n ⟨⟩
    exact Nat.le_refl (depth + 1)

/-- Nothing that is shown of a part is where the list goes on beside the whole. -/
lemma Resumes.ne_append {depth : Nat} {rest : List Node} (h : Resumes depth rest) (c : Keyed Record)
    (more : List Node) : rest ≠ c.value.nodesFrom (depth + 1) c.key ++ more := by
  rintro rfl
  rw [nodesFrom_eq] at h
  exact Nat.not_succ_le_self depth (h _ rfl)

/-- From a list that begins with what a walk shows of the record and then resumes beside it, the record can be told,
with its key, and so can the rest of the list. -/
def Decodes (r : Record) : Prop :=
  ∀ ⦃s : Record⦄ ⦃depth : Nat⦄ ⦃key key' : Option Key⦄ ⦃rest rest' : List Node⦄, s.Pushed → Resumes depth rest →
    Resumes depth rest' → r.nodesFrom depth key ++ rest = s.nodesFrom depth key' ++ rest' →
    key = key' ∧ r = s ∧ rest = rest'

/-- Several records beside each other can be told if each of them can. -/
lemma decodes_parts {parts parts' : List (Keyed Record)} (hparts : ∀ c ∈ parts, c.value.Decodes)
    (hparts' : ∀ c ∈ parts', c.value.Pushed) {depth : Nat} {rest rest' : List Node} (hrest : Resumes depth rest)
    (hrest' : Resumes depth rest')
    (h : (parts.flatMap fun c => c.value.nodesFrom (depth + 1) c.key) ++ rest =
      (parts'.flatMap fun c => c.value.nodesFrom (depth + 1) c.key) ++ rest') : parts = parts' ∧ rest = rest' := by
  induction parts generalizing parts' with
  | nil =>
    cases parts' with
    | nil => exact ⟨rfl, h⟩
    | cons c' parts' =>
      rw [List.flatMap_cons, List.append_assoc] at h
      -- one list is at its end, where no further part can begin
      exact absurd h (hrest.ne_append c' _)
  | cons c parts ih =>
    cases parts' with
    | nil =>
      rw [List.flatMap_cons, List.append_assoc] at h
      exact absurd h.symm (hrest'.ne_append c _)
    | cons c' parts' =>
      rw [List.forall_mem_cons] at hparts hparts'
      rw [List.flatMap_cons, List.flatMap_cons, List.append_assoc, List.append_assoc] at h
      -- behind the first part, the others followed by the rest resume beside it
      obtain ⟨hkey, hvalue, h⟩ := hparts.1 hparts'.1 (hrest.append parts) (hrest'.append parts') h
      obtain ⟨rfl, rfl⟩ := ih hparts.2 hparts'.2 h
      obtain ⟨key, value⟩ := c
      obtain ⟨key', value'⟩ := c'
      obtain rfl : key = key' := hkey
      obtain rfl : value = value' := hvalue
      exact ⟨rfl, rfl⟩

lemma Pushed.decodes (hr : r.Pushed) : r.Decodes := by
  induction r using Record.inductionOn with
  | step r ih =>
    intro s depth key key' rest rest' hs hrest hrest' h
    rw [nodesFrom_eq, nodesFrom_eq, List.cons_append, List.cons_append, List.cons.injEq, Node.mk.injEq] at h
    -- the first node shows all of the record but its parts
    obtain ⟨⟨-, hkey, hkind, hextent⟩, h⟩ := h
    obtain ⟨hchildren, hrest⟩ := decodes_parts (fun c hc => ih c hc (hr.of_mem_children hc))
      (fun c hc => hs.of_mem_children hc) hrest hrest' h
    exact ⟨hkey, hr.eq_of_children hs hkind hextent hchildren, hrest⟩

lemma Pushed.eq_of_walk_eq (hr : r.Pushed) (hs : s.Pushed) (h : r.walk = s.walk) : r = s := by
  have hnil : Resumes 0 [] := nofun
  have hnodes : r.nodesFrom 0 none ++ [] = s.nodesFrom 0 none ++ [] := congrArg (· ++ []) h
  exact (hr.decodes hs hnil hnil hnodes).2.1

/-! ### Comparing records -/

/-- The place that the index of a record names for a key. -/
def place? : Record → Key → Option Nat
  | all _ roster, key => roster.index.lookup key
  | _, _ => none

/-- The records compare as equal: all the way down they have the same kinds, cursors and keys, and their indexes name
the same places, in whatever order they list them. -/
inductive Alike : Record → Record → Prop
  | intro {r s : Record} (hkind : r.kind = s.kind) (hextent : r.extent = s.extent)
      (hindex : ∀ key, r.place? key = s.place? key)
      (hkeys : r.children.map Keyed.key = s.children.map Keyed.key)
      (hparts : ∀ x ∈ r.children.zip s.children, Alike x.1.value x.2.value) : Alike r s

lemma Alike.refl (r : Record) : r.Alike r := by
  induction r using Record.inductionOn with
  | step r ih =>
    have hsame : List.Forall₂ (fun c d => c.value.Alike d.value) r.children r.children := List.forall₂_same.2 ih
    exact .intro rfl rfl (fun _ => rfl) rfl fun _ hx => (List.forall₂_iff_zip.1 hsame).2 hx

/-- Nothing that a walk shows tells alike records apart. -/
lemma Alike.nodesFrom_eq (h : r.Alike s) (depth : Nat) (key : Option Key) :
    r.nodesFrom depth key = s.nodesFrom depth key := by
  induction h generalizing depth key with
  | @intro r s hkind hextent _ hkeys _ ih =>
    have hkeys : List.Forall₂ (fun c d => c.key = d.key) r.children s.children := by
      rwa [← List.forall₂_eq_eq_eq, List.forall₂_map_left_iff, List.forall₂_map_right_iff] at hkeys
    -- the index is not shown, so it does not matter that the two may list it differently
    have hparts : r.children.map (fun c => c.value.nodesFrom (depth + 1) c.key) =
        s.children.map fun c => c.value.nodesFrom (depth + 1) c.key := by
      rw [← List.forall₂_eq_eq_eq, List.forall₂_map_left_iff, List.forall₂_map_right_iff, List.forall₂_iff_zip]
      refine ⟨hkeys.length_eq, fun {c d} hx => ?_⟩
      have hkey : c.key = d.key := (List.forall₂_iff_zip.1 hkeys).2 hx
      rw [hkey]
      exact ih _ hx (depth + 1) d.key
    rw [Record.nodesFrom_eq, Record.nodesFrom_eq, hkind, hextent, List.flatMap_def, List.flatMap_def, hparts]

/-- Records whose rosters were made by adding items are the same if walks through them show the same, and they are the
same if they compare as equal. -/
theorem walk_eq_walk_iff (hr : r.Pushed) (hs : s.Pushed) :
    (r.walk = s.walk ↔ r.Alike s) ∧ (r.Alike s ↔ r = s) := by
  have hback : r.Alike s → r.walk = s.walk := fun h => h.nodesFrom_eq 0 none
  have hforth : r.walk = s.walk → r = s := hr.eq_of_walk_eq hs
  have hrefl : r = s → r.Alike s := fun h => h ▸ .refl r
  exact ⟨⟨hrefl ∘ hforth, hback⟩, ⟨hforth ∘ hback, hrefl⟩⟩

/-- A span under a key, inside another record under the same key. -/
def nested : Record :=
  let inner := all (.empty 0) ([.named "x" (empty 0)].foldl Roster.push .empty)
  all (.empty 0) ([.named "x" inner].foldl Roster.push .empty)

/-- A span under a key, beside another record under the same key. -/
def sideBySide : Record :=
  let inner := all (.empty 0) ([].foldl Roster.push .empty)
  all (.empty 0) ([.named "x" inner, .named "x" (empty 0)].foldl Roster.push .empty)

lemma nested_pushed : nested.Pushed :=
  .all <| List.forall_mem_singleton.2 <| .all <| List.forall_mem_singleton.2 <| .span _

lemma sideBySide_pushed : sideBySide.Pushed :=
  .all <| List.forall_mem_cons.2 ⟨.all <| List.forall_mem_nil _, List.forall_mem_singleton.2 <| .span _⟩

/-- Walks through the two show the same keys, kinds and cursors in the same order, and only the depths tell them
apart. -/
theorem nested_walk_ne :
    nested.Pushed ∧ sideBySide.Pushed ∧ nested.walk ≠ sideBySide.walk ∧ ¬ nested.Alike sideBySide := by
  have hne : nested ≠ sideBySide := by decide
  obtain ⟨hwalk, halike⟩ := walk_eq_walk_iff nested_pushed sideBySide_pushed
  exact ⟨nested_pushed, sideBySide_pushed, fun h => hne (halike.1 (hwalk.1 h)), fun h => hne (halike.1 h)⟩

/-- The index of a roster is not shown, so that an index which the items do not give goes unnoticed. -/
theorem walk_all_index (e : Extent) (entries : List (Keyed Record)) (index index' : List (Key × Nat)) :
    (all e ⟨entries, index⟩).walk = (all e ⟨entries, index'⟩).walk :=
  (nodesFrom_eq 0 none (all e ⟨entries, index⟩)).trans (nodesFrom_eq 0 none (all e ⟨entries, index'⟩)).symm

end Record

end PegTrace
