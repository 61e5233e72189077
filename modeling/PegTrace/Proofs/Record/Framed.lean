import Mathlib.Data.List.Basic
import Mathlib.Order.Lattice
import Mathlib.Tactic.Common
import PegTrace.Record.Walk

/-!
# Framed records

A record is framed when the cursors of every record that a walk through it meets are in order, none of them lies
before the start, and none lies beyond the reach of the whole, which itself keeps within a limit. Whether a record is
framed can be told from its own cursors and from its parts (`Record.forall_mem_walk_iff`).
-/

namespace PegTrace

/-- The cursors are in order, between the two places. -/
structure Extent.Within (e : Extent) (low high : Nat) : Prop where
  low_le_start : low ≤ e.start
  start_le_stop : e.start ≤ e.stop
  stop_le_reach : e.stop ≤ e.reach
  reach_le_high : e.reach ≤ high

lemma Extent.Within.mono {e : Extent} {low low' high high' : Nat} (h : e.Within low high)
    (hlow : low' ≤ low) (hhigh : high ≤ high') : e.Within low' high' :=
  ⟨hlow.trans h.low_le_start, h.start_le_stop, h.stop_le_reach, h.reach_le_high.trans hhigh⟩

namespace Record

/-! ### Walks and parts -/

/-- A walk meets the same records from wherever it enters. -/
lemma map_record_visitsFrom (depth : Nat) (key : Option Key) (r : Record) :
    (r.visitsFrom depth key).map Visit.record = r.visits.map Visit.record := by
  induction r using Record.inductionOn generalizing depth key with
  | step r ih =>
    rw [visits, visitsFrom_eq, visitsFrom_eq]
    simp only [List.map_cons, List.map_flatMap, List.cons.injEq, true_and]
    apply List.flatMap_congr
    intro c hc
    rw [ih c hc, ih c hc]

/-- The records met are the record itself and those met in its parts. -/
lemma map_record_visits (r : Record) :
    r.visits.map Visit.record = r :: r.children.flatMap fun c => c.value.visits.map Visit.record := by
  rw [visits, visitsFrom_eq, List.map_cons, List.map_flatMap]
  simp only [map_record_visitsFrom]

/-- What a walk shows of cursors is shown by the record and by the walks through its parts. -/
lemma forall_mem_walk_iff (P : Extent → Prop) (r : Record) :
    (∀ n ∈ r.walk, P n.extent) ↔ P r.extent ∧ ∀ c ∈ r.children, ∀ n ∈ c.value.walk, P n.extent := by
  have hwalk : ∀ s : Record, (∀ n ∈ s.walk, P n.extent) ↔ ∀ t ∈ s.visits.map Visit.record, P t.extent := by
    intro s
    simp [walk, Visit.node]
  simp only [hwalk]
  rw [map_record_visits]
  simp only [List.forall_mem_cons, List.forall_mem_flatMap]

/-! ### Frames -/

/-- The record starts at `start` and reaches no farther than `limit`, and every record met on a walk through it has its
cursors in order between the start and the reach of the whole. -/
structure Framed (r : Record) (start limit : Nat) : Prop where
  start_eq : r.start = start
  reach_le : r.reach ≤ limit
  within : ∀ n ∈ r.walk, n.extent.Within start r.reach

namespace Framed

variable {r : Record} {start limit : Nat}

lemma root (h : r.Framed start limit) : r.extent.Within start r.reach :=
  ((forall_mem_walk_iff (Extent.Within · start r.reach) r).1 h.within).1

lemma start_le_stop (h : r.Framed start limit) : start ≤ r.stop :=
  h.root.low_le_start.trans h.root.start_le_stop

lemma stop_le_reach (h : r.Framed start limit) : r.stop ≤ r.reach :=
  h.root.stop_le_reach

lemma mono {limit' : Nat} (h : r.Framed start limit) (hle : limit ≤ limit') : r.Framed start limit' :=
  ⟨h.start_eq, h.reach_le.trans hle, h.within⟩

/-- A record without parts is framed by cursors in order. -/
lemma span {stop reach : Nat} (h₁ : start ≤ stop) (h₂ : stop ≤ reach) (h₃ : reach ≤ limit) :
    (Record.span ⟨start, stop, reach⟩).Framed start limit where
  start_eq := rfl
  reach_le := h₃
  within := (forall_mem_walk_iff (Extent.Within · start reach) _).2
    ⟨⟨Nat.le_refl start, h₁, h₂, Nat.le_refl reach⟩, by simp [children]⟩

end Framed

end Record

end PegTrace
