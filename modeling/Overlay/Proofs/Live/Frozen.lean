/-
Frozen trees. From one replacement of the trees to the next, the live nodes keep their ids, whatever is done. They keep
their children, listeners and hooks as well, unless something is appended to an open node that holds one of their lists:
its seal does not guard the list but the node by which it is reached.
-/
import Overlay.Proofs.Live.Session

namespace Overlay

namespace Live

/-- A step appends to a list that a live node holds. -/
def Step.Touches (l : Live) (st : Step) : Prop :=
  ∃ a ∈ st.appended l, ∃ j, l.Lives j ∧ l.world.store.Holds a.1 a.2 j

/-- Steps of which none appends to a list of a live node. -/
def LeavesLists : Live → List Step → Prop
  | _, [] => True
  | l, st :: ss => ¬ st.Touches l ∧ LeavesLists (st.after l) ss

variable {l l' : Live} {st : Step} {ss : List Step}

/-! ## One step -/

namespace Sound

theorem held_eq_iff (h : l.Sound) {j : NodeId} (hj : l.Lives j) :
    ((st.after l).world.store.node j).held = (l.world.store.node j).held ↔
      ∀ a ∈ st.appended l, ¬ l.world.store.Holds a.1 a.2 j :=
  (st.receives l).held_eq_iff (h.lt_size hj)

/-- A step that touches no list of a live node leaves in these lists what was there. -/
theorem held_eq (h : l.Sound) (ht : ¬ st.Touches l) {j : NodeId} (hj : l.Lives j) :
    ((st.after l).world.store.node j).held = (l.world.store.node j).held :=
  (h.held_eq_iff hj).2 fun a ha hholds => ht ⟨a, ha, j, hj, hholds⟩

theorem spares_of_not_touches (h : l.Sound) (ht : ¬ st.Touches l) : st.Spares l :=
  fun _ hj => congrArg Held.children (h.held_eq ht hj)

end Sound

/-! ## Runs -/

/-- No steps take an id from a node that is frozen. -/
theorem AllNamed.identity_eq (hn : l.AllNamed ss) {i : NodeId} (hi : (l.world.store.node i).Frozen) :
    ((l.afterSteps ss).world.store.node i).identity = (l.world.store.node i).identity := by
  induction ss generalizing l with
  | nil => rfl
  | cons st ss ih =>
    have hk := Step.keeps hn.1
    exact (ih hn.2 (hk.frozen hi)).trans (hk.identity i hi)

theorem Sound.afterSteps (h : l.Sound) (hn : l.AllNamed ss) (hleaves : l.LeavesLists ss) : (l.afterSteps ss).Sound := by
  induction ss generalizing l with
  | nil => exact h
  | cons st ss ih => exact ih (h.step st hn.1 (h.spares_of_not_touches hleaves.1)) hn.2 hleaves.2

end Live

namespace Live

end Live

end Overlay
