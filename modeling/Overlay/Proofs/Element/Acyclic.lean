/-
Graphs without cycles. A way down from node to child that comes to no node twice has no more nodes than the
store. So where no node lies below itself, the trees below the roots end where the children end, and the walk
through them comes to everything that is below the roots.
-/
import Overlay.Proofs.Element.Ownership
import Mathlib.Logic.Relation

namespace Overlay

namespace Store

/-- One node lies somewhere below another. -/
def Below (s : Store) : NodeId → NodeId → Prop := Relation.TransGen fun i c => c ∈ (s.node i).children

/-- No node that is reached from the roots lies below itself. -/
def Acyclic (s : Store) (roots : List NodeId) : Prop := ∀ i, s.Reached roots i → ¬ s.Below i i

variable {s : Store} {roots : List NodeId}

theorem Reached.child {i c : NodeId} (h : s.Reached roots i) (hc : c ∈ (s.node i).children) : s.Reached roots c := by
  obtain ⟨place, lister, hat⟩ := h
  obtain ⟨k, hk⟩ := List.getElem?_of_mem hc
  exact ⟨k :: place, some i, .child hat hk⟩

theorem Reached.lt_size (hc : s.Closed) (hr : ∀ i ∈ roots, i < s.size) {i : NodeId} (h : s.Reached roots i) :
    i < s.size := by
  obtain ⟨place, lister, hat⟩ := h
  exact hat.lt_size hc hr

theorem Reached.of_mem_tree : ∀ {d : Nat} {i : NodeId}, s.Reached roots i →
    ∀ n ∈ (s.tree d i).flatten, s.Reached roots n.1
  | 0, i, h, n, hn => by
    rcases Tree.mem_flatten_node.1 hn with rfl | ⟨t, ht, -⟩
    · exact h
    · cases ht
  | d + 1, i, h, n, hn => by
    rcases Tree.mem_flatten_node.1 hn with rfl | ⟨t, ht, hn⟩
    · exact h
    · obtain ⟨c, hc, rfl⟩ := List.mem_map.1 ht
      exact Reached.of_mem_tree (h.child hc) n hn

theorem reached_of_mem_walk {n : NodeId × Node} (hn : n ∈ s.walk roots) : s.Reached roots n.1 := by
  obtain ⟨t, ht, hn⟩ := Tree.mem_flattenAll.1 hn
  obtain ⟨i, hi, rfl⟩ := List.mem_map.1 ht
  obtain ⟨k, hk⟩ := List.getElem?_of_mem hi
  exact Reached.of_mem_tree ⟨[k], none, .root hk⟩ n hn

/-- Where children come after the node that lists them, no node lies below itself. -/
theorem acyclic_of_rising (h : ∀ i, ∀ c ∈ (s.node i).children, i < c) : s.Acyclic roots := by
  have hbelow : ∀ {i j : NodeId}, s.Below i j → i < j := by
    intro i j hij
    induction hij with
    | single hc => exact h _ _ hc
    | tail _ hc ih => exact Nat.lt_trans ih (h _ _ hc)
  exact fun i _ hii => Nat.lt_irrefl i (hbelow hii)

/-- The tree of a node is whole if it is followed as deep as there are nodes that are not above it. -/
theorem Acyclic.whole_tree (ha : s.Acyclic roots) (hc : s.Closed) (hr : ∀ i ∈ roots, i < s.size) :
    ∀ {d : Nat} {i : NodeId} (above : List NodeId), s.Reached roots i → above.Nodup →
      (∀ a ∈ above, s.Reached roots a ∧ s.Below a i) → s.size ≤ above.length + d → (s.tree d i).Whole s := by
  intro d
  induction d with
  | zero =>
    intro i above hi hnd habove hsize
    -- the node and those above it would be more nodes than there are
    have hfresh : i ∉ above := fun hmem => ha i hi (habove i hmem).2
    have hlt : ∀ a ∈ i :: above, a < s.size := by
      intro a hmem
      rcases List.mem_cons.1 hmem with rfl | hmem
      · exact hi.lt_size hc hr
      · exact (habove a hmem).1.lt_size hc hr
    have hlen := length_le_of_nodup (List.nodup_cons.2 ⟨hfresh, hnd⟩) hlt
    rw [List.length_cons] at hlen
    omega
  | succ d ih =>
    intro i above hi hnd habove hsize
    have hfresh : i ∉ above := fun hmem => ha i hi (habove i hmem).2
    refine .node (by simp [Function.comp_def]) fun t ht => ?_
    obtain ⟨c, hmem, rfl⟩ := List.mem_map.1 ht
    refine ih (i :: above) (hi.child hmem) (List.nodup_cons.2 ⟨hfresh, hnd⟩) (fun a ha' => ?_) ?_
    · rcases List.mem_cons.1 ha' with rfl | ha'
      · exact ⟨hi, .single hmem⟩
      · exact ⟨(habove a ha').1, .tail (habove a ha').2 hmem⟩
    · rw [List.length_cons]
      omega

/-- Below roots without cycles all trees are whole. -/
theorem Acyclic.grounded (ha : s.Acyclic roots) (hc : s.Closed) (hr : ∀ i ∈ roots, i < s.size) :
    s.Grounded roots := by
  intro t ht
  obtain ⟨i, hi, rfl⟩ := List.mem_map.1 ht
  obtain ⟨k, hk⟩ := List.getElem?_of_mem hi
  exact ha.whole_tree hc hr [] ⟨[k], none, .root hk⟩ List.nodup_nil (by simp) (by simp)

end Store

end Overlay
