/-
Searches for a user id and initial values, while single nodes change. What both depend on is the children,
the user ids and the values; in prepared trees a user id belongs to one node.
-/
import Overlay.Proofs.Element.Prepare

namespace Overlay

open Overlay.Tree

namespace Store

/-! ## A change of one node -/

/-- A change of one node's fields in a forest. -/
theorem forest_update {f : Node → Node} (hf : ∀ n, (f n).children = n.children) (s : Store) (i : NodeId)
    (roots : List NodeId) :
    (s.update i f).forest roots =
      (s.forest roots).map (Tree.map fun j n => if i = j ∧ j < s.size then f n else n) := by
  have hchildren : ∀ j, ((s.update i f).node j).children = (s.node j).children := by
    intro j
    rw [node_update]
    split
    · exact hf _
    · rfl
  rw [forest_of_children hchildren (size_update s i f)]
  refine List.map_congr_left fun t ht => map_congr t fun n hn => ?_
  obtain ⟨r, -, rfl⟩ := List.mem_map.1 ht
  rw [node_update, s.tree_content s.size r n hn]

theorem walk_update {f : Node → Node} (hf : ∀ n, (f n).children = n.children) (s : Store) (i : NodeId)
    (roots : List NodeId) :
    (s.update i f).walk roots =
      (s.walk roots).map fun n => (n.1, if i = n.1 ∧ n.1 < s.size then f n.2 else n.2) := by
  unfold walk
  rw [forest_update hf, flattenAll_map]

/-! ## Searches and initial values -/

theorem findByUserId_eq_some {s : Store} {roots : List NodeId} {id : String} {i : NodeId}
    (h : s.findByUserId roots id = some i) : (i, s.node i) ∈ s.walk roots ∧ (s.node i).userId = some id := by
  obtain ⟨n, hn, rfl⟩ := Option.map_eq_some_iff.1 h
  have hmem := List.mem_of_find?_eq_some hn
  have hid := List.find?_some hn
  rw [← s.walk_content roots n hmem]
  exact ⟨hmem, by simpa using hid⟩

theorem findByUserId_eq_none {s : Store} {roots : List NodeId} {id : String} (h : s.findByUserId roots id = none) :
    ∀ n ∈ s.walk roots, n.2.userId ≠ some id := by
  intro n hn
  simpa using List.find?_eq_none.1 (Option.map_eq_none_iff.1 h) n hn

/-- Only nodes of the store have a user id. -/
theorem lt_size_of_userId {s : Store} {i : NodeId} {id : String} (h : (s.node i).userId = some id) : i < s.size := by
  rcases Nat.lt_or_ge i s.size with hi | hi
  · exact hi
  · rw [node_of_size_le hi] at h
    cases h

/-- A change that leaves children and user ids alone leaves searches alone. -/
theorem findByUserId_update {f : Node → Node} (hc : ∀ n, (f n).children = n.children)
    (hu : ∀ n, (f n).userId = n.userId) (s : Store) (i : NodeId) (roots : List NodeId) (id : String) :
    (s.update i f).findByUserId roots id = s.findByUserId roots id := by
  have hsame : ∀ n : NodeId × Node, (if i = n.1 ∧ n.1 < s.size then f n.2 else n.2).userId = n.2.userId := by
    intro n
    split
    · exact hu _
    · rfl
  unfold findByUserId
  rw [walk_update hc, List.find?_map, Option.map_map]
  simp only [Function.comp_def, hsame]

/-- A change that leaves values alone too leaves initial values alone. -/
theorem initialCache_update {f : Node → Node} (hc : ∀ n, (f n).children = n.children)
    (hu : ∀ n, (f n).userId = n.userId) (hv : ∀ n, (f n).value = n.value) (s : Store) (i : NodeId)
    (roots : List NodeId) : (s.update i f).initialCache roots = s.initialCache roots := by
  have hsame : ∀ n : NodeId × Node,
      initialEntry? (n.1, if i = n.1 ∧ n.1 < s.size then f n.2 else n.2) = initialEntry? n := by
    intro n
    unfold initialEntry?
    split
    · rw [hu, hv]
    · rfl
  unfold initialCache
  rw [walk_update hc, List.filterMap_map]
  simp only [Function.comp_def, hsame]

namespace Prepared

variable {s : Store} {roots : List NodeId}

/-- A user id belongs to one node of prepared trees. -/
theorem eq_of_userId (h : s.Prepared roots) {n m : NodeId × Node} {id : String} (hn : n ∈ s.walk roots)
    (hm : m ∈ s.walk roots) (hni : n.2.userId = some id) (hmi : m.2.userId = some id) : n = m :=
  eq_of_filterMap_nodup h.userIds hn hm hni hmi

end Prepared

end Store

end Overlay
