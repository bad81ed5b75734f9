/-
Collecting the nodes below some roots. A collection that succeeds has seen every node of the roots'
trees, in document order and once; so no node of these trees lies below itself.
-/
import Overlay.Element.Prepare
import Overlay.Proofs.Element.Tree

namespace Overlay

open Overlay.Tree

/-- Children name nodes of the store. -/
def Store.Closed (s : Store) : Prop := ∀ i, ∀ c ∈ (s.node i).children, c < s.size

/-- A store is closed if the children of each of its nodes are there. -/
theorem Store.closed_of_nodes {s : Store} (h : ∀ n ∈ s.nodes.toList, ∀ c ∈ n.children, c < s.size) : s.Closed := by
  intro i c hc
  have hi : i < s.size := by
    by_contra hle
    rw [s.children_of_size_le (Nat.le_of_not_lt hle)] at hc
    cases hc
  have hnode : s.node i = s.nodes[i] := by
    simp [node, Array.getD_eq_getD_getElem?, Array.getElem?_eq_getElem hi]
  refine h (s.node i) ?_ c hc
  rw [hnode]
  exact Array.mem_toList_iff.2 (Array.getElem_mem hi)

theorem Tree.Whole.lt_size {s : Store} (hc : s.Closed) {t : Tree} (h : t.Whole s) (ht : t.id < s.size) :
    ∀ n ∈ t.flatten, n.1 < s.size := by
  induction h with
  | @node i ts children _ ih =>
    intro n hn
    simp only [flatten, List.mem_cons] at hn
    rcases hn with rfl | hn
    · exact ht
    · obtain ⟨u, hu, hn⟩ := mem_flattenAll.1 hn
      have hid : u.id ∈ (s.node i).children := children ▸ List.mem_map_of_mem hu
      exact ih u hu (hc i _ hid) n hn

/-- Numbers below a bound that do not repeat are no more than the bound. -/
theorem length_le_of_nodup {l : List Nat} {n : Nat} (h : l.Nodup) (hl : ∀ a ∈ l, a < n) : l.length ≤ n := by
  have hsub : l ⊆ List.range n := fun a ha => List.mem_range.2 (hl a ha)
  simpa using List.Nodup.length_le_of_subset h hsub

/-- What a collection gives: the nodes seen before and then the trees of those still to visit. -/
theorem collect_trees (s : Store) (todo : List (NodeId × Option NodeId)) (seen : List NodeId) :
    ∀ {ids : List NodeId}, collect s todo seen = .ok ids → seen.Nodup →
      ids.Nodup ∧ ∃ ts : List Tree, ts.map Tree.id = todo.map Prod.fst ∧ (∀ t ∈ ts, t.Whole s) ∧
        ids = seen.reverse ++ (flattenAll ts).map Prod.fst := by
  induction todo, seen using collect.induct s with
  | case1 seen =>
    intro ids h hs
    simp only [collect, Except.ok.injEq] at h
    subst h
    exact ⟨List.nodup_reverse.2 hs, [], rfl, by simp, by simp [flattenAll]⟩
  | case2 i lister todo seen hi =>
    intro ids h
    simp [collect, hi] at h
  | case3 i lister todo seen hi hp =>
    intro ids h
    simp [collect, hi, hp] at h
  | case4 i lister todo seen hi hp ih =>
    intro ids h hs
    rw [collect, if_neg hi, if_neg hp] at h
    obtain ⟨hnd, ts, hids, hw, rfl⟩ := ih h (List.nodup_cons.2 ⟨hi, hs⟩)
    refine ⟨hnd, ?_⟩
    -- the first trees are those of the children, which make one tree with the node itself
    have hsplit : ts.map Tree.id = (s.node i).children ++ todo.map Prod.fst := by
      rw [hids]; simp [Function.comp_def]
    obtain ⟨us, vs, rfl, hu, hv⟩ := List.map_eq_append_iff.1 hsplit
    refine ⟨.node i (s.node i) us :: vs, by simp [hv, Tree.id], ?_, ?_⟩
    · intro t ht
      rcases List.mem_cons.1 ht with rfl | ht
      · exact .node hu fun u hu' => hw u (List.mem_append_left _ hu')
      · exact hw t (List.mem_append_right _ ht)
    · simp [flattenAll, flatten, flattenAll_append]

/-- A collection below roots of the store that succeeds gives their walk, without a repetition. -/
theorem collect_ok {s : Store} {roots ids : List NodeId} (hc : s.Closed) (hr : ∀ i ∈ roots, i < s.size)
    (h : collect s (roots.map (·, none)) [] = .ok ids) :
    s.Grounded roots ∧ ids = (s.walk roots).map Prod.fst ∧ ids.Nodup ∧ ∀ i ∈ ids, i < s.size := by
  obtain ⟨hnd, ts, hids, hw, rfl⟩ := collect_trees s _ _ h List.nodup_nil
  have hroots : ts.map Tree.id = roots := by rw [hids]; simp [Function.comp_def]
  have hlt : ∀ i ∈ (flattenAll ts).map Prod.fst, i < s.size := by
    intro i hi
    obtain ⟨n, hn, rfl⟩ := List.mem_map.1 hi
    obtain ⟨t, ht, hn⟩ := mem_flattenAll.1 hn
    exact (hw t ht).lt_size hc (hr _ (hroots ▸ List.mem_map_of_mem ht)) n hn
  have hlen : (flattenAll ts).length ≤ s.size := by
    simpa using length_le_of_nodup (by simpa using hnd) hlt
  have hforest : s.forest roots = ts := hroots ▸ Store.forest_eq hw (by omega)
  refine ⟨by unfold Store.Grounded; rw [hforest]; exact hw, ?_, by simpa using hnd, by simpa using hlt⟩
  unfold Store.walk
  rw [hforest]
  simp

end Overlay
