/-
Trees and walks while the store changes. A change that leaves the children alone changes a tree in
its contents alone. A tree is whole if it ends where the children end and not at a depth; following
the children of a whole tree deeper gives the tree again, so its walk lasts while nodes are created.
-/
import Overlay.Element.Store
import Mathlib.Data.List.Nodup
import Mathlib.Data.List.Forall2

namespace Overlay

/-! ## Contents of trees -/

namespace Tree

mutual

/-- The tree with other contents. -/
def map (f : NodeId → Node → Node) : Tree → Tree
  | node i n ts => node i (f i n) (mapAll f ts)

def mapAll (f : NodeId → Node → Node) : List Tree → List Tree
  | [] => []
  | t :: ts => t.map f :: mapAll f ts

end

theorem mapAll_eq_map (f : NodeId → Node → Node) : ∀ ts : List Tree, mapAll f ts = ts.map (map f)
  | [] => rfl
  | t :: ts => by simp only [mapAll, List.map_cons, mapAll_eq_map f ts]

@[simp] theorem id_map (f : NodeId → Node → Node) : ∀ t : Tree, (t.map f).id = t.id
  | node _ _ _ => rfl

theorem flattenAll_append : ∀ ts us : List Tree, flattenAll (ts ++ us) = flattenAll ts ++ flattenAll us
  | [], _ => rfl
  | t :: ts, us => by simp only [List.cons_append, flattenAll, flattenAll_append ts us, List.append_assoc]

theorem mem_flattenAll {n : NodeId × Node} : ∀ {ts : List Tree}, n ∈ flattenAll ts ↔ ∃ t ∈ ts, n ∈ t.flatten
  | [] => by simp [flattenAll]
  | t :: ts => by simp [flattenAll, @mem_flattenAll n ts]

theorem mem_flatten_node {i : NodeId} {n : Node} {ts : List Tree} {m : NodeId × Node} :
    m ∈ (node i n ts).flatten ↔ m = (i, n) ∨ ∃ t ∈ ts, m ∈ t.flatten := by
  rw [flatten, List.mem_cons, mem_flattenAll]

mutual

theorem flatten_map (f : NodeId → Node → Node) :
    ∀ t : Tree, (t.map f).flatten = t.flatten.map fun n => (n.1, f n.1 n.2)
  | node i n ts => by simp only [map, flatten, List.map_cons, flattenAll_mapAll f ts]

theorem flattenAll_mapAll (f : NodeId → Node → Node) :
    ∀ ts : List Tree, flattenAll (mapAll f ts) = (flattenAll ts).map fun n => (n.1, f n.1 n.2)
  | [] => rfl
  | t :: ts => by
    simp only [mapAll, flattenAll, List.map_append, flatten_map f t, flattenAll_mapAll f ts]

end

theorem flattenAll_map (f : NodeId → Node → Node) (ts : List Tree) :
    flattenAll (ts.map (map f)) = (flattenAll ts).map fun n => (n.1, f n.1 n.2) := by
  rw [← mapAll_eq_map, flattenAll_mapAll]

mutual

/-- Contents that agree on the nodes of a tree give the same tree. -/
theorem map_congr {f g : NodeId → Node → Node} :
    ∀ t : Tree, (∀ n ∈ t.flatten, f n.1 n.2 = g n.1 n.2) → t.map f = t.map g
  | node i n ts, h => by
    have hn : f i n = g i n := h (i, n) (by simp [flatten])
    have hts : mapAll f ts = mapAll g ts := mapAll_congr ts fun m hm => h m (by simp [flatten, hm])
    simp only [map, hn, hts]

theorem mapAll_congr {f g : NodeId → Node → Node} :
    ∀ ts : List Tree, (∀ n ∈ flattenAll ts, f n.1 n.2 = g n.1 n.2) → mapAll f ts = mapAll g ts
  | [], _ => rfl
  | t :: ts, h => by
    have ht : t.map f = t.map g := map_congr t fun n hn => h n (by simp [flattenAll, hn])
    have hts : mapAll f ts = mapAll g ts := mapAll_congr ts fun n hn => h n (by simp [flattenAll, hn])
    simp only [mapAll, ht, hts]

theorem map_map (f g : NodeId → Node → Node) :
    ∀ t : Tree, (t.map f).map g = t.map fun i n => g i (f i n)
  | node i n ts => by simp only [map, mapAll_mapAll f g ts]

theorem mapAll_mapAll (f g : NodeId → Node → Node) :
    ∀ ts : List Tree, mapAll g (mapAll f ts) = mapAll (fun i n => g i (f i n)) ts
  | [] => rfl
  | t :: ts => by simp only [mapAll, map_map f g t, mapAll_mapAll f g ts]

end

mutual

theorem map_id : ∀ t : Tree, (t.map fun _ n => n) = t
  | node i n ts => by rw [Tree.map, mapAll_id ts]

theorem mapAll_id : ∀ ts : List Tree, mapAll (fun _ n => n) ts = ts
  | [] => rfl
  | t :: ts => by rw [mapAll, map_id t, mapAll_id ts]

end

/-- Contents that are those of the tree give the tree again. -/
theorem map_eq_self {f : NodeId → Node → Node} {t : Tree} (h : ∀ n ∈ t.flatten, f n.1 n.2 = n.2) : t.map f = t :=
  (map_congr t h).trans (map_id t)

end Tree

/-! ## The same children -/

namespace Store

open Overlay.Tree

@[simp] theorem id_tree (s : Store) (d : Nat) (i : NodeId) : (s.tree d i).id = i := by
  cases d <;> rfl

/-- A tree holds the nodes of its store. -/
theorem tree_content (s : Store) : ∀ (d : Nat) (i : NodeId), ∀ n ∈ (s.tree d i).flatten, n.2 = s.node n.1
  | 0, i, n, h => by
    simp only [tree, flatten, flattenAll, List.mem_singleton] at h
    rw [h]
  | d + 1, i, n, h => by
    simp only [tree, flatten, List.mem_cons] at h
    rcases h with rfl | h
    · rfl
    · obtain ⟨t, ht, hn⟩ := mem_flattenAll.1 h
      obtain ⟨c, -, rfl⟩ := List.mem_map.1 ht
      exact tree_content s d c n hn

theorem walk_content (s : Store) (roots : List NodeId) : ∀ n ∈ s.walk roots, n.2 = s.node n.1 := by
  intro n h
  obtain ⟨t, ht, hn⟩ := mem_flattenAll.1 h
  obtain ⟨i, -, rfl⟩ := List.mem_map.1 ht
  exact s.tree_content s.size i n hn

/-- Trees of stores with the same children differ in their contents alone. -/
theorem tree_of_children {s s' : Store} (h : ∀ j, (s'.node j).children = (s.node j).children) :
    ∀ (d : Nat) (i : NodeId), s'.tree d i = (s.tree d i).map fun j _ => s'.node j
  | 0, i => by simp only [tree, Tree.map, mapAll]
  | d + 1, i => by
    simp only [tree, Tree.map, mapAll_eq_map, List.map_map, h]
    congr 1
    exact List.map_congr_left fun c _ => tree_of_children h d c

theorem forest_of_children {s s' : Store} (h : ∀ j, (s'.node j).children = (s.node j).children)
    (hs : s'.size = s.size) (roots : List NodeId) :
    s'.forest roots = (s.forest roots).map (Tree.map fun j _ => s'.node j) := by
  unfold forest
  rw [hs, List.map_map]
  exact List.map_congr_left fun c _ => tree_of_children h s.size c

theorem walk_of_children {s s' : Store} (h : ∀ j, (s'.node j).children = (s.node j).children)
    (hs : s'.size = s.size) (roots : List NodeId) :
    s'.walk roots = (s.walk roots).map fun n => (n.1, s'.node n.1) := by
  unfold walk
  rw [forest_of_children h hs, flattenAll_map]

end Store

/-! ## Whole trees -/

/-- A tree over a store that follows the children to their ends. -/
inductive Tree.Whole (s : Store) : Tree → Prop
  | node {i : NodeId} {ts : List Tree} (children : ts.map Tree.id = (s.node i).children)
      (subtrees : ∀ t ∈ ts, Whole s t) : Whole s (.node i (s.node i) ts)

namespace Tree.Whole

open Store

/-- A whole tree with no more nodes than levels allowed is the tree of its root. -/
theorem tree_eq {s : Store} {t : Tree} (h : t.Whole s) :
    ∀ {d : Nat}, t.flatten.length ≤ d + 1 → s.tree d t.id = t := by
  induction h with
  | @node i ts children _ ih =>
    intro d hd
    simp only [flatten, List.length_cons] at hd
    match d with
    | 0 =>
      have hts : ts = [] := by
        match ts with
        | [] => rfl
        | .node _ _ _ :: _ => simp [flattenAll, flatten] at hd
      subst hts
      rfl
    | d + 1 =>
      -- a subtree has fewer nodes, so a level less is enough for it
      have hsub : ∀ t ∈ ts, s.tree d t.id = t := by
        intro t ht
        refine ih t ht ?_
        have : t.flatten.length ≤ (flattenAll ts).length := by
          obtain ⟨us, vs, rfl⟩ := List.append_of_mem ht
          simp only [flattenAll_append, flattenAll, List.length_append]
          omega
        omega
      show Tree.node i (s.node i) ((s.node i).children.map (s.tree d)) = _
      rw [← children, List.map_map]
      congr 1
      exact (List.map_congr_left hsub).trans (List.map_id ts)

/-- While a store keeps the children of a whole tree, the tree changes in its contents alone, however
deep the children are followed. -/
theorem tree_of_children {s s' : Store} {d : Nat} {i : NodeId} (h : (s.tree d i).Whole s)
    (hc : ∀ n ∈ (s.tree d i).flatten, (s'.node n.1).children = (s.node n.1).children) {d' : Nat} (hd : d ≤ d') :
    s'.tree d' i = (s.tree d i).map fun j _ => s'.node j := by
  induction d generalizing i d' with
  | zero =>
    cases h with
    | node children _ =>
      have hnone : (s'.node i).children = [] := by
        rw [hc (i, s.node i) (by simp [tree, flatten]), ← children]
        rfl
      cases d' with
      | zero => simp only [tree, Tree.map, mapAll]
      | succ d' => simp only [tree, Tree.map, mapAll, hnone, List.map_nil]
  | succ d ih =>
    obtain ⟨d', rfl⟩ : ∃ e, d' = e + 1 := ⟨d' - 1, by omega⟩
    cases h with
    | node _ subtrees =>
      have hroot : (s'.node i).children = (s.node i).children := hc (i, s.node i) (by simp [tree, flatten])
      simp only [tree, Tree.map, mapAll_eq_map, List.map_map, hroot]
      congr 1
      refine List.map_congr_left fun c hcm => ih (subtrees _ (List.mem_map_of_mem hcm)) ?_ (by omega)
      intro n hn
      refine hc n ?_
      simp only [tree, flatten, List.mem_cons]
      exact .inr (mem_flattenAll.2 ⟨_, List.mem_map_of_mem hcm, hn⟩)

/-- A whole tree is the same however deep the children are followed. -/
theorem tree_deeper {s : Store} {d : Nat} {i : NodeId} (h : (s.tree d i).Whole s) {d' : Nat} (hd : d ≤ d') :
    s.tree d' i = s.tree d i := by
  rw [h.tree_of_children (fun _ _ => rfl) hd]
  exact Tree.map_eq_self fun n hn => (s.tree_content d i n hn).symm

/-- The tree that is read off a store with the same children is whole there. -/
theorem map_node {s s' : Store} {t : Tree} (h : t.Whole s)
    (hc : ∀ n ∈ t.flatten, (s'.node n.1).children = (s.node n.1).children) :
    (t.map fun j _ => s'.node j).Whole s' := by
  induction h with
  | @node i ts children _ ih =>
    simp only [Tree.map, mapAll_eq_map]
    refine .node ?_ ?_
    · rw [hc (i, s.node i) (by simp [flatten]), ← children, List.map_map]
      exact List.map_congr_left fun t _ => id_map _ t
    · intro t ht
      obtain ⟨u, hu, rfl⟩ := List.mem_map.1 ht
      exact ih u hu fun n hn => hc n (by
        simp only [flatten, List.mem_cons]
        exact .inr (mem_flattenAll.2 ⟨u, hu, hn⟩))

end Tree.Whole

/-! ## Grounded roots -/

namespace Store

open Overlay.Tree

/-- No node below the roots lies below itself, so that their trees are whole. -/
def Grounded (s : Store) (roots : List NodeId) : Prop := ∀ t ∈ s.forest roots, t.Whole s

/-- A list of whole trees with few nodes is the forest of its roots. -/
theorem forest_eq {s : Store} {ts : List Tree} (h : ∀ t ∈ ts, t.Whole s)
    (hs : (flattenAll ts).length ≤ s.size + 1) : s.forest (ts.map Tree.id) = ts := by
  unfold forest
  rw [List.map_map]
  refine (List.map_congr_left fun t ht => ?_).trans (List.map_id ts)
  refine (h t ht).tree_eq ?_
  obtain ⟨us, vs, rfl⟩ := List.append_of_mem ht
  simp only [flattenAll_append, flattenAll, List.length_append] at hs
  omega

theorem Grounded.forest_deeper {s : Store} {roots : List NodeId} (h : s.Grounded roots) {d : Nat} (hd : s.size ≤ d) :
    roots.map (s.tree d) = s.forest roots :=
  List.map_congr_left fun _ hi => (h _ (List.mem_map_of_mem hi)).tree_deeper hd

/-- A later store that keeps the children below grounded roots has the same forest, with its own nodes. -/
theorem Grounded.forest_eq {s s' : Store} {roots : List NodeId} (h : s.Grounded roots) (hs : s.size ≤ s'.size)
    (hc : ∀ n ∈ s.walk roots, (s'.node n.1).children = (s.node n.1).children) :
    s'.forest roots = (s.forest roots).map (Tree.map fun j _ => s'.node j) := by
  unfold forest
  rw [List.map_map]
  refine List.map_congr_left fun i hi => ?_
  have hmem : s.tree s.size i ∈ s.forest roots := List.mem_map_of_mem hi
  exact (h _ hmem).tree_of_children (fun n hn => hc n (mem_flattenAll.2 ⟨_, hmem, hn⟩)) hs

theorem Grounded.walk_eq {s s' : Store} {roots : List NodeId} (h : s.Grounded roots) (hs : s.size ≤ s'.size)
    (hc : ∀ n ∈ s.walk roots, (s'.node n.1).children = (s.node n.1).children) :
    s'.walk roots = (s.walk roots).map fun n => (n.1, s'.node n.1) := by
  unfold walk
  rw [h.forest_eq hs hc, flattenAll_map]

theorem Grounded.of_children {s s' : Store} {roots : List NodeId} (h : s.Grounded roots) (hs : s.size ≤ s'.size)
    (hc : ∀ n ∈ s.walk roots, (s'.node n.1).children = (s.node n.1).children) : s'.Grounded roots := by
  intro t ht
  rw [h.forest_eq hs hc] at ht
  obtain ⟨u, hu, rfl⟩ := List.mem_map.1 ht
  exact (h u hu).map_node fun n hn => hc n (mem_flattenAll.2 ⟨u, hu, hn⟩)

end Store

end Overlay
