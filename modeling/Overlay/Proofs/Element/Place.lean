/-
Places below roots. A place is a way down: the position of a root, then positions among children. In a
graph that is no forest a node is at several places, at infinitely many if it lies on a cycle. A collection
goes through exactly if no node is at two places and none has a parent other than the node that lists it
there; whatever the graph, it ends before it has visited more nodes than there are.
-/
import Overlay.Proofs.Element.Collect
import Mathlib.Data.List.Pairwise

namespace Overlay

namespace Store

/-! ## Places -/

/-- The node at a place and the node that lists it there; a root has no lister. The position among the
nearest siblings comes first. -/
inductive At (s : Store) (roots : List NodeId) : List Nat → Option NodeId → NodeId → Prop
  | root {k : Nat} {i : NodeId} (h : roots[k]? = some i) : At s roots [k] none i
  | child {place : List Nat} {lister : Option NodeId} {i c : NodeId} {k : Nat} (above : At s roots place lister i)
    (h : (s.node i).children[k]? = some c) : At s roots (k :: place) (some i) c

/-- A node is at some place. -/
def Reached (s : Store) (roots : List NodeId) (i : NodeId) : Prop := ∃ place lister, s.At roots place lister i

/-- A node is at two places: it is listed twice, by two nodes, or on a cycle. -/
def ReachedTwice (s : Store) (roots : List NodeId) : Prop :=
  ∃ i place place' lister lister', place ≠ place' ∧ s.At roots place lister i ∧ s.At roots place' lister' i

/-- A node has a parent that is not its lister. -/
def Foreign (s : Store) (lister : Option NodeId) (i : NodeId) : Prop :=
  (s.node i).parent.isSome ∧ (s.node i).parent ≠ lister

/-- A node is at a place where another node than its parent lists it. -/
def ReachedForeign (s : Store) (roots : List NodeId) : Prop :=
  ∃ place lister i, s.At roots place lister i ∧ s.Foreign lister i

variable {s : Store} {roots : List NodeId}

/-- There is one node at a place. -/
theorem At.unique {place : List Nat} {lister lister' : Option NodeId} {i j : NodeId} (h : s.At roots place lister i)
    (h' : s.At roots place lister' j) : lister = lister' ∧ i = j := by
  induction h generalizing lister' j with
  | root hi =>
    cases h' with
    | root hj => exact ⟨rfl, Option.some.inj (hi.symm.trans hj)⟩
    | child above _ => cases above
  | @child place lister i c k above hc ih =>
    cases h' with
    | root _ => cases above
    | child above' hc' =>
      obtain ⟨-, rfl⟩ := ih above'
      exact ⟨rfl, Option.some.inj (hc.symm.trans hc')⟩

/-- Stores with the same children have the same nodes at the same places. -/
theorem At.of_children {s' : Store} (hc : ∀ i, (s'.node i).children = (s.node i).children) {place : List Nat}
    {lister : Option NodeId} {i : NodeId} (h : s.At roots place lister i) : s'.At roots place lister i := by
  induction h with
  | root h => exact .root h
  | child _ h ih => exact .child ih (by rw [hc]; exact h)

/-! ## What nodes list -/

/-- The children of a node, each with the node. -/
def listings (s : Store) (i : NodeId) : List (NodeId × Option NodeId) := (s.node i).children.map (·, some i)

/-- What the roots and some visited nodes list. -/
def allListings (s : Store) (roots : List NodeId) (visited : List (NodeId × Option NodeId)) :
    List (NodeId × Option NodeId) :=
  roots.map (·, none) ++ visited.flatMap fun e => s.listings e.1

theorem mem_allListings_root {visited : List (NodeId × Option NodeId)} {i : NodeId} (h : i ∈ roots) :
    (i, none) ∈ s.allListings roots visited :=
  List.mem_append_left _ (List.mem_map_of_mem h)

theorem mem_allListings_child {visited : List (NodeId × Option NodeId)} {e : NodeId × Option NodeId} {c : NodeId}
    (he : e ∈ visited) (hc : c ∈ (s.node e.1).children) : (c, some e.1) ∈ s.allListings roots visited :=
  List.mem_append_right _ (List.mem_flatMap.2 ⟨e, he, List.mem_map_of_mem hc⟩)

theorem fst_allListings (s : Store) (roots : List NodeId) (visited : List (NodeId × Option NodeId)) :
    (s.allListings roots visited).map Prod.fst =
      roots ++ (visited.map Prod.fst).flatMap fun i => (s.node i).children := by
  simp [allListings, listings, List.map_flatMap, List.flatMap_map, Function.comp_def]

/-- A list in which no two positions have one element does not repeat. -/
theorem nodup_of_positions {α : Type} {l : List α}
    (h : ∀ (k k' : Nat) (a : α), l[k]? = some a → l[k']? = some a → k = k') : l.Nodup := by
  refine List.nodup_iff_getElem?_ne_getElem?.2 fun k k' hk hk' he => ?_
  have hl := List.getElem?_eq_getElem hk'
  have hsame := h k k' _ (he.trans hl) hl
  omega

theorem position_unique {α : Type} {l : List α} (h : l.Nodup) {k k' : Nat} {a : α} (hk : l[k]? = some a)
    (hk' : l[k']? = some a) : k = k' := by
  obtain ⟨hlt, -⟩ := List.getElem?_eq_some_iff.1 hk
  exact (List.getElem?_inj hlt h).1 (hk.trans hk'.symm)

/-- Where no node is at two places, reached nodes that do not repeat list no node twice. -/
theorem nodup_allListings (hs : ¬ s.ReachedTwice roots) {visited : List (NodeId × Option NodeId)}
    (hv : ∀ e ∈ visited, ∃ place, s.At roots place e.2 e.1) (hnd : (visited.map Prod.fst).Nodup) :
    ((s.allListings roots visited).map Prod.fst).Nodup := by
  have hat : ∀ i ∈ visited.map Prod.fst, ∃ place lister, s.At roots place lister i := by
    intro i hi
    obtain ⟨e, he, rfl⟩ := List.mem_map.1 hi
    obtain ⟨place, hp⟩ := hv e he
    exact ⟨place, e.2, hp⟩
  have hone : ∀ {i place place' lister lister'}, s.At roots place lister i → s.At roots place' lister' i →
      place = place' := by
    intro i place place' lister lister' h h'
    by_contra hne
    exact hs ⟨i, place, place', lister, lister', hne, h, h'⟩
  rw [fst_allListings]
  refine List.nodup_append.2 ⟨?_, List.nodup_flatMap.2 ⟨?_, ?_⟩, ?_⟩
  · exact nodup_of_positions fun k k' i hk hk' => (List.cons.inj (hone (.root hk) (.root hk'))).1
  · intro i hi
    obtain ⟨place, lister, hp⟩ := hat i hi
    exact nodup_of_positions fun k k' c hk hk' => (List.cons.inj (hone (.child hp hk) (.child hp hk'))).1
  · refine hnd.imp_of_mem fun {i j} hi hj hij c hci hcj => ?_
    obtain ⟨k, hk⟩ := List.getElem?_of_mem hci
    obtain ⟨k', hk'⟩ := List.getElem?_of_mem hcj
    obtain ⟨place, lister, hp⟩ := hat i hi
    obtain ⟨place', lister', hp'⟩ := hat j hj
    have hsame := hone (.child hp hk) (.child hp' hk')
    obtain ⟨-, rfl⟩ := List.cons.inj hsame
    exact hij (hp.unique hp').2
  · rintro c hc d hd rfl
    obtain ⟨i, hi, hci⟩ := List.mem_flatMap.1 hd
    obtain ⟨k, hk⟩ := List.getElem?_of_mem hc
    obtain ⟨k', hk'⟩ := List.getElem?_of_mem hci
    obtain ⟨place, lister, hp⟩ := hat i hi
    obtain ⟨-, rfl⟩ := List.cons.inj (hone (.root hk) (.child hp hk'))
    cases hp

/-! ## Searches -/

/-- A search under way. What it has visited and what it has still to visit are what the roots and the
visited nodes list; all of it is reached, and what is visited is there once and has no foreign parent. -/
structure Search (s : Store) (roots : List NodeId) (visited todo : List (NodeId × Option NodeId)) : Prop where
  listed : (visited ++ todo).Perm (s.allListings roots visited)
  reached : ∀ e ∈ visited ++ todo, ∃ place, s.At roots place e.2 e.1
  once : (visited.map Prod.fst).Nodup
  owned : ∀ e ∈ visited, ¬ s.Foreign e.2 e.1

namespace Search

variable {visited todo : List (NodeId × Option NodeId)} {e : NodeId × Option NodeId}

theorem start (s : Store) (roots : List NodeId) : s.Search roots [] (roots.map (·, none)) where
  listed := by simp [Store.allListings]
  reached := by
    intro e he
    obtain ⟨i, hi, rfl⟩ := List.mem_map.1 he
    obtain ⟨k, hk⟩ := List.getElem?_of_mem hi
    exact ⟨[k], .root hk⟩
  once := List.nodup_nil
  owned := by simp

/-- A visit adds a node to those visited and its children to those still to visit. -/
theorem visit (h : s.Search roots visited (e :: todo)) (hi : e.1 ∉ visited.map Prod.fst) (ho : ¬ s.Foreign e.2 e.1) :
    s.Search roots (e :: visited) (s.listings e.1 ++ todo) where
  listed := by
    have hmove : (e :: visited ++ (s.listings e.1 ++ todo)).Perm (s.listings e.1 ++ (visited ++ e :: todo)) :=
      (List.perm_append_comm_assoc ..).trans (List.perm_middle.symm.append_left _)
    refine hmove.trans ((h.listed.append_left _).trans ?_)
    rw [Store.allListings, Store.allListings, List.flatMap_cons]
    exact List.perm_append_comm_assoc ..
  reached := by
    intro d hd
    rcases List.mem_append.1 hd with hd | hd
    · exact h.reached d (by rcases List.mem_cons.1 hd with rfl | hd <;> simp [*])
    rcases List.mem_append.1 hd with hd | hd
    · obtain ⟨place, hp⟩ := h.reached e (by simp)
      obtain ⟨c, hc, rfl⟩ := List.mem_map.1 hd
      obtain ⟨k, hk⟩ := List.getElem?_of_mem hc
      exact ⟨k :: place, .child hp hk⟩
    · exact h.reached d (by simp [hd])
  once := List.nodup_cons.2 ⟨hi, h.once⟩
  owned := by
    intro d hd
    rcases List.mem_cons.1 hd with rfl | hd
    · exact ho
    · exact h.owned d hd

/-- While a search meets no node twice, the next node is not among those visited. -/
theorem not_mem (h : s.Search roots visited (e :: todo)) (hs : ¬ s.ReachedTwice roots) :
    e.1 ∉ visited.map Prod.fst := by
  have hnd := nodup_allListings hs (fun e he => h.reached e (List.mem_append_left _ he)) h.once
  rw [(h.listed.map Prod.fst).nodup_iff.symm, List.map_append, List.map_cons] at hnd
  intro hi
  exact (List.nodup_append.1 hnd).2.2 _ hi _ (List.mem_cons_self ..) rfl

/-- A node that is met again is at two places. -/
theorem reachedTwice (h : s.Search roots visited (e :: todo)) (hi : e.1 ∈ visited.map Prod.fst) :
    s.ReachedTwice roots := by
  by_contra hs
  exact h.not_mem hs hi

variable {done : List (NodeId × Option NodeId)}

/-- A search that is over has visited every place. -/
theorem mem_of_at (h : s.Search roots done []) {place : List Nat} {lister : Option NodeId} {i : NodeId}
    (hp : s.At roots place lister i) : (i, lister) ∈ done := by
  have hmem : ∀ e, e ∈ s.allListings roots done → e ∈ done := by
    intro e he
    simpa using h.listed.mem_iff.2 he
  induction hp with
  | root hi => exact hmem _ (mem_allListings_root (List.mem_of_getElem? hi))
  | child _ hc ih => exact hmem _ (mem_allListings_child ih (List.mem_of_getElem? hc))

/-- A search that is over has met no node twice. -/
theorem not_reachedTwice (h : s.Search roots done []) : ¬ s.ReachedTwice roots := by
  have hnd : ((s.allListings roots done).map Prod.fst).Nodup := by
    rw [(h.listed.map Prod.fst).nodup_iff.symm]
    simpa using h.once
  rw [fst_allListings] at hnd
  obtain ⟨hroots, hchildren, hapart⟩ := List.nodup_append.1 hnd
  obtain ⟨hsiblings, hcousins⟩ := List.nodup_flatMap.1 hchildren
  have hdone : ∀ {place lister i}, s.At roots place lister i → i ∈ done.map Prod.fst := fun hp =>
    List.mem_map.2 ⟨_, h.mem_of_at hp, rfl⟩
  -- the place of a node is the position in the one list that has it, below the place of its lister
  have hone : ∀ {place lister i}, s.At roots place lister i → ∀ {place' lister'}, s.At roots place' lister' i →
      place = place' := by
    intro place lister i hp
    induction hp with
    | root hi =>
      intro place' lister' hp'
      cases hp' with
      | root hi' => rw [position_unique hroots hi hi']
      | child above hc =>
        refine absurd rfl (hapart _ (List.mem_of_getElem? hi) _ (List.mem_flatMap.2 ⟨_, hdone above, ?_⟩))
        exact List.mem_of_getElem? hc
    | @child place lister p c k above hc ih =>
      intro place' lister' hp'
      cases hp' with
      | root hi =>
        refine absurd rfl (hapart _ (List.mem_of_getElem? hi) _ (List.mem_flatMap.2 ⟨_, hdone above, ?_⟩))
        exact List.mem_of_getElem? hc
      | @child place' lister' p' _ k' above' hc' =>
        obtain rfl : p = p' := by
          by_contra hne
          have : Std.Symm (Function.onFun List.Disjoint fun i => (s.node i).children) :=
            ⟨fun _ _ hd _ hx hy => hd hy hx⟩
          have hdisjoint := hcousins.forall (hdone above) (hdone above') hne
          exact hdisjoint (List.mem_of_getElem? hc) (List.mem_of_getElem? hc')
        rw [ih above', position_unique (hsiblings p (hdone above)) hc hc']
  rintro ⟨i, place, place', lister, lister', hne, hp, hp'⟩
  exact hne (hone hp hp')

theorem not_reachedForeign (h : s.Search roots done []) : ¬ s.ReachedForeign roots := by
  rintro ⟨place, lister, i, hp, hf⟩
  exact h.owned _ (h.mem_of_at hp) hf

theorem mem_iff (h : s.Search roots done []) (i : NodeId) : i ∈ done.map Prod.fst ↔ s.Reached roots i := by
  constructor
  · intro hi
    obtain ⟨e, he, rfl⟩ := List.mem_map.1 hi
    obtain ⟨place, hp⟩ := h.reached e (by simpa using he)
    exact ⟨place, e.2, hp⟩
  · rintro ⟨place, lister, hp⟩
    exact List.mem_map.2 ⟨_, h.mem_of_at hp, rfl⟩

end Search

end Store

/-! ## Collections -/

open Store

variable {s : Store} {roots : List NodeId}

/-- What a collection comes to: it has visited everything, or it stands before a node that it has visited
or that has a foreign parent. -/
theorem collect_search {visited todo : List (NodeId × Option NodeId)} (h : s.Search roots visited todo) :
    (∃ done, s.Search roots done [] ∧ collect s todo (visited.map Prod.fst) = .ok (done.map Prod.fst).reverse) ∨
    (∃ i, s.ReachedTwice roots ∧ collect s todo (visited.map Prod.fst) = .error (.reachedTwice (s.node i).label)) ∨
    (∃ i, s.ReachedForeign roots ∧
      collect s todo (visited.map Prod.fst) = .error (.foreignParent (s.node i).label)) := by
  generalize hseen : visited.map Prod.fst = seen
  induction todo, seen using collect.induct s generalizing visited with
  | case1 seen => exact .inl ⟨visited, h, by rw [collect, hseen]⟩
  | case2 i lister todo seen hi =>
    exact .inr (.inl ⟨i, h.reachedTwice (hseen ▸ hi), by rw [collect, if_pos hi]⟩)
  | case3 i lister todo seen hi hp =>
    obtain ⟨place, hat⟩ := h.reached (i, lister) (by simp)
    exact .inr (.inr ⟨i, ⟨place, lister, i, hat, hp⟩, by rw [collect, if_neg hi, if_pos hp]⟩)
  | case4 i lister todo seen hi hp ih =>
    rw [collect, if_neg hi, if_neg hp]
    exact ih (h.visit (hseen ▸ hi) hp) (by rw [List.map_cons, hseen])

/-- What a collection gives is what is reached. -/
theorem mem_collect_iff {ids : List NodeId} (h : collect s (roots.map (·, none)) [] = .ok ids) (i : NodeId) :
    i ∈ ids ↔ s.Reached roots i := by
  rcases collect_search (Search.start s roots) with ⟨done, hdone, hok⟩ | ⟨j, -, herr⟩ | ⟨j, -, herr⟩
  · rw [List.map_nil, h] at hok
    cases hok
    rw [List.mem_reverse, hdone.mem_iff]
  · rw [List.map_nil, h] at herr
    cases herr
  · rw [List.map_nil, h] at herr
    cases herr

/-! ## Places below grounded roots -/

theorem Tree.Whole.root_mem {t : Tree} (h : t.Whole s) : (t.id, s.node t.id) ∈ t.flatten := by
  cases h with
  | node _ _ => exact Tree.mem_flatten_node.2 (.inl rfl)

/-- What a node of a whole tree lists is in the tree. -/
theorem Tree.Whole.child_mem {t : Tree} (h : t.Whole s) :
    ∀ n ∈ t.flatten, ∀ c ∈ (s.node n.1).children, (c, s.node c) ∈ t.flatten := by
  induction h with
  | @node i ts children subtrees ih =>
    intro n hn c hc
    rcases Tree.mem_flatten_node.1 hn with rfl | ⟨t, ht, hn⟩
    · dsimp only at hc
      rw [← children] at hc
      obtain ⟨t, ht, rfl⟩ := List.mem_map.1 hc
      exact Tree.mem_flatten_node.2 (.inr ⟨t, ht, (subtrees t ht).root_mem⟩)
    · exact Tree.mem_flatten_node.2 (.inr ⟨t, ht, ih t ht n hn c hc⟩)

/-- The walk below grounded roots comes to every place. -/
theorem Store.Grounded.mem_walk (h : s.Grounded roots) {place : List Nat} {lister : Option NodeId} {i : NodeId}
    (hp : s.At roots place lister i) : (i, s.node i) ∈ s.walk roots := by
  induction hp with
  | @root k i hk =>
    have hmem : s.tree s.size i ∈ s.forest roots := List.mem_map_of_mem (List.mem_of_getElem? hk)
    have hroot := (h _ hmem).root_mem
    rw [s.id_tree s.size i] at hroot
    exact Tree.mem_flattenAll.2 ⟨_, hmem, hroot⟩
  | @child place lister i c k _ hk ih =>
    obtain ⟨t, ht, hi⟩ := Tree.mem_flattenAll.1 ih
    exact Tree.mem_flattenAll.2 ⟨t, ht, (h t ht).child_mem _ hi c (List.mem_of_getElem? hk)⟩

/-! ## How long a collection takes -/

/-- A collection over a store ends after some visits with a result: the rules of the search, which say
nothing of why it ends. -/
inductive Collects (s : Store) :
    Nat → List (NodeId × Option NodeId) → List NodeId → Except Violation (List NodeId) → Prop
  | done {seen : List NodeId} : Collects s 0 [] seen (.ok seen.reverse)
  | again {i : NodeId} {lister : Option NodeId} {todo : List (NodeId × Option NodeId)} {seen : List NodeId}
    (h : i ∈ seen) : Collects s 1 ((i, lister) :: todo) seen (.error (.reachedTwice (s.node i).label))
  | foreign {i : NodeId} {lister : Option NodeId} {todo : List (NodeId × Option NodeId)} {seen : List NodeId}
    (hi : i ∉ seen) (h : s.Foreign lister i) :
    Collects s 1 ((i, lister) :: todo) seen (.error (.foreignParent (s.node i).label))
  | visit {n : Nat} {i : NodeId} {lister : Option NodeId} {todo : List (NodeId × Option NodeId)} {seen : List NodeId}
    {r : Except Violation (List NodeId)} (hi : i ∉ seen) (ho : ¬ s.Foreign lister i)
    (rest : Collects s n (s.listings i ++ todo) (i :: seen) r) : Collects s (n + 1) ((i, lister) :: todo) seen r

theorem unseen_nil (s : Store) : unseen s [] = s.size := by simp [unseen]

/-- Every visit but the last sees a node that was not seen before. -/
theorem exists_collects (hc : s.Closed) {todo : List (NodeId × Option NodeId)} (seen : List NodeId)
    (ht : ∀ e ∈ todo, e.1 < s.size) : ∃ n ≤ unseen s seen + 1, Collects s n todo seen (collect s todo seen) := by
  induction todo, seen using collect.induct s with
  | case1 seen => exact ⟨0, by omega, by rw [collect]; exact .done⟩
  | case2 i lister todo seen hi => exact ⟨1, by omega, by rw [collect, if_pos hi]; exact .again hi⟩
  | case3 i lister todo seen hi hp => exact ⟨1, by omega, by rw [collect, if_neg hi, if_pos hp]; exact .foreign hi hp⟩
  | case4 i lister todo seen hi hp ih =>
    have hchildren : ∀ e ∈ s.listings i ++ todo, e.1 < s.size := by
      intro e he
      rcases List.mem_append.1 he with he | he
      · obtain ⟨c, hc', rfl⟩ := List.mem_map.1 he
        exact hc i c hc'
      · exact ht e (List.mem_cons_of_mem _ he)
    obtain ⟨n, hn, h⟩ := ih hchildren
    have hless : unseen s (i :: seen) < unseen s seen := unseen_cons_lt s (ht _ (List.mem_cons_self ..)) hi
    exact ⟨n + 1, by omega, by rw [collect, if_neg hi, if_neg hp]; exact .visit hi hp h⟩

end Overlay
