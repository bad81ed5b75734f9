/-
Parents. Two edits give a node a parent: attaching it to another node, and preparing trees in which
another node lists it. Neither asks whether the node is sealed. A node that has a parent keeps it, and
no other edit touches it.
-/
import Overlay.Proofs.Element.Edit
import Overlay.Proofs.Element.Ownership

namespace Overlay

/-! ## Edits that leave parents alone -/

/-- A later store in which every node of the earlier one has the parent that it had. -/
structure Store.SameParents (s s' : Store) : Prop where
  size : s.size ≤ s'.size
  parent : ∀ i < s.size, (s'.node i).parent = (s.node i).parent

namespace Store.SameParents

variable {s : Store}

instance : IsPreorder Store Store.SameParents where
  refl _ := ⟨Nat.le_refl _, fun _ _ => rfl⟩
  trans _ _ _ h h' := ⟨Nat.le_trans h.size h'.size, fun i hi =>
    (h'.parent i (Nat.lt_of_lt_of_le hi h.size)).trans (h.parent i hi)⟩

theorem update {i : NodeId} {f : Node → Node} (hf : ∀ n, (f n).parent = n.parent) :
    s.SameParents (s.update i f) := by
  refine ⟨Nat.le_of_eq (size_update s i f).symm, fun j _ => ?_⟩
  rw [node_update]
  split
  · exact hf _
  · rfl

theorem append (s : Store) (i : NodeId) (x : Item) : s.SameParents (s.append i x) :=
  ⟨Nat.le_of_eq (size_append s i x).symm, fun j _ => append_field Node.parent (fun _ _ => rfl) s i x j⟩

theorem sealAll (ids : List NodeId) : ∀ s : Store, s.SameParents (s.sealAll ids) := by
  induction ids with
  | nil => exact fun s => refl s
  | cons i ids ih =>
    intro s
    have hfirst : s.SameParents (s.update i ({ · with isSealed := true })) := update fun _ => rfl
    exact IsTrans.trans _ _ _ hfirst (ih _)

end Store.SameParents

namespace Edit

theorem change_sameParents {i : NodeId} {f : Node → Node} (hf : ∀ n, (f n).parent = n.parent) :
    Moves Store.SameParents (change i f) :=
  fun _ => .update hf

theorem setUserId_sameParents (i : NodeId) (id : String) : Moves Store.SameParents (setUserId i id) :=
  changeOpen_moves fun _ _ => .update fun _ => rfl

theorem listen_sameParents (i : NodeId) (event : EventKind) (callback : Callback) :
    Moves Store.SameParents (listen i event callback) :=
  append_moves fun s => .append s i _

theorem hookBefore_sameParents (i : NodeId) (h : Hook) : Moves Store.SameParents (hookBefore i h) :=
  append_moves fun s => .append s i _

theorem hookAfter_sameParents (i : NodeId) (h : Hook) : Moves Store.SameParents (hookAfter i h) :=
  append_moves fun s => .append s i _

theorem create_sameParents (n : Node) : Moves Store.SameParents (create n) := by
  intro s
  rw [run_create]
  refine ⟨by simp [Store.add, Store.size], fun i hi => ?_⟩
  rw [Store.node_add, if_neg (Nat.ne_of_lt hi)]

theorem sealTree_sameParents (i : NodeId) : Moves Store.SameParents (sealTree i) := by
  intro s
  rw [run_sealTree]
  exact .sealAll _ s

end Edit

/-! ## Edits that give parents -/

/-- A later store in which nodes with a parent still have it, and of the others some have got one. -/
structure Store.Attaches (s s' : Store) (given : NodeId → Prop) : Prop where
  size : s.size ≤ s'.size
  kept : ∀ i, (s.node i).parent.isSome → (s'.node i).parent = (s.node i).parent
  given : ∀ i < s.size, (s.node i).parent = none → ((s'.node i).parent.isSome ↔ given i)

namespace Store

variable {s s' s'' : Store} {given given' : NodeId → Prop}

/-- An id that was never given out names a node without a parent. -/
theorem lt_size_of_parent {i : NodeId} (h : (s.node i).parent.isSome) : i < s.size := by
  by_contra hi
  rw [node_of_size_le (Nat.le_of_not_lt hi)] at h
  cases h

theorem SameParents.attaches (h : s.SameParents s') (hg : ∀ i, ¬ given i) : s.Attaches s' given where
  size := h.size
  kept i hp := h.parent i (lt_size_of_parent hp)
  given i hi hnone := by
    rw [h.parent i hi, hnone]
    exact iff_of_false (by simp) (hg i)

/-- What is refused gives no parents. -/
theorem Attaches.of_refused {x : Except Violation Unit × Store} {v : Violation} (h : x = (.error v, s)) :
    s.Attaches x.2 fun i => x.1 = .ok () ∧ given i := by
  rw [h]
  refine SameParents.attaches (refl s) ?_
  rintro i ⟨hok, -⟩
  cases hok

theorem Attaches.sameParents (h : s.Attaches s' given) (h' : s'.SameParents s'') : s.Attaches s'' given where
  size := Nat.le_trans h.size h'.size
  kept i hp := (h'.parent i (Nat.lt_of_lt_of_le (lt_size_of_parent hp) h.size)).trans (h.kept i hp)
  given i hi hnone := by
    rw [h'.parent i (Nat.lt_of_lt_of_le hi h.size)]
    exact h.given i hi hnone

/-- A node has a parent later exactly if it had one or got one. -/
theorem Attaches.isSome_parent_iff (h : s.Attaches s' given) {i : NodeId} (hi : i < s.size) :
    (s'.node i).parent.isSome ↔ (s.node i).parent.isSome ∨ given i := by
  rcases hp : (s.node i).parent with _ | p
  · rw [h.given i hi hp]
    simp
  · rw [h.kept i (by simp [hp]), hp]
    simp

theorem Attaches.congr (h : s.Attaches s' given) (hg : ∀ i, given i ↔ given' i) : s.Attaches s' given' where
  size := h.size
  kept := h.kept
  given i hi hnone := (h.given i hi hnone).trans (hg i)

/-- A node that another one below the roots lists. -/
def ListedBelow (s : Store) (roots : List NodeId) (i : NodeId) : Prop :=
  ∃ p, s.Reached roots p ∧ i ∈ (s.node p).children

theorem isSome_parent_writeParents {parents : List (NodeId × NodeId)} {j : NodeId} : ∀ {s : Store}, j < s.size →
    (((s.writeParents parents).node j).parent.isSome ↔ (s.node j).parent.isSome ∨ j ∈ parents.map Prod.fst) := by
  induction parents with
  | nil =>
    intro s _
    simp [writeParents]
  | cons a parents ih =>
    intro s hj
    show ((((s.update a.1 _).writeParents parents).node j).parent.isSome ↔ _)
    rw [ih (by simpa using hj), node_update, List.map_cons, List.mem_cons]
    by_cases ha : a.1 = j
    · simp [ha, hj]
    · have hne : j ≠ a.1 := fun h => ha h.symm
      simp [ha, hne]

end Store

namespace Edit

/-- Attaching gives a parent to the child, if it goes through, and to no other node. -/
theorem addChild_attaches (parent child : NodeId) (s : Store) :
    s.Attaches ((addChild parent child).run s).2 fun i =>
      ((addChild parent child).run s).1 = .ok () ∧ i = child := by
  have hrun := run_addChild parent child s
  split at hrun
  · exact .of_refused hrun
  split at hrun
  · exact .of_refused hrun
  rename_i horphan
  split at hrun
  · exact .of_refused hrun
  rw [hrun]
  refine ⟨by simp, fun i hp => ?_, fun i hi hnone => ?_⟩
  · dsimp only
    rw [s.parent_attach parent child (Store.lt_size_of_parent hp), if_neg]
    rintro rfl
    exact horphan hp
  · dsimp only
    rw [s.parent_attach parent child hi]
    by_cases hc : child = i
    · simp [hc]
    · have hne : i ≠ child := fun h => hc h.symm
      simp [hc, hne, hnone]

end Edit

/-- Preparing gives a parent, if it goes through, to the nodes that are listed below the roots. -/
theorem prepare_attaches (roots : List NodeId) (s : Store) :
    s.Attaches ((prepare roots).run s).2 fun i =>
      ((prepare roots).run s).1 = .ok () ∧ s.ListedBelow roots i := by
  rcases prepare_outcomes s roots with ⟨-, v, -, h⟩ | ⟨-, -, v, -, h⟩ | ⟨-, -, ids, preset, hnd, hids, h⟩
  · exact .of_refused h
  · exact .of_refused h
  rw [h]
  have hfill := filledIn_listed (s := s) preset hnd
  refine ⟨Nat.le_of_eq hfill.size.symm, fun i => (hfill.node i).parent, fun i hi hnone => ?_⟩
  rw [Store.install_eq, Store.isSome_parent_writeParents (by simpa using hi),
    Store.parent_writeIds (newIds_keys_nodup hnd) hi, hnone]
  simp only [Option.isSome_none, Bool.false_eq_true, false_or, true_and]
  constructor
  · intro hi
    obtain ⟨a, ha, rfl⟩ := List.mem_map.1 hi
    obtain ⟨hadopter, hchild, -⟩ := Store.mem_adoptions.1 ha
    exact ⟨a.2, (hids a.2).1 hadopter, hchild⟩
  · rintro ⟨p, hp, hchild⟩
    exact List.mem_map.2 ⟨(i, p), Store.mem_adoptions.2 ⟨(hids p).2 hp, hchild, hnone⟩, rfl⟩

end Overlay
