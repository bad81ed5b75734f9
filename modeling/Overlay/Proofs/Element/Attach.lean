/-
Attaching nodes. The check against cycles follows parents and walks follow children. A node that was created with
children is not their parent, so the check does not see that it lies above them: attaching it below one of them goes
through and closes a cycle. Nor does it see who holds the list of the parent, and all of these nodes get the child.
Where every child has its lister as parent and nodes have lists of their own, no attachment closes a cycle.
-/
import Overlay.Proofs.Element.Acyclic
import Overlay.Proofs.Element.Parent

namespace Overlay

/-! ## More edges to one node -/

section Edges

open Relation

variable {α : Type} {r r' : α → α → Prop} {begins : α → Prop} {b : α}

/-- A path through a graph with more edges to one node passes such an edge or was there before. -/
theorem path_of_edges (hr : ∀ x y, r' x y ↔ r x y ∨ begins x ∧ y = b) {x y : α} (h : TransGen r' x y) :
    TransGen r x y ∨ (∃ a, begins a ∧ ReflTransGen r x a) ∧ ReflTransGen r b y := by
  induction h with
  | single hxy =>
    rcases (hr _ _).1 hxy with hxy | ⟨hx, rfl⟩
    · exact .inl (.single hxy)
    · exact .inr ⟨⟨x, hx, .refl⟩, .refl⟩
  | @tail y z _ hyz ih =>
    rcases ih with hold | ⟨hfirst, hlast⟩
    · rcases (hr _ _).1 hyz with hyz | ⟨hy, rfl⟩
      · exact .inl (hold.tail hyz)
      · exact .inr ⟨⟨y, hy, hold.to_reflTransGen⟩, .refl⟩
    · rcases (hr _ _).1 hyz with hyz | ⟨-, rfl⟩
      · exact .inr ⟨hfirst, hlast.tail hyz⟩
      · exact .inr ⟨hfirst, .refl⟩

/-- Edges to one node close a cycle exactly if there was a path from it back to where one of them begins. -/
theorem no_cycle_of_edges_iff (hr : ∀ x y, r' x y ↔ r x y ∨ begins x ∧ y = b) (hno : ∀ x, ¬ TransGen r x x) :
    (∀ x, ¬ TransGen r' x x) ↔ ∀ a, begins a → ¬ ReflTransGen r b a := by
  constructor
  · intro h a ha hback
    have hback' : ReflTransGen r' b a := ReflTransGen.mono (fun x y hxy => (hr x y).2 (.inl hxy)) b a hback
    exact h b (TransGen.tail' hback' ((hr _ _).2 (.inr ⟨ha, rfl⟩)))
  · intro hback x hcycle
    rcases path_of_edges hr hcycle with hold | ⟨⟨a, ha, hfirst⟩, hlast⟩
    · exact hno x hold
    · exact hback a ha (hlast.trans hfirst)

end Edges

namespace Store

variable {s : Store}

/-! ## Cycles among children -/

/-- No node lies below itself. -/
def CycleFree (s : Store) : Prop := ∀ i, ¬ s.Below i i

/-- A node with a whole tree does not lie below itself. -/
theorem not_below_of_whole {t : Tree} (h : t.Whole s) : ¬ s.Below t.id t.id := by
  induction h with
  | @node i ts children _ ih =>
    intro hcycle
    obtain ⟨c, hc, hback⟩ := Relation.TransGen.head'_iff.1 hcycle
    obtain ⟨t, ht, rfl⟩ := List.mem_map.1 (children ▸ hc)
    rcases Relation.reflTransGen_iff_eq_or_transGen.1 hback with hself | hbelow
    · exact ih t ht (hself ▸ hcycle)
    · exact ih t ht (hbelow.tail hc)

/-- Walks end from every node exactly if no node lies below itself. -/
theorem cycleFree_iff_grounded (hc : s.Closed) : s.CycleFree ↔ ∀ i < s.size, s.Grounded [i] := by
  constructor
  · intro h i hi
    exact Acyclic.grounded (fun j _ => h j) hc (by simpa using hi)
  · intro h i hcycle
    obtain ⟨c, hchild, -⟩ := Relation.TransGen.head'_iff.1 hcycle
    have hi : i < s.size := by
      by_contra hge
      rw [children_of_size_le s (Nat.le_of_not_lt hge)] at hchild
      cases hchild
    have hwhole : (s.tree s.size i).Whole s := h i hi _ (List.mem_singleton_self _)
    have hid : (s.tree s.size i).id = i := by cases s.size <;> rfl
    exact not_below_of_whole hwhole (hid.symm ▸ hcycle)

/-- A node holds the list of children of another one. -/
def SharesChildren (s : Store) (i j : NodeId) : Prop := j < s.size ∧ s.childList j = s.childList i

/-! ## Chains of parents -/

/-- One node is the parent of another, or its parent's parent, and so on. -/
def Above (s : Store) (a i : NodeId) : Prop := Relation.TransGen (fun i p => (s.node i).parent = some p) i a

theorem above_iff {a i : NodeId} : s.Above a i ↔ ∃ p, (s.node i).parent = some p ∧ (a = p ∨ s.Above a p) := by
  rw [Above, Relation.TransGen.head'_iff]
  exact exists_congr fun p => and_congr_right' Relation.reflTransGen_iff_eq_or_transGen

theorem Above.lt_size {a i : NodeId} (h : s.Above a i) : i < s.size := by
  obtain ⟨p, hp, -⟩ := above_iff.1 h
  exact lt_size_of_parent (by rw [hp]; rfl)

/-- A chain of parents that is followed as far as there are nodes that are not below it comes to its end. -/
theorem mem_parents_iff (hno : ∀ i, ¬ s.Above i i) {a : NodeId} : ∀ {d : Nat} {i : NodeId} (below : List NodeId),
    below.Nodup → (∀ b ∈ below, s.Above i b) → s.size ≤ below.length + d → (a ∈ s.parents d i ↔ s.Above a i) := by
  intro d
  induction d with
  | zero =>
    intro i below hnd hbelow hsize
    refine iff_of_false List.not_mem_nil fun habove => ?_
    have hfresh : i ∉ below := fun hmem => hno i (hbelow i hmem)
    have hlt : ∀ b ∈ i :: below, b < s.size := by
      intro b hb
      rcases List.mem_cons.1 hb with rfl | hb
      · exact habove.lt_size
      · exact (hbelow b hb).lt_size
    have hlen := length_le_of_nodup (List.nodup_cons.2 ⟨hfresh, hnd⟩) hlt
    rw [List.length_cons] at hlen
    omega
  | succ d ih =>
    intro i below hnd hbelow hsize
    rw [parents, above_iff]
    rcases hp : (s.node i).parent with _ | p
    · simp
    · have hfresh : i ∉ below := fun hmem => hno i (hbelow i hmem)
      have hup : ∀ b ∈ i :: below, s.Above p b := by
        intro b hb
        rcases List.mem_cons.1 hb with rfl | hb
        · exact .single hp
        · exact .tail (hbelow b hb) hp
      have hrest := ih (i :: below) (List.nodup_cons.2 ⟨hfresh, hnd⟩) hup (by rw [List.length_cons]; omega)
      simp [hrest]

theorem mem_ancestors_iff (hno : ∀ i, ¬ s.Above i i) {a i : NodeId} : a ∈ s.ancestors i ↔ s.Above a i :=
  mem_parents_iff hno [] List.nodup_nil (by simp) (by simp)

/-- Every child has the node that lists it as its parent. -/
def Agrees (s : Store) : Prop := ∀ i, ∀ c ∈ (s.node i).children, (s.node c).parent = some i

/-- Where children and parents agree, what lies below a node has this node above it. -/
theorem Agrees.above (h : s.Agrees) {i j : NodeId} (hbelow : s.Below i j) : s.Above i j := by
  induction hbelow with
  | single hc => exact .single (h _ _ hc)
  | tail _ hc ih => exact .head (h _ _ hc) ih

end Store

/-! ## Attaching -/

namespace Edit

variable {s s' : Store} {parent child : NodeId}

/-- What an attachment that goes through has found, and what it has added to the two relations. -/
structure Attached (s : Store) (parent child : NodeId) (s' : Store) : Prop where
  isOpen : ¬ (s.node parent).isSealed
  orphan : (s.node child).parent = none
  check : ¬ (child = parent ∨ child ∈ s.ancestors parent)
  children : ∀ {i c}, c ∈ (s'.node i).children ↔ c ∈ (s.node i).children ∨ s.SharesChildren parent i ∧ c = child
  parents : ∀ {i p}, (s'.node i).parent = some p ↔ (s.node i).parent = some p ∨ i = child ∧ p = parent

/-- An attachment changes nothing or goes through. -/
theorem addChild_cases (hc : child < s.size) :
    (∃ v, (addChild parent child).run s = (.error v, s)) ∨
      ∃ s', (addChild parent child).run s = (.ok (), s') ∧ Attached s parent child s' := by
  rw [run_addChild]
  split
  · exact .inl ⟨_, rfl⟩
  rename_i hopen
  split
  · exact .inl ⟨_, rfl⟩
  rename_i horphan
  split
  · exact .inl ⟨_, rfl⟩
  rename_i hcheck
  have hnone : (s.node child).parent = none := Option.not_isSome_iff_eq_none.1 horphan
  refine .inr ⟨_, rfl, hopen, hnone, hcheck, ?_, ?_⟩
  · intro i c
    unfold Store.SharesChildren
    by_cases hi : i < s.size
    · rw [s.children_attach parent child hi, List.mem_append]
      by_cases hlist : s.childList i = s.childList parent
      · simp [hi, hlist]
      · simp [hlist]
    · have hnode := Nat.le_of_not_lt hi
      rw [Store.children_of_size_le _ (by simpa using hnode), Store.children_of_size_le s hnode]
      simp [hi]
  · intro i p
    by_cases hi : i < s.size
    · rw [s.parent_attach parent child hi]
      by_cases hci : child = i
      · rw [if_pos hci, ← hci, hnone]
        simp [eq_comm]
      · rw [if_neg hci]
        simp [Ne.symm hci]
    · have hnode := Nat.le_of_not_lt hi
      rw [Store.node_of_size_le (by simpa using hnode), Store.node_of_size_le hnode]
      simp [Nat.ne_of_gt (Nat.lt_of_lt_of_le hc hnode)]

/-- Attaching closes a cycle among the children exactly if a node that holds the list of the parent is the child or lay
below it. -/
theorem Attached.cycleFree_iff (h : Attached s parent child s') (hfree : s.CycleFree) :
    s'.CycleFree ↔ ∀ i, s.SharesChildren parent i → i ≠ child ∧ ¬ s.Below child i := by
  have hedges : ∀ i c, c ∈ (s'.node i).children ↔ c ∈ (s.node i).children ∨ s.SharesChildren parent i ∧ c = child :=
    fun _ _ => h.children
  refine (no_cycle_of_edges_iff hedges hfree).trans (forall₂_congr fun i _ => ?_)
  rw [Relation.reflTransGen_iff_eq_or_transGen, not_or]
  rfl

/-- The check keeps the chains of parents free of cycles. -/
theorem Attached.not_above (h : Attached s parent child s') (hno : ∀ i, ¬ s.Above i i) : ∀ i, ¬ s'.Above i i := by
  have hedges : ∀ i p, (s'.node i).parent = some p ↔ (s.node i).parent = some p ∨ i = child ∧ p = parent :=
    fun _ _ => h.parents
  refine (no_cycle_of_edges_iff hedges hno).2 ?_
  rintro _ rfl
  rw [Relation.reflTransGen_iff_eq_or_transGen]
  rintro (heq | habove)
  · exact h.check (.inl heq)
  · exact h.check (.inr ((Store.mem_ancestors_iff hno).2 habove))

/-- Where no other node holds the list of the parent, children and parents still agree. -/
theorem Attached.agrees (h : Attached s parent child s') (hagrees : s.Agrees)
    (hown : ∀ i, s.SharesChildren parent i → i = parent) : s'.Agrees := by
  intro i c hc
  rcases h.children.1 hc with hold | ⟨hshares, rfl⟩
  · exact h.parents.2 (.inl (hagrees i c hold))
  · exact h.parents.2 (.inr ⟨rfl, (hown i hshares).symm ▸ rfl⟩)

end Edit

/-! ## Graphs that are built -/

/-- The graphs that are built by creating nodes, with or without children or over lists of other nodes, and by attaching
nodes, whether this goes through or fails. -/
inductive Built : Store → Prop
  | empty : Built {}
  | create {s : Store} {n : Node} (hs : Built s) (hparent : n.parent = none) (hoffers : s.Offers n) :
    Built ((Edit.create n).run s).2
  | attach {s : Store} {parent child : NodeId} (hs : Built s) (hparent : parent < s.size) (hchild : child < s.size) :
    Built ((Edit.addChild parent child).run s).2

namespace Built

variable {s : Store}

theorem closed (h : Built s) : s.Closed := by
  induction h with
  | empty => exact fun i c hc => by cases hc
  | create _ _ hoffers ih => exact (Edit.create_keeps hoffers.children).closed ih
  | attach _ _ hchild ih => exact (Edit.addChild_keeps _ hchild).closed ih

/-- No chain of parents in a graph that is built comes back to where it began. -/
theorem not_above (h : Built s) : ∀ i, ¬ s.Above i i := by
  induction h with
  | empty =>
    intro i habove
    obtain ⟨p, hp, -⟩ := Store.above_iff.1 habove
    cases hp
  | @create s n _ hparent _ ih =>
    have hsame : ∀ i, (((Edit.create n).run s).2.node i).parent = (s.node i).parent := by
      intro i
      rw [Edit.run_create, Store.node_add]
      split
      · rename_i hi
        rw [hi, Store.node_of_size_le (Nat.le_refl _)]
        exact hparent
      · rfl
    intro i
    unfold Store.Above
    simp only [hsame]
    exact ih i
  | attach _ _ hchild ih =>
    rcases Edit.addChild_cases hchild with ⟨v, hrun⟩ | ⟨s', hrun, hattached⟩
    · rw [hrun]
      exact ih
    · rw [hrun]
      exact hattached.not_above ih

/-- Where children and parents agree, no node lies below itself. -/
theorem cycleFree_of_agrees (h : Built s) (hagrees : s.Agrees) : s.CycleFree :=
  fun i hcycle => h.not_above i (hagrees.above hcycle)

end Built

/-- Attaching goes through exactly if the parent is open and the child has no parent, is not the parent and is not above
it. If it fails, it leaves the graph as it was. -/
theorem Built.addChild_ok_iff {s : Store} (hs : Built s) (parent child : NodeId) :
    ((Edit.addChild parent child).run s).1 = .ok () ↔ ¬ (s.node parent).isSealed ∧ (s.node child).parent = none ∧
      child ≠ parent ∧ ¬ s.Above child parent := by
  rw [Edit.run_addChild, ← Store.mem_ancestors_iff hs.not_above]
  split
  · rename_i hsealed
    exact iff_of_false nofun fun h => h.1 hsealed
  rename_i hopen
  split
  · rename_i hparent
    refine iff_of_false nofun fun h => ?_
    rw [h.2.1] at hparent
    cases hparent
  rename_i horphan
  split
  · rename_i hcheck
    exact iff_of_false nofun fun h => hcheck.elim h.2.2.1 h.2.2.2
  · rename_i hcheck
    rw [not_or] at hcheck
    exact iff_of_true rfl ⟨hopen, Option.not_isSome_iff_eq_none.1 horphan, hcheck⟩

/-- Attaching one node of a graph to another leaves the graph as it was if it fails. If it goes through where no node
lies below itself, it closes a cycle exactly if, by the lists of children, the parent lies below the child, or another
node that holds the parent's list does or is the child; the check has followed the parents, from the parent alone. Where
all children have their listers as parents and only the parent holds its list, no attachment closes a cycle. Walks end
from all nodes exactly where no node lies below itself. -/
theorem addChild_cycleFree_iff {s : Store} (hs : Built s) {parent child : NodeId} (hp : parent < s.size)
    (hc : child < s.size) :
    let result := (Edit.addChild parent child).run s
    (∀ v, result.1 = .error v → result.2 = s) ∧
    (result.1 = .ok () ↔ ¬ (s.node parent).isSealed ∧ (s.node child).parent = none ∧ child ≠ parent ∧
      ¬ s.Above child parent) ∧
    (result.1 = .ok () → s.CycleFree →
      (result.2.CycleFree ↔ ∀ i, s.SharesChildren parent i → i ≠ child ∧ ¬ s.Below child i)) ∧
    (s.Agrees → (∀ i, s.SharesChildren parent i → i = parent) → result.2.Agrees ∧ result.2.CycleFree) ∧
    (result.2.CycleFree ↔ ∀ i < result.2.size, result.2.Grounded [i]) := by
  intro result
  have hbuilt : Built result.2 := .attach hs hp hc
  have hwalks := Store.cycleFree_iff_grounded hbuilt.closed
  rcases Edit.addChild_cases hc with ⟨v, hrun⟩ | ⟨s', hrun, hattached⟩
  · have hresult : result = (.error v, s) := hrun
    refine ⟨?_, hs.addChild_ok_iff parent child, ?_, ?_, hwalks⟩
    · intro _ _
      rw [hresult]
    · intro hok
      rw [hresult] at hok
      cases hok
    · intro hagrees _
      rw [hresult]
      exact ⟨hagrees, hs.cycleFree_of_agrees hagrees⟩
  · have hresult : result = (.ok (), s') := hrun
    refine ⟨?_, hs.addChild_ok_iff parent child, ?_, ?_, hwalks⟩
    · intro _ herror
      rw [hresult] at herror
      cases herror
    · intro _ hfree
      rw [hresult]
      exact hattached.cycleFree_iff hfree
    · intro hagrees hown
      rw [hresult] at hbuilt ⊢
      have hagrees' := hattached.agrees hagrees hown
      exact ⟨hagrees', hbuilt.cycleFree_of_agrees hagrees'⟩

/-! ## Two groups -/

/-- Two groups, the second created with some children. -/
def twoGroups (children : List NodeId) : Store :=
  ((Edit.create { kind := .group, children }).run ((Edit.create { kind := .group }).run {}).2).2

theorem twoGroups_built {children : List NodeId} (h : ∀ c ∈ children, c < 1) : Built (twoGroups children) :=
  .create (.create .empty rfl (.of_own (by simp) rfl)) rfl (.of_own h rfl)

/-- Children that were created before their lister close no cycle. -/
theorem twoGroups_cycleFree {children : List NodeId} (h : ∀ c ∈ children, c < 1) : (twoGroups children).CycleFree := by
  have hfalling : ∀ i, ∀ c ∈ ((twoGroups children).node i).children, c < i := by
    intro i c hc
    rcases i with _ | _ | i
    · cases hc
    · exact h c hc
    · cases hc
  have hbelow : ∀ {i j : NodeId}, (twoGroups children).Below i j → j < i := by
    intro i j hij
    induction hij with
    | single hc => exact hfalling _ _ hc
    | tail _ hc ih => exact Nat.lt_trans (hfalling _ _ hc) ih
  exact fun i hcycle => Nat.lt_irrefl i (hbelow hcycle)

/-- No two of the groups hold a list together. -/
theorem twoGroups_shares {children : List NodeId} {i : NodeId} (h : (twoGroups children).SharesChildren 0 i) :
    i = 0 := by
  obtain ⟨hi, hlist⟩ := h
  match i, hi with
  | 0, _ => rfl
  | 1, _ => cases hlist

/-- The second group is attached to the first, which it does not list. -/
theorem addChild_cycleFree_iff_twoGroups :
    Built (twoGroups []) ∧ 0 < (twoGroups []).size ∧ 1 < (twoGroups []).size ∧
    ((Edit.addChild 0 1).run (twoGroups [])).1 = .ok () ∧ ((Edit.addChild 0 1).run (twoGroups [])).2.CycleFree ∧
    ∀ i < 2, ((Edit.addChild 0 1).run (twoGroups [])).2.Grounded [i] := by
  have hbuilt : Built (twoGroups []) := twoGroups_built (by simp)
  have hok : ((Edit.addChild 0 1).run (twoGroups [])).1 = .ok () := rfl
  have hparent : 0 < (twoGroups []).size := by decide
  have hchild : 1 < (twoGroups []).size := by decide
  obtain ⟨-, -, hcycle, -, hwalks⟩ := addChild_cycleFree_iff hbuilt hparent hchild
  have hfree := (hcycle hok (twoGroups_cycleFree (by simp))).2 fun i hshares => by
    obtain rfl := twoGroups_shares hshares
    refine ⟨nofun, fun hbelow => ?_⟩
    obtain ⟨c, hc, -⟩ := Relation.TransGen.head'_iff.1 hbelow
    cases hc
  exact ⟨hbuilt, hparent, hchild, hok, hfree, hwalks.1 hfree⟩

/-- The second group lists the first and has no parent, so it is attached to the first. -/
theorem addChild_closes_cycle :
    Built (twoGroups [0]) ∧ (twoGroups [0]).CycleFree ∧ ((Edit.addChild 0 1).run (twoGroups [0])).1 = .ok () ∧
    ¬ ((Edit.addChild 0 1).run (twoGroups [0])).2.CycleFree := by
  refine ⟨twoGroups_built (by simp), twoGroups_cycleFree (by simp), rfl, fun hfree => hfree 0 ?_⟩
  have hdown : 1 ∈ (((Edit.addChild 0 1).run (twoGroups [0])).2.node 0).children := by decide
  have hback : 0 ∈ (((Edit.addChild 0 1).run (twoGroups [0])).2.node 1).children := by decide
  exact .tail (.single hdown) hback

/-- Two groups over one list, and a third that has the second as its child. -/
def sharedList : Store :=
  ((do
    let a ← Edit.create { kind := .group }
    let b ← Edit.create { kind := .group, lists := { children := some a } }
    let c ← Edit.create { kind := .group }
    Edit.addChild c b : Edit Unit).run {}).2

/-- The third goes below the first, which it does not list, and comes to lie below the second. -/
example :
    let result := (Edit.addChild 0 2).run sharedList
    result.1 = .ok () ∧ 2 ∈ (result.2.node 1).children ∧ 1 ∈ (result.2.node 2).children := by decide

end Overlay
