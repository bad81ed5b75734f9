/-
Lists are one thing wherever they are held. Every node has a copy of what is in its lists; the copies of nodes that hold
one list never differ, for a new node takes over what is in the list and an item comes to all who hold it.
-/
import Overlay.Proofs.Element.Restyle

namespace Overlay

/-! ## Contents under names -/

section Agree

variable {κ ν β : Type} {known : κ → Prop} {name name' : κ → ν} {content content' : κ → β}

/-- Where two keys have one name, they have one content. -/
def Agree (known : κ → Prop) (name : κ → ν) (content : κ → β) : Prop :=
  ∀ a b, known a → known b → name a = name b → content a = content b

theorem Agree.congr (h : Agree known name content) (hname : ∀ a, known a → name' a = name a)
    (hcontent : ∀ a, known a → content' a = content a) : Agree known name' content' := by
  intro a b ha hb hab
  rw [hname a ha, hname b hb] at hab
  rw [hcontent a ha, hcontent b hb]
  exact h a b ha hb hab

theorem Agree.mono {known' : κ → Prop} (hknown : ∀ a, known' a → known a) (h : Agree known name content) :
    Agree known' name content :=
  fun a b ha hb => h a b (hknown a ha) (hknown b hb)

/-- An item that comes to all keys under one name comes to equal contents. -/
theorem Agree.append {α : Type} [DecidableEq ν] {content : κ → List α} (h : Agree known name content) (m : ν) (x : α) :
    Agree known name fun a => content a ++ if name a = m then [x] else [] := by
  intro a b ha hb hab
  dsimp only
  rw [h a b ha hb hab, hab]

/-- A new key has a name of its own, or name and content of a known one. -/
theorem Agree.extend (h : Agree known name content) {k : κ}
    (hk : (∀ a, known a → name a ≠ name k) ∨ ∃ g, known g ∧ name k = name g ∧ content k = content g) :
    Agree (fun a => known a ∨ a = k) name content := by
  have hnew : ∀ a, known a → name a = name k → content a = content k := by
    intro a ha hak
    rcases hk with hown | ⟨g, hg, hname, hcontent⟩
    · exact absurd hak (hown a ha)
    · rw [hcontent]
      exact h a g ha hg (hak.trans hname)
  rintro a b (ha | rfl) (hb | rfl) hab
  · exact h a b ha hb hab
  · exact hnew a ha hab
  · exact (hnew b hb hab.symm).symm
  · rfl

/-- Old nodes keep names and contents, and a new one takes over a list or has one of its own. -/
theorem Agree.add {name name' : NodeId → NodeId} {content content' : NodeId → β} {size : Nat}
    {given : Option NodeId} (h : Agree (· < size) name content) (hlt : ∀ i < size, name i < size)
    (hname : ∀ i < size, name' i = name i) (hcontent : ∀ i < size, content' i = content i)
    (hgiven : ∀ g, given = some g → g < size)
    (hnew : name' size = size ∨ ∃ g, given = some g ∧ name' size = name g ∧ content' size = content g) :
    Agree (· < size + 1) name' content' ∧ ∀ i < size + 1, name' i < size + 1 := by
  constructor
  · refine Agree.mono (fun _ => Nat.lt_succ_iff_lt_or_eq.1) ((h.congr hname hcontent).extend ?_)
    rcases hnew with hown | ⟨g, hg, hname', hcontent'⟩
    · refine .inl fun i hi => ?_
      rw [hown, hname i hi]
      exact Nat.ne_of_lt (hlt i hi)
    · have hgs := hgiven g hg
      exact .inr ⟨g, hgs, by rw [hname', hname g hgs], by rw [hcontent', hcontent g hgs]⟩
  · intro i hi
    rcases Nat.lt_succ_iff_lt_or_eq.1 hi with hi | rfl
    · rw [hname i hi]
      exact Nat.lt_succ_of_lt (hlt i hi)
    · rcases hnew with hown | ⟨g, hg, hname', -⟩
      · rw [hown]
        exact Nat.lt_succ_self _
      · rw [hname']
        exact Nat.lt_succ_of_lt (hlt g (hgiven g hg))

end Agree

namespace Store

/-- Nodes that hold one list have the same in it, and lists are named by nodes that are there. -/
structure Coherent (s : Store) : Prop where
  children : Agree (· < s.size) s.childList fun i => (s.node i).children
  listeners : Agree (· < s.size) s.listenerList fun i => (s.node i).listeners
  hooks : Agree (fun a : NodeId × Side => a.1 < s.size) (fun a => s.hookList a.1 a.2) fun a => (s.node a.1).hooks a.2
  childList_lt : ∀ i < s.size, s.childList i < s.size
  listenerList_lt : ∀ i < s.size, s.listenerList i < s.size
  hookList_lt : ∀ i < s.size, ∀ side, (s.hookList i side).1 < s.size

/-- Coherence is not lost from one store to the other. -/
def KeepsCoherent (s s' : Store) : Prop := s.Coherent → s'.Coherent

instance : IsPreorder Store KeepsCoherent where
  refl _ := id
  trans _ _ _ h h' hs := h' (h hs)

variable {s s' : Store}

/-- Names are read off the nodes. -/
theorem names_congr (h : ∀ j, (s'.node j).lists = (s.node j).lists) :
    s'.childList = s.childList ∧ s'.listenerList = s.listenerList ∧ s'.hookList = s.hookList := by
  refine ⟨funext fun j => ?_, funext fun j => ?_, funext fun j => funext fun side => ?_⟩
  · rw [childList, h, childList]
  · rw [listenerList, h, listenerList]
  · rw [hookList, h, hookList]

/-- Nodes that all came with lists of their own are coherent: no two of them hold one list. -/
theorem Coherent.of_own (h : ∀ i < s.size, (s.node i).lists = {}) : s.Coherent := by
  have hchildList : ∀ i < s.size, s.childList i = i := fun i hi => by rw [childList, h i hi]; rfl
  have hlistenerList : ∀ i < s.size, s.listenerList i = i := fun i hi => by rw [listenerList, h i hi]; rfl
  have hhookList : ∀ i < s.size, ∀ side, s.hookList i side = (i, side) := by
    intro i hi side
    rw [hookList, h i hi]
    cases side <;> rfl
  constructor
  · intro a b ha hb hab
    rw [hchildList a ha, hchildList b hb] at hab
    rw [hab]
  · intro a b ha hb hab
    rw [hlistenerList a ha, hlistenerList b hb] at hab
    rw [hab]
  · intro a b ha hb hab
    dsimp only at hab
    rw [hhookList a.1 ha, hhookList b.1 hb] at hab
    dsimp only
    rw [congrArg Prod.fst hab, congrArg Prod.snd hab]
  · exact fun i hi => (hchildList i hi).symm ▸ hi
  · exact fun i hi => (hlistenerList i hi).symm ▸ hi
  · exact fun i hi side => (hhookList i hi side).symm ▸ hi

theorem hooks_of_held {n m : Node} (h : n.held = m.held) (side : Side) : n.hooks side = m.hooks side := by
  cases side
  · exact congrArg Held.before h
  · exact congrArg Held.after h

/-- Where neither the lists of a node nor their names change, they stay coherent. -/
theorem KeepsCoherent.of_same (hsize : s'.size = s.size) (hheld : ∀ j, (s'.node j).held = (s.node j).held)
    (hlists : ∀ j, (s'.node j).lists = (s.node j).lists) : s.KeepsCoherent s' := by
  intro h
  obtain ⟨hchildList, hlistenerList, hhookList⟩ := names_congr hlists
  constructor
  · rw [hsize, hchildList]
    exact h.children.congr (fun _ _ => rfl) fun j _ => congrArg Held.children (hheld j)
  · rw [hsize, hlistenerList]
    exact h.listeners.congr (fun _ _ => rfl) fun j _ => congrArg Held.listeners (hheld j)
  · rw [hsize, hhookList]
    exact h.hooks.congr (fun _ _ => rfl) fun a _ => hooks_of_held (hheld a.1) a.2
  · rw [hsize, hchildList]
    exact h.childList_lt
  · rw [hsize, hlistenerList]
    exact h.listenerList_lt
  · rw [hsize, hhookList]
    exact h.hookList_lt

theorem KeepsCoherent.update {i : NodeId} {f : Node → Node} (hheld : ∀ n, (f n).held = n.held)
    (hlists : ∀ n, (f n).lists = n.lists) : s.KeepsCoherent (s.update i f) := by
  refine of_same (size_update s i f) (fun j => ?_) (fun j => ?_)
  · rw [node_update]
    split
    · exact hheld _
    · rfl
  · rw [node_update]
    split
    · exact hlists _
    · rfl

theorem FilledIn.keepsCoherent (h : s.FilledIn s') : s.KeepsCoherent s' :=
  .of_same h.size h.held fun j => by rw [(h.node j).rest]

/-- What is appended to a list comes to every copy of it. -/
theorem KeepsCoherent.append (s : Store) (i : NodeId) (x : Item) : s.KeepsCoherent (s.append i x) := by
  intro h
  have hnode : ∀ {j}, j < s.size → (s.append i x).node j = s.taking i x j (s.node j) := by
    intro j hj
    rw [node_append, if_pos hj]
  obtain ⟨hchildList, hlistenerList, hhookList⟩ := names_congr (append_field Node.lists (fun _ _ => rfl) s i x)
  constructor
  · rw [size_append, hchildList]
    cases x with
    | child c =>
      exact (h.children.append (s.childList i) c).congr (fun _ _ => rfl) fun j hj => by rw [hnode hj]; rfl
    | listener _ => exact h.children.congr (fun _ _ => rfl) fun j hj => by rw [hnode hj]; rfl
    | hook _ _ => exact h.children.congr (fun _ _ => rfl) fun j hj => by rw [hnode hj]; rfl
  · rw [size_append, hlistenerList]
    cases x with
    | child _ => exact h.listeners.congr (fun _ _ => rfl) fun j hj => by rw [hnode hj]; rfl
    | listener l =>
      exact (h.listeners.append (s.listenerList i) l).congr (fun _ _ => rfl) fun j hj => by rw [hnode hj]; rfl
    | hook _ _ => exact h.listeners.congr (fun _ _ => rfl) fun j hj => by rw [hnode hj]; rfl
  · rw [size_append, hhookList]
    cases x with
    | child _ =>
      refine h.hooks.congr (fun _ _ => rfl) fun a ha => ?_
      rw [hnode ha]
      exact hooks_of_held rfl a.2
    | listener _ =>
      refine h.hooks.congr (fun _ _ => rfl) fun a ha => ?_
      rw [hnode ha]
      exact hooks_of_held rfl a.2
    | hook side hook =>
      refine (h.hooks.append (s.hookList i side) hook).congr (fun _ _ => rfl) ?_
      rintro ⟨j, _ | _⟩ hj <;> rw [hnode hj] <;> rfl
  · rw [size_append, hchildList]
    exact h.childList_lt
  · rw [size_append, hlistenerList]
    exact h.listenerList_lt
  · rw [size_append, hhookList]
    exact h.hookList_lt

/-! ## New nodes -/

variable {n : Node}

/-- The name of a list of a new node, and what is in it: it is the list of an earlier node, or a new one. -/
theorem hookList_create (s : Store) (n : Node) (side : Side) :
    ((s.add (s.linked n)).2.hookList s.size side = (s.size, side)) ∨
      ∃ g, n.lists.hooks side = some g ∧ (s.add (s.linked n)).2.hookList s.size side = s.hookList g.1 g.2 ∧
        ((s.add (s.linked n)).2.node s.size).hooks side = (s.node g.1).hooks g.2 := by
  unfold hookList
  rw [node_add, if_pos rfl]
  cases side with
  | before =>
    unfold linked Lists.hooks Node.hooks
    rcases n.lists.before with _ | g
    · exact .inl rfl
    · exact .inr ⟨g, rfl, rfl, rfl⟩
  | after =>
    unfold linked Lists.hooks Node.hooks
    rcases n.lists.after with _ | g
    · exact .inl rfl
    · exact .inr ⟨g, rfl, rfl, rfl⟩

theorem childList_create (s : Store) (n : Node) :
    ((s.add (s.linked n)).2.childList s.size = s.size) ∨
      ∃ g, n.lists.children = some g ∧ (s.add (s.linked n)).2.childList s.size = s.childList g ∧
        ((s.add (s.linked n)).2.node s.size).children = (s.node g).children := by
  unfold childList
  rw [node_add, if_pos rfl]
  unfold linked
  rcases n.lists.children with _ | g
  · exact .inl rfl
  · exact .inr ⟨g, rfl, rfl, rfl⟩

theorem listenerList_create (s : Store) (n : Node) :
    ((s.add (s.linked n)).2.listenerList s.size = s.size) ∨
      ∃ g, n.lists.listeners = some g ∧ (s.add (s.linked n)).2.listenerList s.size = s.listenerList g ∧
        ((s.add (s.linked n)).2.node s.size).listeners = (s.node g).listeners := by
  unfold listenerList
  rw [node_add, if_pos rfl]
  unfold linked
  rcases n.lists.listeners with _ | g
  · exact .inl rfl
  · exact .inr ⟨g, rfl, rfl, rfl⟩

theorem node_create_of_lt {j : NodeId} (hj : j < s.size) : (s.add (s.linked n)).2.node j = s.node j := by
  rw [node_add, if_neg (Nat.ne_of_lt hj)]

theorem hookList_create_of_lt {j : NodeId} (hj : j < s.size) (side : Side) :
    (s.add (s.linked n)).2.hookList j side = s.hookList j side := by
  rw [hookList, node_create_of_lt hj, hookList]

theorem Coherent.hookList_create_lt (h : s.Coherent) (hn : s.Offers n) {j : NodeId} (hj : j < s.size + 1)
    (side : Side) : ((s.add (s.linked n)).2.hookList j side).1 < s.size + 1 := by
  rcases Nat.lt_succ_iff_lt_or_eq.1 hj with hj | rfl
  · rw [hookList_create_of_lt hj]
    exact Nat.lt_succ_of_lt (h.hookList_lt j hj side)
  · rcases s.hookList_create n side with hown | ⟨g, hg, hname, -⟩
    · rw [hown]
      exact Nat.lt_succ_self s.size
    · rw [hname]
      exact Nat.lt_succ_of_lt (h.hookList_lt g.1 (hn.hookList side g hg) g.2)

/-- A new node comes with two lists of hooks, which are added one after the other. -/
theorem Coherent.hooks_create (h : s.Coherent) (hn : s.Offers n) :
    Agree (fun a : NodeId × Side => a.1 < s.size + 1) (fun a => (s.add (s.linked n)).2.hookList a.1 a.2)
      fun a => ((s.add (s.linked n)).2.node a.1).hooks a.2 := by
  have hfirst : Agree (fun a : NodeId × Side => a.1 < s.size) (fun a => (s.add (s.linked n)).2.hookList a.1 a.2)
      fun a => ((s.add (s.linked n)).2.node a.1).hooks a.2 :=
    h.hooks.congr (fun a ha => hookList_create_of_lt ha a.2) fun a ha => by rw [node_create_of_lt ha]
  have hold : ∀ a : NodeId × Side, a.1 < s.size → ∀ side, (s.add (s.linked n)).2.hookList a.1 a.2 ≠ (s.size, side) := by
    intro a ha side heq
    have hlt := h.hookList_lt a.1 ha a.2
    rw [← hookList_create_of_lt (n := n) ha, heq] at hlt
    exact Nat.lt_irrefl _ hlt
  have hone : ∀ {known : NodeId × Side → Prop} (side : Side), (∀ a, a.1 < s.size → known a) →
      (∀ a, known a → (s.add (s.linked n)).2.hookList a.1 a.2 ≠ (s.size, side)) →
      Agree known (fun a => (s.add (s.linked n)).2.hookList a.1 a.2)
        (fun a => ((s.add (s.linked n)).2.node a.1).hooks a.2) →
      Agree (fun a => known a ∨ a = (s.size, side)) (fun a => (s.add (s.linked n)).2.hookList a.1 a.2)
        fun a => ((s.add (s.linked n)).2.node a.1).hooks a.2 := by
    intro known side hknown hapart hagree
    refine hagree.extend ?_
    rcases s.hookList_create n side with hown | ⟨g, hg, hname, hcontent⟩
    · refine .inl fun a ha => ?_
      rw [hown]
      exact hapart a ha
    · have hgs := hn.hookList side g hg
      exact .inr ⟨g, hknown g hgs, by rw [hname, hookList_create_of_lt hgs], by rw [hcontent, node_create_of_lt hgs]⟩
  have hbefore := hone .before (fun _ ha => ha) (fun a ha => hold a ha _) hfirst
  have hafter := hone .after (fun a ha => .inl ha) ?_ hbefore
  · refine Agree.mono (fun a ha => ?_) hafter
    obtain ⟨j, _ | _⟩ := a
    · exact .inl ((Nat.lt_succ_iff_lt_or_eq.1 ha).imp id fun heq => Prod.ext heq rfl)
    · exact (Nat.lt_succ_iff_lt_or_eq.1 ha).imp .inl fun heq => Prod.ext heq rfl
  · rintro a (ha | rfl)
    · exact hold a ha _
    · rcases s.hookList_create n .before with hown | ⟨g, hg, hname, -⟩
      · rw [hown]
        simp
      · rw [hname, ← hookList_create_of_lt (n := n) (hn.hookList _ g hg)]
        exact hold g (hn.hookList _ g hg) _

/-- A new node over lists of earlier ones has in them what these have, and its other lists have new names. -/
theorem KeepsCoherent.create (hn : s.Offers n) : s.KeepsCoherent ((Edit.create n).run s).2 := by
  intro h
  rw [Edit.run_create]
  have hchildren : Agree (· < s.size + 1) (s.add (s.linked n)).2.childList
      (fun i => ((s.add (s.linked n)).2.node i).children) ∧ ∀ i < s.size + 1, _ :=
    h.children.add h.childList_lt (fun j hj => by rw [childList, node_create_of_lt hj, childList])
      (fun j hj => by rw [node_create_of_lt hj]) hn.childList (s.childList_create n)
  have hlisteners : Agree (· < s.size + 1) (s.add (s.linked n)).2.listenerList
      (fun i => ((s.add (s.linked n)).2.node i).listeners) ∧ ∀ i < s.size + 1, _ :=
    h.listeners.add h.listenerList_lt (fun j hj => by rw [listenerList, node_create_of_lt hj, listenerList])
      (fun j hj => by rw [node_create_of_lt hj]) hn.listenerList (s.listenerList_create n)
  constructor <;> rw [Edit.size_add]
  · exact hchildren.1
  · exact hlisteners.1
  · exact h.hooks_create hn
  · exact hchildren.2
  · exact hlisteners.2
  · exact fun j hj side => h.hookList_create_lt hn hj side

end Store

/-! ## Edits -/

namespace Edit

theorem setUserId_keepsCoherent (i : NodeId) (id : String) : Moves Store.KeepsCoherent (setUserId i id) :=
  changeOpen_moves fun _ _ => .update (fun _ => rfl) fun _ => rfl

theorem append_keepsCoherent (i : NodeId) (x : Item) : Moves Store.KeepsCoherent (append i x) :=
  append_moves fun s => .append s i x

theorem addChild_keepsCoherent (parent child : NodeId) : Moves Store.KeepsCoherent (addChild parent child) := by
  intro s
  rw [run_addChild]
  split
  · exact refl s
  split
  · exact refl s
  split
  · exact refl s
  · have hfirst : s.KeepsCoherent (s.update child ({ · with parent := some parent })) :=
      .update (fun _ => rfl) fun _ => rfl
    exact IsTrans.trans _ _ _ hfirst (.append _ parent _)

theorem sealTree_keepsCoherent (i : NodeId) : Moves Store.KeepsCoherent (sealTree i) := by
  intro s
  rw [run_sealTree]
  exact (s.filledIn_sealAll _).keepsCoherent

theorem restyle_keepsCoherent (i : NodeId) (r : Resolution) : Moves Store.KeepsCoherent (restyle i r) :=
  restyle_moves (fun _ => .update (fun n => n.held_styled_fields r) fun _ => rfl) fun _ => append_keepsCoherent i _

end Edit

end Overlay
