/-
What edits keep. A node that is sealed and has an internal id is frozen: no edit of any node changes its ids, whether
the edit goes through or fails. What is in its lists can get more by an edit of another node that holds one of them.
-/
import Overlay.Style.Restyle
import Overlay.Proofs.Element.Shared

namespace Overlay

/-! ## Frozen nodes -/

/-- What tells a node from others. -/
structure Identity where
  kind : Kind
  userId : Option String
  internalId : Option String

def Node.identity (n : Node) : Identity := ⟨n.kind, n.userId, n.internalId⟩

/-- What a seal is to protect, and the kind, which nothing changes. -/
structure Core where
  kind : Kind
  userId : Option String
  internalId : Option String
  children : List NodeId
  listeners : List Listener
  before : List Hook
  after : List Hook

def Node.core (n : Node) : Core :=
  ⟨n.kind, n.userId, n.internalId, n.children, n.listeners, n.before, n.after⟩

theorem Node.core_eq_iff {a b : Node} : a.core = b.core ↔ a.identity = b.identity ∧ a.held = b.held := by
  unfold core identity held
  rw [Core.mk.injEq, Identity.mk.injEq, Held.mk.injEq]
  tauto

/-- Sealed, and with an internal id, so that a preparation has nothing to give but a parent. -/
structure Node.Frozen (n : Node) : Prop where
  isSealed : n.isSealed
  identified : n.internalId.isSome

theorem Node.Frozen.of_identity {a b : Node} (h : a.Frozen) (hs : b.isSealed) (hi : b.identity = a.identity) :
    b.Frozen :=
  ⟨hs, by rw [show b.internalId = a.internalId from congrArg Identity.internalId hi]; exact h.identified⟩

theorem Node.FilledIn.identity {a b : Node} (h : a.FilledIn b) (ha : a.internalId.isSome) :
    b.identity = a.identity := by
  rw [h.rest, h.internalId ha]
  rfl

/-- A later store: no node is gone, children still name nodes, and frozen nodes are frozen and told by the same ids. -/
structure Store.Keeps (s s' : Store) : Prop where
  size : s.size ≤ s'.size
  closed : s.Closed → s'.Closed
  isSealed : ∀ i, (s.node i).Frozen → (s'.node i).isSealed
  identity : ∀ i, (s.node i).Frozen → (s'.node i).identity = (s.node i).identity

namespace Store.Keeps

variable {s s' s'' : Store}

theorem frozen (h : s.Keeps s') {i : NodeId} (hi : (s.node i).Frozen) : (s'.node i).Frozen :=
  hi.of_identity (h.isSealed i hi) (h.identity i hi)

instance : IsPreorder Store Store.Keeps where
  refl _ := ⟨Nat.le_refl _, id, fun _ hi => hi.isSealed, fun _ _ => rfl⟩
  trans _ _ _ h h' := ⟨Nat.le_trans h.size h'.size, fun hc => h'.closed (h.closed hc),
    fun i hi => h'.isSealed i (h.frozen hi), fun i hi => (h'.identity i (h.frozen hi)).trans (h.identity i hi)⟩

theorem update {i : NodeId} {f : Node → Node} (hc : ∀ n, (f n).children = n.children)
    (hf : (s.node i).Frozen → (f (s.node i)).isSealed ∧ (f (s.node i)).identity = (s.node i).identity) :
    s.Keeps (s.update i f) := by
  have hsplit : ∀ j, (s.update i f).node j = s.node j ∨ (j = i ∧ (s.update i f).node j = f (s.node j)) := by
    intro j
    rw [node_update]
    split
    · rename_i hj
      exact .inr ⟨hj.1.symm, rfl⟩
    · exact .inl rfl
  refine ⟨by simp, fun hs j c hj => ?_, fun j hj => ?_, fun j hj => ?_⟩
  · rw [size_update]
    rcases hsplit j with h | ⟨rfl, h⟩ <;> rw [h] at hj
    · exact hs j c hj
    · rw [hc] at hj
      exact hs j c hj
  · rcases hsplit j with h | ⟨rfl, h⟩ <;> rw [h]
    · exact hj.isSealed
    · exact (hf hj).1
  · rcases hsplit j with h | ⟨rfl, h⟩ <;> rw [h]
    exact (hf hj).2

/-- Appending keeps a store, where a child to be is a node of it. -/
theorem append (i : NodeId) {x : Item} (hx : ∀ c, x = .child c → c < s.size) : s.Keeps (s.append i x) := by
  refine ⟨by simp, fun hs j c hj => ?_, fun j hj => ?_, fun j _ => append_field Node.identity (fun _ _ => rfl) s i x j⟩
  · rw [size_append]
    rw [node_append] at hj
    split at hj
    · cases x with
      | child d =>
        rcases List.mem_append.1 hj with hj | hj
        · exact hs j c hj
        · split at hj
          · rw [List.mem_singleton.1 hj]
            exact hx d rfl
          · cases hj
      | listener _ => exact hs j c hj
      | hook _ _ => exact hs j c hj
    · exact hs j c hj
  · rw [append_field Node.isSealed (fun _ _ => rfl)]
    exact hj.isSealed

end Store.Keeps

/-- Filling in keeps a store. -/
theorem Store.FilledIn.keeps {s s' : Store} (h : s.FilledIn s') : s.Keeps s' where
  size := Nat.le_of_eq h.size.symm
  closed hc i c hi := by
    rw [h.children] at hi
    rw [h.size]
    exact hc i c hi
  isSealed i hi := (h.node i).isSealed hi.isSealed
  identity i hi := (h.node i).identity hi.identified

theorem Moves.keeps {α : Type} {e : Edit α} (h : Moves Store.FilledIn e) : Moves Store.Keeps e :=
  fun s => (h s).keeps

/-! ## Edits of fields -/

namespace Edit

theorem run_change (i : NodeId) (f : Node → Node) (s : Store) : (change i f).run s = (.ok (), s.update i f) := rfl

/-- A change that leaves the core and the seal alone keeps every store. -/
theorem change_keeps {i : NodeId} {f : Node → Node} (hc : ∀ n, (f n).core = n.core)
    (hs : ∀ n, (f n).isSealed = n.isSealed) : Moves Store.Keeps (change i f) := by
  intro s
  refine Store.Keeps.update (fun n => congrArg Core.children (hc n)) fun h => ⟨?_, (Node.core_eq_iff.1 (hc _)).1⟩
  rw [hs]
  exact h.isSealed

/-! ## Edits that a seal refuses -/

theorem run_get (i : NodeId) (s : Store) : (get i).run s = (.ok (s.node i), s) := rfl

theorem run_checkOpen (i : NodeId) (s : Store) :
    (checkOpen i).run s =
      if (s.node i).isSealed then (.error (.sealedNode (s.node i).label), s) else (.ok (), s) := by
  unfold checkOpen
  rw [run_bind_ok (run_get i s)]
  by_cases h : (s.node i).isSealed = true
  · simp only [if_pos h]; rfl
  · simp only [if_neg h]; rfl

theorem run_changeOpen (i : NodeId) (f : Node → Node) (s : Store) :
    (changeOpen i f).run s =
      if (s.node i).isSealed then (.error (.sealedNode (s.node i).label), s) else (.ok (), s.update i f) := by
  unfold changeOpen
  rw [run_bind, run_checkOpen]
  by_cases h : (s.node i).isSealed = true
  · simp only [if_pos h]
  · simp only [if_neg h]; rfl

/-- What holds of every change of an open node holds of one that a seal refuses. -/
theorem changeOpen_moves {R : Store → Store → Prop} [IsPreorder Store R] {i : NodeId} {f : Node → Node}
    (h : ∀ s : Store, ¬ (s.node i).isSealed → R s (s.update i f)) : Moves R (changeOpen i f) := by
  intro s
  rw [run_changeOpen]
  split
  · exact refl s
  · rename_i hopen
    exact h s hopen

theorem run_append (i : NodeId) (x : Item) (s : Store) :
    (append i x).run s =
      if (s.node i).isSealed then (.error (.sealedNode (s.node i).label), s) else (.ok (), s.append i x) := by
  unfold append
  rw [run_bind, run_checkOpen]
  by_cases h : (s.node i).isSealed = true
  · simp only [if_pos h]
  · simp only [if_neg h]; rfl

/-- What holds of every addition to an open node holds of one that a seal refuses. -/
theorem append_moves {R : Store → Store → Prop} [IsPreorder Store R] {i : NodeId} {x : Item}
    (h : ∀ s : Store, R s (s.append i x)) : Moves R (append i x) := by
  intro s
  rw [run_append]
  split
  · exact refl s
  · exact h s

theorem setUserId_keeps (i : NodeId) (id : String) : Moves Store.Keeps (setUserId i id) :=
  changeOpen_moves fun _ hopen => .update (fun _ => rfl) fun h => absurd h.isSealed hopen

theorem listen_keeps (i : NodeId) (event : EventKind) (callback : Callback) :
    Moves Store.Keeps (listen i event callback) :=
  append_moves fun _ => .append i nofun

theorem hookBefore_keeps (i : NodeId) (h : Hook) : Moves Store.Keeps (hookBefore i h) :=
  append_moves fun _ => .append i nofun

theorem hookAfter_keeps (i : NodeId) (h : Hook) : Moves Store.Keeps (hookAfter i h) :=
  append_moves fun _ => .append i nofun

/-! ## Edits of the structure -/

/-- The children of a new node are those that it was given or those of the list that it takes over. -/
theorem linked_children_lt {s : Store} {n : Node} (hc : s.Closed) (hn : ∀ c ∈ n.children, c < s.size) :
    ∀ c ∈ (s.linked n).children, c < s.size := by
  intro c h
  unfold Store.linked at h
  rcases hg : n.lists.children with _ | g <;> rw [hg] at h
  · exact hn c h
  · exact hc g c h

theorem run_create (n : Node) (s : Store) : (create n).run s = (.ok s.size, (s.add (s.linked n)).2) := rfl

theorem size_add (s : Store) (n : Node) : (s.add n).2.size = s.size + 1 := by simp [Store.add, Store.size]

/-- A new node with children of the store keeps the store. -/
theorem create_keeps {s : Store} {n : Node} (hn : ∀ c ∈ n.children, c < s.size) :
    s.Keeps ((create n).run s).2 := by
  rw [run_create]
  have hlt : ∀ c, c < s.size → c < (s.add (s.linked n)).2.size := fun c h => size_add s _ ▸ Nat.lt_succ_of_lt h
  -- the new id named an open node until now, so no frozen node gives way
  have hold : ∀ i, (s.node i).Frozen → (s.add (s.linked n)).2.node i = s.node i := by
    intro i hi
    rw [Store.node_add, if_neg]
    rintro rfl
    have := hi.isSealed
    rw [Store.node_of_size_le (Nat.le_refl _)] at this
    cases this
  refine ⟨?_, fun hcl i c hi => ?_, fun i hi => ?_, fun i hi => ?_⟩
  · rw [size_add]
    exact Nat.le_succ _
  · rw [Store.node_add] at hi
    split at hi
    · exact hlt c (linked_children_lt hcl hn c hi)
    · exact hlt c (hcl i c hi)
  · rw [hold i hi]; exact hi.isSealed
  · rw [hold i hi]

end Edit

/-- The store in which a node has got a parent, and is a child of all nodes that hold the list of this parent. -/
def Store.attach (s : Store) (parent child : NodeId) : Store :=
  (s.update child ({ · with parent := some parent })).append parent (.child child)

namespace Store

@[simp] theorem size_attach (s : Store) (parent child : NodeId) : (s.attach parent child).size = s.size := by
  simp [attach]

/-- Of the nodes of an attachment the child is given a parent, which is in no list. -/
theorem received_attached (s : Store) (parent child : NodeId) :
    (s.update child ({ · with parent := some parent })).received = s.received := by
  refine received_congr fun j => ?_
  rw [node_update]
  split <;> rfl

theorem held_attach (s : Store) (parent child : NodeId) {i : NodeId} (hi : i < s.size) :
    ((s.attach parent child).node i).held = (s.node i).held ++ s.received parent (.child child) i := by
  unfold attach
  rw [held_append _ _ (by simpa using hi), received_attached, node_update]
  split <;> rfl

/-- The child has a new parent, and no other node has. -/
theorem parent_attach (s : Store) (parent child : NodeId) {i : NodeId} (hi : i < s.size) :
    ((s.attach parent child).node i).parent = if child = i then some parent else (s.node i).parent := by
  unfold attach
  rw [append_field Node.parent (fun _ _ => rfl), node_update]
  by_cases hc : child = i
  · rw [if_pos ⟨hc, hi⟩, if_pos hc]
  · rw [if_neg fun h => hc h.1, if_neg hc]

theorem children_attach (s : Store) (parent child : NodeId) {i : NodeId} (hi : i < s.size) :
    ((s.attach parent child).node i).children =
      (s.node i).children ++ if s.childList i = s.childList parent then [child] else [] :=
  congrArg Held.children (s.held_attach parent child hi)

end Store

namespace Edit

theorem run_addChild (parent child : NodeId) (s : Store) :
    (addChild parent child).run s =
      if (s.node parent).isSealed then (.error (.sealedNode (s.node parent).label), s)
      else if (s.node child).parent.isSome then (.error (.alreadyAttached (s.node child).label), s)
      else if child = parent ∨ child ∈ s.ancestors parent then (.error (.cycle (s.node child).label), s)
      else (.ok (), s.attach parent child) := by
  unfold addChild
  rw [run_bind, run_checkOpen]
  by_cases h : (s.node parent).isSealed = true
  · simp only [if_pos h]
  simp only [if_neg h]
  rw [run_bind_ok (run_get child s)]
  by_cases hp : (s.node child).parent.isSome = true
  · simp only [if_pos hp]; rfl
  simp only [if_neg hp]
  by_cases hc : child = parent ∨ child ∈ s.ancestors parent
  · rw [if_pos hc, run_bind_ok (run_getThe s)]
    simp only [if_pos hc]; rfl
  · rw [if_neg hc, run_bind_ok (run_getThe s)]
    simp only [if_neg hc]; rfl

/-- Attaching a node of the store keeps the store. -/
theorem addChild_keeps {s : Store} (parent : NodeId) {child : NodeId} (hc : child < s.size) :
    s.Keeps ((addChild parent child).run s).2 := by
  rw [run_addChild]
  split
  · exact refl s
  split
  · exact refl s
  split
  · exact refl s
  -- of the child only the parent changes, which no seal protects; the rest is an addition to a list of children
  have hfirst : s.Keeps (s.update child ({ · with parent := some parent })) :=
    .update (fun _ => rfl) fun h => ⟨h.isSealed, rfl⟩
  refine IsTrans.trans _ _ _ hfirst (.append parent ?_)
  rintro _ ⟨⟩
  simpa using hc

/-! ## Sealing -/

end Edit

/-- The store with some nodes sealed. -/
def Store.sealAll (s : Store) (ids : List NodeId) : Store :=
  ids.foldl (fun s i => s.update i ({ · with isSealed := true })) s

namespace Store

theorem sealAll_append (s : Store) (ids ids' : List NodeId) :
    s.sealAll (ids ++ ids') = (s.sealAll ids).sealAll ids' := List.foldl_append ..

theorem filledIn_sealAll (ids : List NodeId) : ∀ s : Store, s.FilledIn (s.sealAll ids) := by
  induction ids with
  | nil => exact fun s => refl s
  | cons i ids ih =>
    intro s
    have h : s.FilledIn (s.update i ({ · with isSealed := true })) :=
      FilledIn.update ⟨rfl, fun _ => rfl, fun _ => rfl, fun _ => rfl⟩
    exact IsTrans.trans _ _ _ h (ih _)

theorem isSealed_sealAll {ids : List NodeId} {i : NodeId} (hi : i ∈ ids) :
    ∀ {s : Store}, i < s.size → ((s.sealAll ids).node i).isSealed := by
  induction ids with
  | nil => cases hi
  | cons j ids ih =>
    intro s hs
    rcases List.mem_cons.1 hi with rfl | hi
    · refine ((filledIn_sealAll ids _).node i).isSealed ?_
      rw [node_update, if_pos ⟨rfl, hs⟩]
    · exact ih hi (by simpa using hs)

end Store

namespace Edit

theorem run_forM_change {f : Node → Node} (ids : List (NodeId × Node)) : ∀ s : Store,
    (ids.forM fun n => change n.1 f).run s = (.ok (), (ids.map Prod.fst).foldl (fun s i => s.update i f) s) := by
  induction ids with
  | nil => exact fun s => rfl
  | cons n ids ih =>
    intro s
    rw [run_forM_cons, run_bind_ok (run_change n.1 f s), ih]
    rfl

theorem run_sealTree (i : NodeId) (s : Store) :
    (sealTree i).run s = (.ok (), s.sealAll ((s.walk [i]).map Prod.fst)) := by
  unfold sealTree
  rw [run_bind_ok (run_getThe s), run_forM_change]
  rfl

theorem sealTree_keeps (i : NodeId) : Moves Store.Keeps (sealTree i) := by
  intro s
  rw [run_sealTree]
  exact (s.filledIn_sealAll _).keeps

/-! ## What edits append -/

theorem setUserId_receives (i : NodeId) (id : String) (s : Store) : s.Receives ((setUserId i id).run s).2 [] := by
  unfold setUserId
  rw [run_changeOpen]
  split
  · exact .refl s
  · exact .update fun _ => rfl

theorem create_receives (n : Node) (s : Store) : s.Receives ((create n).run s).2 [] := by
  rw [run_create]
  refine .of_held (by rw [size_add]; exact Nat.le_succ _) fun j hj => ?_
  rw [Store.node_add, if_neg (Nat.ne_of_lt hj)]

/-- An addition that a seal does not refuse. -/
theorem append_receives (i : NodeId) (x : Item) (s : Store) :
    s.Receives ((append i x).run s).2 (if (s.node i).isSealed then [] else [(i, x)]) := by
  rw [run_append]
  split
  · exact .refl s
  · exact .append s i x

theorem addChild_receives (parent child : NodeId) (s : Store) : s.Receives ((addChild parent child).run s).2
    (if ((addChild parent child).run s).1.isOk then [(parent, .child child)] else []) := by
  rw [run_addChild]
  split
  · exact .refl s
  split
  · exact .refl s
  split
  · exact .refl s
  refine .of_change (Store.size_update _ _ _) (fun j => ?_) (fun j => ?_) (.append _ parent (.child child))
  · rw [Store.node_update]
    split <;> rfl
  · rw [Store.node_update]
    split <;> rfl

theorem sealTree_receives (i : NodeId) (s : Store) : s.Receives ((sealTree i).run s).2 [] := by
  rw [run_sealTree]
  exact (s.filledIn_sealAll _).receives

end Edit

end Overlay
