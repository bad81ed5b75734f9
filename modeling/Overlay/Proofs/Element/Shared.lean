/-
Lists that nodes hold together. What is appended to a list of one node comes to every node that holds this list, be it
sealed or not, and to no other node. Besides that no list changes, so lists only get longer.
-/
import Overlay.Proofs.Run
import Overlay.Proofs.Element.Prepare

namespace Overlay

/-! ## What nodes hold -/

/-- What is in the lists of a node. -/
structure Held where
  children : List NodeId := []
  listeners : List Listener := []
  before : List Hook := []
  after : List Hook := []

def Node.held (n : Node) : Held := ⟨n.children, n.listeners, n.before, n.after⟩

namespace Held

instance : Append Held where
  append a b := ⟨a.children ++ b.children, a.listeners ++ b.listeners, a.before ++ b.before, a.after ++ b.after⟩

variable (a b c : Held)

@[simp] theorem children_append : (a ++ b).children = a.children ++ b.children := rfl

@[simp] theorem listeners_append : (a ++ b).listeners = a.listeners ++ b.listeners := rfl

@[simp] theorem before_append : (a ++ b).before = a.before ++ b.before := rfl

@[simp] theorem after_append : (a ++ b).after = a.after ++ b.after := rfl

variable {a b c}

theorem ext_iff : a = b ↔
    a.children = b.children ∧ a.listeners = b.listeners ∧ a.before = b.before ∧ a.after = b.after := by
  obtain ⟨c, l, b, a⟩ := a
  rw [Held.mk.injEq]

@[simp] theorem append_empty : a ++ ({} : Held) = a := by simp [ext_iff]

@[simp] theorem empty_append : ({} : Held) ++ a = a := by simp [ext_iff]

theorem append_assoc : a ++ b ++ c = a ++ (b ++ c) := by simp [ext_iff]

theorem append_eq_self_iff : a ++ b = a ↔ b = {} := by simp [ext_iff]

theorem append_eq_empty_iff : a ++ b = {} ↔ a = {} ∧ b = {} := by
  simp only [ext_iff, children_append, listeners_append, before_append, after_append, List.append_eq_nil_iff]
  tauto

end Held

/-- The children of a node to be are in the store, and so are the nodes whose lists it takes over. -/
structure Store.Offers (s : Store) (n : Node) : Prop where
  children : ∀ c ∈ n.children, c < s.size
  childList : ∀ g, n.lists.children = some g → g < s.size
  listenerList : ∀ g, n.lists.listeners = some g → g < s.size
  hookList : ∀ side g, n.lists.hooks side = some g → g.1 < s.size

/-- A node with lists of its own needs to know its children only. -/
theorem Store.Offers.of_own {s : Store} {n : Node} (h : ∀ c ∈ n.children, c < s.size) (hl : n.lists = {}) :
    s.Offers n := by
  refine ⟨h, ?_, ?_, ?_⟩
  · rw [hl]
    nofun
  · rw [hl]
    nofun
  · rw [hl]
    rintro (_ | _) <;> nofun

namespace Store

variable {s s' s'' : Store} {i j : NodeId} {x : Item}

/-! ## Who holds a list -/

/-- A node holds the list of another one that takes up an item. -/
def Holds (s : Store) (i : NodeId) (x : Item) (j : NodeId) : Prop :=
  match x with
  | .child _ => s.childList j = s.childList i
  | .listener _ => s.listenerList j = s.listenerList i
  | .hook side _ => s.hookList j .before = s.hookList i side ∨ s.hookList j .after = s.hookList i side

/-- What a node takes up when an item is appended to a list of another one. -/
def received (s : Store) (i : NodeId) (x : Item) (j : NodeId) : Held :=
  match x with
  | .child c => { children := if s.childList j = s.childList i then [c] else [] }
  | .listener l => { listeners := if s.listenerList j = s.listenerList i then [l] else [] }
  | .hook side h => {
      before := if s.hookList j .before = s.hookList i side then [h] else []
      after := if s.hookList j .after = s.hookList i side then [h] else [] }

theorem received_eq_empty_iff : s.received i x j = {} ↔ ¬ s.Holds i x j := by
  cases x <;> simp [received, Holds, Held.ext_iff]

theorem children_received_eq_nil_iff :
    (s.received i x j).children = [] ↔ ∀ c, x = .child c → ¬ s.Holds i x j := by
  cases x <;> simp [received, Holds]

/-! ## Appending -/

/-- Appending leaves everything of a node that is not in its lists. -/
theorem append_field {β : Type} (f : Node → β) (hf : ∀ (n : Node) (h : Held), f { n with
    children := h.children, listeners := h.listeners, before := h.before, after := h.after } = f n) (s : Store)
    (i : NodeId) (x : Item) (j : NodeId) : f ((s.append i x).node j) = f (s.node j) := by
  rw [node_append]
  split
  · cases x
    · exact hf (s.node j) { (s.node j).held with children := _ }
    · exact hf (s.node j) { (s.node j).held with listeners := _ }
    · exact hf (s.node j) { (s.node j).held with before := _, after := _ }
  · rfl

theorem held_append (i : NodeId) (x : Item) (hj : j < s.size) :
    ((s.append i x).node j).held = (s.node j).held ++ s.received i x j := by
  rw [node_append, if_pos hj]
  cases x <;> simp [taking, received, Node.held, Held.ext_iff]

/-- Who holds which list depends on the names of the lists alone. -/
theorem received_congr (h : ∀ j, (s'.node j).lists = (s.node j).lists) : s'.received = s.received := by
  have hchildren : s'.childList = s.childList := funext fun j => by rw [childList, h, childList]
  have hlisteners : s'.listenerList = s.listenerList := funext fun j => by rw [listenerList, h, listenerList]
  have hhooks : s'.hookList = s.hookList := funext fun j => funext fun side => by rw [hookList, h, hookList]
  funext i x j
  unfold received
  rw [hchildren, hlisteners, hhooks]

theorem received_append (s : Store) (i : NodeId) (x : Item) : (s.append i x).received = s.received :=
  received_congr (append_field Node.lists (fun _ _ => rfl) s i x)

/-- The store after some items are appended, each to a list of a node. -/
def appendAll (s : Store) (xs : List (NodeId × Item)) : Store := xs.foldl (fun s a => s.append a.1 a.2) s

@[simp] theorem size_appendAll (xs : List (NodeId × Item)) : ∀ s : Store, (s.appendAll xs).size = s.size := by
  induction xs with
  | nil => exact fun s => rfl
  | cons a xs ih => exact fun s => (ih _).trans (size_append ..)

theorem appendAll_field {β : Type} (f : Node → β) (hf : ∀ (n : Node) (h : Held), f { n with
    children := h.children, listeners := h.listeners, before := h.before, after := h.after } = f n)
    (xs : List (NodeId × Item)) (j : NodeId) : ∀ s : Store, f ((s.appendAll xs).node j) = f (s.node j) := by
  induction xs with
  | nil => exact fun s => rfl
  | cons a xs ih => exact fun s => (ih _).trans (append_field f hf s a.1 a.2 j)

/-- What a node takes up of some items, in their order. -/
def receivedAll (s : Store) (xs : List (NodeId × Item)) (j : NodeId) : Held :=
  xs.foldr (fun a h => s.received a.1 a.2 j ++ h) {}

theorem held_appendAll (xs : List (NodeId × Item)) : ∀ {s : Store}, j < s.size →
    ((s.appendAll xs).node j).held = (s.node j).held ++ s.receivedAll xs j := by
  induction xs with
  | nil => exact fun _ => Held.append_empty.symm
  | cons a xs ih =>
    intro s hj
    have hrest := ih (s := s.append a.1 a.2) (by simpa using hj)
    have hsame : (s.append a.1 a.2).receivedAll xs j = s.receivedAll xs j := by
      unfold receivedAll
      rw [received_append]
    rw [held_append a.1 a.2 hj, hsame, Held.append_assoc] at hrest
    exact hrest

theorem receivedAll_eq_empty_iff {xs : List (NodeId × Item)} :
    s.receivedAll xs j = {} ↔ ∀ a ∈ xs, ¬ s.Holds a.1 a.2 j := by
  induction xs with
  | nil => simp [receivedAll]
  | cons a xs ih =>
    rw [List.forall_mem_cons, ← received_eq_empty_iff, ← ih]
    exact Held.append_eq_empty_iff

theorem children_receivedAll_eq_nil_iff {xs : List (NodeId × Item)} :
    (s.receivedAll xs j).children = [] ↔ ∀ a ∈ xs, ∀ c, a.2 = .child c → ¬ s.Holds a.1 a.2 j := by
  induction xs with
  | nil => simp [receivedAll]
  | cons a xs ih =>
    rw [List.forall_mem_cons, ← children_received_eq_nil_iff, ← ih]
    exact List.append_eq_nil_iff

/-! ## Stores whose lists grow -/

/-- A later store: no node is gone, and no list has lost anything. -/
structure Grows (s s' : Store) : Prop where
  size : s.size ≤ s'.size
  held : ∀ i, ∃ new, (s'.node i).held = (s.node i).held ++ new

instance : IsPreorder Store Grows where
  refl _ := ⟨Nat.le_refl _, fun _ => ⟨{}, Held.append_empty.symm⟩⟩
  trans _ _ _ h h' := by
    refine ⟨Nat.le_trans h.size h'.size, fun i => ?_⟩
    obtain ⟨new, hnew⟩ := h.held i
    obtain ⟨new', hnew'⟩ := h'.held i
    exact ⟨new ++ new', by rw [hnew', hnew, Held.append_assoc]⟩

/-- What was appended to the lists of a node is not lost later. -/
theorem Grows.held_eq (h : s.Grows s') (h' : s'.Grows s'') (hsame : (s''.node i).held = (s.node i).held) :
    (s'.node i).held = (s.node i).held := by
  obtain ⟨new, hnew⟩ := h.held i
  obtain ⟨new', hnew'⟩ := h'.held i
  rw [hnew', hnew, Held.append_assoc, Held.append_eq_self_iff, Held.append_eq_empty_iff] at hsame
  rw [hnew, hsame.1, Held.append_empty]

theorem Grows.children (h : s.Grows s') (i : NodeId) : (s.node i).children <+: (s'.node i).children := by
  obtain ⟨new, hnew⟩ := h.held i
  exact ⟨new.children, (congrArg Held.children hnew).symm⟩

/-- A later store in which the lists of every node of the earlier one have got some items, as far as it holds them. -/
structure Receives (s s' : Store) (xs : List (NodeId × Item)) : Prop where
  size : s.size ≤ s'.size
  held : ∀ j < s.size, (s'.node j).held = (s.node j).held ++ s.receivedAll xs j

namespace Receives

variable {xs : List (NodeId × Item)}

theorem grows (h : s.Receives s' xs) : s.Grows s' := by
  refine ⟨h.size, fun j => ?_⟩
  by_cases hj : j < s.size
  · exact ⟨_, h.held j hj⟩
  · -- an id that was not given out before had nothing in its lists
    rw [node_of_size_le (Nat.le_of_not_lt hj)]
    exact ⟨(s'.node j).held, Held.empty_append.symm⟩

theorem held_eq_iff (h : s.Receives s' xs) (hj : j < s.size) :
    (s'.node j).held = (s.node j).held ↔ ∀ a ∈ xs, ¬ s.Holds a.1 a.2 j := by
  rw [h.held j hj, Held.append_eq_self_iff, receivedAll_eq_empty_iff]

theorem children_eq_iff (h : s.Receives s' xs) (hj : j < s.size) :
    (s'.node j).children = (s.node j).children ↔ ∀ a ∈ xs, ∀ c, a.2 = .child c → ¬ s.Holds a.1 a.2 j := by
  rw [show (s'.node j).children = _ from congrArg Held.children (h.held j hj), ← children_receivedAll_eq_nil_iff]
  exact List.append_right_eq_self

theorem appendAll (s : Store) (xs : List (NodeId × Item)) : s.Receives (s.appendAll xs) xs :=
  ⟨Nat.le_of_eq (size_appendAll xs s).symm, fun _ => held_appendAll xs⟩

theorem append (s : Store) (i : NodeId) (x : Item) : s.Receives (s.append i x) [(i, x)] := appendAll s [(i, x)]

/-- The lists are as they were. -/
theorem of_held (hsize : s.size ≤ s'.size) (h : ∀ j < s.size, (s'.node j).held = (s.node j).held) :
    s.Receives s' [] :=
  ⟨hsize, fun j hj => (h j hj).trans Held.append_empty.symm⟩

theorem update {f : Node → Node} (hf : ∀ n, (f n).held = n.held) : s.Receives (s.update i f) [] := by
  refine .of_held (Nat.le_of_eq (size_update s i f).symm) fun j _ => ?_
  rw [node_update]
  split
  · exact hf _
  · rfl

theorem refl (s : Store) : s.Receives s [] := .of_held (Nat.le_refl _) fun _ _ => rfl

/-- What is changed before items are appended and is not in a list changes nothing about that. -/
theorem of_change (hsize : s'.size = s.size) (hheld : ∀ j, (s'.node j).held = (s.node j).held)
    (hlists : ∀ j, (s'.node j).lists = (s.node j).lists) (h : s'.Receives s'' xs) : s.Receives s'' xs := by
  refine ⟨hsize ▸ h.size, fun j hj => ?_⟩
  have hsame : s'.receivedAll xs j = s.receivedAll xs j := by
    unfold receivedAll
    rw [received_congr hlists]
  rw [h.held j (hsize ▸ hj), hheld, hsame]

end Receives

theorem FilledIn.held {s s' : Store} (h : s.FilledIn s') (i : NodeId) : (s'.node i).held = (s.node i).held := by
  rw [(h.node i).rest]
  rfl

theorem FilledIn.receives (h : s.FilledIn s') : s.Receives s' [] :=
  .of_held (Nat.le_of_eq h.size.symm) fun j _ => h.held j

end Store

end Overlay
