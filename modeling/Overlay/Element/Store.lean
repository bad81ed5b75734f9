/-
The store of nodes, and what can be read off it: trees, walks in document order, and the chain of
parents. Nodes name each other freely, so a node may be listed by several others or lie on a cycle.
Nodes may hold a list together; what is appended to it by one of them comes to all of them.
A tree follows the children as deep as there are nodes, which is all the way wherever no node lies
below itself; the chain of parents is followed as far.
-/
import Overlay.Element.Node

namespace Overlay

/-- All nodes of a host, by id. -/
structure Store where
  nodes : Array Node := #[]

/-- A node with its subtree. -/
inductive Tree where
  | node (id : NodeId) (content : Node) (subtrees : List Tree)

namespace Tree

def id : Tree → NodeId
  | node i _ _ => i

def content : Tree → Node
  | node _ n _ => n

def subtrees : Tree → List Tree
  | node _ _ ts => ts

mutual

/-- The nodes of a tree in document order: each before its subtrees, which come in order. -/
def flatten : Tree → List (NodeId × Node)
  | node i n ts => (i, n) :: flattenAll ts

def flattenAll : List Tree → List (NodeId × Node)
  | [] => []
  | t :: ts => t.flatten ++ flattenAll ts

end

end Tree

namespace Store

def size (s : Store) : Nat := s.nodes.size

/-- The node under an id; an id that was never given out names an empty group. -/
def node (s : Store) (i : NodeId) : Node := s.nodes.getD i default

/-- Puts a new node under the next id. -/
def add (s : Store) (n : Node) : NodeId × Store := (s.size, ⟨s.nodes.push n⟩)

def update (s : Store) (i : NodeId) (f : Node → Node) : Store := ⟨s.nodes.modify i f⟩

/-! ## Lists that nodes hold together -/

/-- The name of the list of children that a node holds. -/
def childList (s : Store) (i : NodeId) : NodeId := (s.node i).lists.children.getD i

/-- The name of the list of listeners that a node holds. -/
def listenerList (s : Store) (i : NodeId) : NodeId := (s.node i).lists.listeners.getD i

/-- The name of the list of hooks that a node holds on one side. -/
def hookList (s : Store) (i : NodeId) (side : Side) : NodeId × Side := ((s.node i).lists.hooks side).getD (i, side)

/-- A new node as it comes into the store: where it takes over a list, with what is in that list. -/
def linked (s : Store) (n : Node) : Node :=
  { n with
    children := n.lists.children.elim n.children fun g => (s.node g).children
    listeners := n.lists.listeners.elim n.listeners fun g => (s.node g).listeners
    before := n.lists.before.elim n.before fun g => (s.node g.1).hooks g.2
    after := n.lists.after.elim n.after fun g => (s.node g.1).hooks g.2
    lists := {
      children := n.lists.children.map s.childList
      listeners := n.lists.listeners.map s.listenerList
      before := n.lists.before.map fun g => s.hookList g.1 g.2
      after := n.lists.after.map fun g => s.hookList g.1 g.2 } }

/-- A node after an item is appended to a list of node `i`: longer by the item where it holds that list. -/
def taking (s : Store) (i : NodeId) (x : Item) (j : NodeId) (n : Node) : Node :=
  match x with
  | .child c => { n with children := n.children ++ if s.childList j = s.childList i then [c] else [] }
  | .listener l => { n with listeners := n.listeners ++ if s.listenerList j = s.listenerList i then [l] else [] }
  | .hook side h => { n with
      before := n.before ++ if s.hookList j .before = s.hookList i side then [h] else []
      after := n.after ++ if s.hookList j .after = s.hookList i side then [h] else [] }

/-- Appends an item to a list of a node, for all nodes that hold the list. -/
def append (s : Store) (i : NodeId) (x : Item) : Store := ⟨s.nodes.mapIdx fun j n => s.taking i x j n⟩

/-! ## Laws of the store -/

@[simp] theorem size_update (s : Store) (i : NodeId) (f : Node → Node) : (s.update i f).size = s.size := by
  simp [size, update]

theorem node_update (s : Store) (i j : NodeId) (f : Node → Node) :
    (s.update i f).node j = if i = j ∧ j < s.size then f (s.node j) else s.node j := by
  unfold node update size
  simp only [Array.getD_eq_getD_getElem?, Array.getElem?_modify]
  by_cases hi : i = j
  · by_cases hj : j < s.nodes.size
    · simp [hi, hj]
    · simp [hi, hj]
  · simp [hi]

theorem node_add (s : Store) (n : Node) (j : NodeId) :
    (s.add n).2.node j = if j = s.size then n else s.node j := by
  unfold node add size
  simp only [Array.getD_eq_getD_getElem?, Array.getElem?_push]
  split <;> simp

@[simp] theorem size_append (s : Store) (i : NodeId) (x : Item) : (s.append i x).size = s.size := by
  simp [size, append]

theorem node_append (s : Store) (i j : NodeId) (x : Item) :
    (s.append i x).node j = if j < s.size then s.taking i x j (s.node j) else s.node j := by
  unfold append size
  simp only [node, Array.getD_eq_getD_getElem?, Array.getElem?_mapIdx]
  by_cases hj : j < s.nodes.size
  · simp [hj]
  · simp [hj]

theorem children_of_size_le (s : Store) {i : NodeId} (h : s.size ≤ i) : (s.node i).children = [] := by
  unfold node
  rw [Array.getD_eq_getD_getElem?, Array.getElem?_eq_none h]
  rfl

/-! ## Trees and walks -/

/-- The subtree of a node to a depth. -/
def tree (s : Store) : Nat → NodeId → Tree
  | 0, i => .node i (s.node i) []
  | d + 1, i => .node i (s.node i) ((s.node i).children.map (s.tree d))

/-- The whole trees of some roots. -/
def forest (s : Store) (roots : List NodeId) : List Tree := roots.map (s.tree s.size)

/-- The nodes of some roots and below them, in document order. -/
def walk (s : Store) (roots : List NodeId) : List (NodeId × Node) := Tree.flattenAll (s.forest roots)

/-- The parents of a node from the nearest on, to a depth. -/
def parents (s : Store) : Nat → NodeId → List NodeId
  | 0, _ => []
  | d + 1, i => match (s.node i).parent with
    | none => []
    | some p => p :: s.parents d p

/-- The parent of a node, its parent, and so on. -/
def ancestors (s : Store) (i : NodeId) : List NodeId := s.parents s.size i

/-- The first node in document order that has a user id. -/
def findByUserId (s : Store) (roots : List NodeId) (id : String) : Option NodeId :=
  ((s.walk roots).find? fun n => n.2.userId = some id).map Prod.fst

/-! ## Initial values -/

/-- The value that a node brings into a cache: its user id and initial value, if it has both. -/
def initialEntry? (n : NodeId × Node) : Option (String × Option Value) := do
  let id ← n.2.userId
  let value ← n.2.value
  some (id, some value)

/-- The cache of the initial values below some roots, in document order. -/
def initialCache (s : Store) (roots : List NodeId) : Cache :=
  Bag.ofList ((s.walk roots).filterMap initialEntry?)

end Store

end Overlay
