/-
Building nodes. Every operation either goes through or leaves the store as it was. A sealed node
refuses a new user id, and additions to its children, its listeners and its hooks; its other fields
stay open. Only the node that is named is asked for its seal: what it takes up comes to every node that
holds the same list. A node is attached to at most one parent, and not to one that has it above by the
chain of parents, which is not the chain of those who list it.
-/
import Overlay.Element.Store

namespace Overlay

/-- A change of the store that may break a structural rule. -/
abbrev Edit := ExceptT Violation (StateM Store)

namespace Edit

def get (i : NodeId) : Edit Node := return (← getThe Store).node i

def change (i : NodeId) (f : Node → Node) : Edit Unit := modifyThe Store (·.update i f)

/-- Creates a node, with lists of its own or over lists of other nodes. -/
def create (n : Node) : Edit NodeId := modifyGetThe Store fun s => s.add (s.linked n)

/-- Refuses a node that belongs to a built interface. -/
def checkOpen (i : NodeId) : Edit Unit := do
  let n ← get i
  if n.isSealed then throw (.sealedNode n.label)

/-- Changes what a seal protects. -/
def changeOpen (i : NodeId) (f : Node → Node) : Edit Unit := do
  checkOpen i
  change i f

/-- Appends an item to a list of an open node. -/
def append (i : NodeId) (x : Item) : Edit Unit := do
  checkOpen i
  modifyThe Store (·.append i x)

/-! ## Fields -/

def setUserId (i : NodeId) (id : String) : Edit Unit := changeOpen i ({ · with userId := some id })

def setVisible (i : NodeId) (b : Bool) : Edit Unit := change i ({ · with visible := b })

def setText (i : NodeId) (s : String) : Edit Unit := change i ({ · with text := some s })

def setTooltip (i : NodeId) (s : String) : Edit Unit := change i ({ · with tooltip := some s })

def setFlexWeight (i : NodeId) (n : Int) : Edit Unit := change i ({ · with flexWeight := some n })

def setLayoutMode (i : NodeId) (mode : String) : Edit Unit := change i ({ · with layoutMode := some mode })

def setStyle (i : NodeId) (s : Style) : Edit Unit := change i ({ · with style := some s })

def setAnchor (i : NodeId) (a : Anchor) : Edit Unit := change i ({ · with anchor := some a })

def setValue (i : NodeId) (v : Option Value) : Edit Unit := change i ({ · with value := v })

/-! ## Structure -/

/-- Appends a child. -/
def addChild (parent child : NodeId) : Edit Unit := do
  checkOpen parent
  let c ← get child
  if c.parent.isSome then throw (.alreadyAttached c.label)
  if child = parent ∨ child ∈ (← getThe Store).ancestors parent then throw (.cycle c.label)
  change child ({ · with parent := some parent })
  modifyThe Store (·.append parent (.child child))

/-- Registers a callback for one kind of event. -/
def listen (i : NodeId) (event : EventKind) (callback : Callback) : Edit Unit :=
  append i (.listener ⟨event, callback⟩)

/-- Adds an edit of the program just before a node is defined. -/
def hookBefore (i : NodeId) (h : Hook) : Edit Unit := append i (.hook .before h)

/-- Adds an edit of the program after a node and its subtree. -/
def hookAfter (i : NodeId) (h : Hook) : Edit Unit := append i (.hook .after h)

/-- Freezes identity, structure and listeners of a node and its subtree. -/
def sealTree (i : NodeId) : Edit Unit := do
  let nodes := (← getThe Store).walk [i]
  nodes.forM fun n => change n.1 ({ · with isSealed := true })

end Edit

end Overlay
