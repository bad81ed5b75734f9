/-
Live interfaces: a tree, its value cache and its program, and the operations on them. Building
refills the cache with the initial values and emits. Updating checks and emits a new tree before
anything is swapped. Showing and hiding set the visibility of the marker node and build again.
Whatever an operation wrote before it failed stays written.
-/
import Overlay.Config.Settings
import Overlay.Event.Router
import Overlay.World

namespace Overlay

structure Interface where
  settings : Settings
  elements : List NodeId
  blocks : List Block
  baseFile : Option String
  hidden : Bool
  cache : Cache := Bag.empty
  /-- The program of the latest full build or update. -/
  program : Option Program := none
  /-- Whether programs are pushed to the host. -/
  pushes : Bool

/-- What operations on an interface work on. -/
structure Live where
  world : World
  hud : Interface

abbrev Operation := ExceptT Failure (StateM Live)

/-! ## Installing trees -/

/-- Checks a list of top-level elements, prepares the nodes and seals them. -/
def installTree (elements : Option (List NodeId)) : Edit (List NodeId) := do
  let roots ← match elements with
    | none => throw .noElements
    | some roots => pure roots
  roots.forM fun i => do
    let n ← Edit.get i
    if n.parent.isSome then throw (.attachedRoot n.kind)
  prepare roots
  roots.forM Edit.sealTree
  return roots

/-- Whether the node with the marker's id is there and not visible. -/
def markerHidden (s : Store) (elements : List NodeId) (markerId : String) : Bool :=
  match s.findByUserId elements markerId with
  | none => false
  | some i => !(s.node i).visible

/-- A new interface over some elements. -/
def Interface.start (settings : Settings) (pushes : Bool) (elements : Option (List NodeId))
    (blocks : List Block) (baseFile : Option String) : Act Interface := do
  let roots ← Act.ofEdit (installTree elements)
  return {
    settings
    elements := roots
    blocks
    baseFile := baseFile <|> settings.baseFile
    hidden := markerHidden (← Act.store) roots settings.markerId
    pushes }

namespace Operation

/-- An action on the world as an operation. -/
def act {α : Type} (a : Act α) : Operation α := do
  let l ← getThe Live
  let (result, world) := a.run l.world
  set { l with world }
  match result with
  | .ok x => return x
  | .error f => throw f

def hud : Operation Interface := return (← getThe Live).hud

def setHud (f : Interface → Interface) : Operation Unit := modifyThe Live fun l => { l with hud := f l.hud }

/-- Pushes a program, if the interface has a host to push to. -/
def push (p : Program) : Operation Unit := do
  if (← hud).pushes then act (Act.note (.push p))

/-! ## Operations -/

/-- Refills the cache from the initial values, then emits. -/
def build : Operation Program := do
  let h ← hud
  act (Act.report (.buildStarted h.baseFile h.elements.length))
  let s ← act Act.store
  setHud ({ · with cache := s.initialCache h.elements })
  let p ← act (Act.emit h.settings.setup h.elements h.blocks h.baseFile)
  setHud ({ · with program := some p })
  act (Act.report (.buildDone p.commands.length (← hud).cache.size))
  return p

/-- Routes an event over the interface's tree; `depth` bounds the routing inside of calls. -/
def handleEvent (depth : Nat) (p : Payload) : Operation (List Dispatch) := do
  let l ← getThe Live
  let (result, desk) := (route .own (l.world.store.walk l.hud.elements) depth p).run ⟨l.hud.cache, l.world.log⟩
  set { l with world := { l.world with log := desk.log }, hud := { l.hud with cache := desk.cache } : Live }
  match result with
  | .ok made => return made
  | .error f => throw f

/-- Replaces the tree, the blocks and the base file, and pushes the new program. -/
def update (elements : Option (List NodeId)) (blocks : List Block) (baseFile : Option String) :
    Operation Program := do
  let h ← hud
  let roots ← act (Act.ofEdit (installTree elements))
  let base := baseFile <|> h.settings.baseFile
  let s ← act Act.store
  let staged := s.initialCache roots
  let p ← act (Act.emit h.settings.setup roots blocks base)
  setHud ({ · with elements := roots, blocks, baseFile := base, cache := staged, program := some p })
  act (Act.report (.updated roots.length p.commands.length))
  push p
  return p

/-- Sets the visibility of the marker node, builds and pushes. -/
def setVisibility (visible : Bool) : Operation Program := do
  let h ← hud
  let s ← act Act.store
  match s.findByUserId h.elements h.settings.markerId with
  | none => throw (.violation (.noMarker h.settings.markerId))
  | some i =>
    act (Act.ofEdit (Edit.setVisible i visible))
    setHud ({ · with hidden := !visible })
    act (Act.report (.visibility visible))
    let p ← build
    push p
    return p

def showAll : Operation Program := setVisibility true

def hideAll : Operation Program := setVisibility false

end Operation

end Overlay
