/-
Nodes: one type for every kind of element, with its fields, its children by id, the callbacks that
listen on it and the hooks that edit the program around it. Client code appears as data: a hook is
the program that it adds, and a callback is the script that it follows. The lists of a node grow in
place, and nodes that were created over one list hold it together, so a list has a name of its own.
-/
import Overlay.Event.Cache
import Overlay.Event.Payload
import Overlay.Failure
import Overlay.Program.Command
import Overlay.Style.Record

namespace Overlay

/-- Nodes live in a store and are named by their place in it. -/
abbrev NodeId := Nat

/-! ## Client code -/

/-- A call that a routing has made, as the callback learns of it that had the event routed. -/
structure Made where
  node : NodeId
  event : EventKind
  callback : Nat
  value : Option Value

/-- What a callback does: it reads values, has further events routed, and returns or gives up. How it goes on
depends on the values and on what comes of the routings: the calls that were made, or a failure, which does not end
the callback. -/
inductive Script where
  | done
  | raise (failure : Failure)
  | read (id : String) (next : Option Value → Script)
  | send (event : Payload) (next : Except Failure (List Made) → Script)

/-- Has an event routed without asking for the calls; a failure of the routing is raised. -/
def Script.route (event : Payload) (next : Script) : Script :=
  .send event fun
    | .ok _ => next
    | .error f => .raise f

/-- One call of a callback: on which node and for which kind of event, whose, with which value, and what
the cache held at that moment. -/
structure Call where
  node : NodeId
  event : EventKind
  callback : Nat
  value : Option Value
  cache : Cache

/-- A callback. What it does may depend on the calls of all callbacks before, the latest last. -/
structure Callback where
  id : Nat
  script : List Call → Option Value → Script

/-- A callback registered on a node for one kind of event. -/
structure Listener where
  event : EventKind
  callback : Callback

/-- An edit of the program around a node; it receives the node's selector. A hook is taken as what it adds: it does
not look at the program so far, nor does it change what is there. -/
inductive Hook where
  /-- Assigns one property of the node. -/
  | assign (name literal : String)
  | custom (run : String → Except Failure Program)

/-- What a hook adds to the program. -/
def Hook.run : Hook → String → Except Failure Program
  | assign name literal, selector => .ok (.ofCommands [.assign (selector ++ "." ++ name) literal])
  | custom run, selector => run selector

/-! ## Lists -/

/-- Hooks run before a node or after it. -/
inductive Side where
  | before
  | after
  deriving DecidableEq

/-- The lists that a node holds. A list has the name of the node that it was made for, a list of hooks
also the side; where there is no name, the list was made for the node itself. -/
structure Lists where
  children : Option NodeId := none
  listeners : Option NodeId := none
  before : Option (NodeId × Side) := none
  after : Option (NodeId × Side) := none

def Lists.hooks (l : Lists) : Side → Option (NodeId × Side)
  | .before => l.before
  | .after => l.after

/-- What is appended to a list of a node. -/
inductive Item where
  | child (c : NodeId)
  | listener (l : Listener)
  | hook (side : Side) (h : Hook)

/-! ## Nodes -/

/-- A node, with what is in its lists and with the names of these. -/
structure Node where
  kind : Kind
  userId : Option String := none
  internalId : Option String := none
  visible : Bool := true
  text : Option String := none
  tooltip : Option String := none
  flexWeight : Option Int := none
  layoutMode : Option String := none
  style : Option Style := none
  anchor : Option Anchor := none
  value : Option Value := none
  children : List NodeId := []
  listeners : List Listener := []
  before : List Hook := []
  after : List Hook := []
  lists : Lists := {}
  parent : Option NodeId := none
  isSealed : Bool := false

namespace Node

instance : Inhabited Node := ⟨{ kind := .group }⟩

/-- The first of the ids that is present and not empty. -/
def shownId (n : Node) : Option String :=
  match n.userId.filter (· ≠ "") with
  | some id => some id
  | none => n.internalId.filter (· ≠ "")

def hooks (n : Node) : Side → List Hook
  | .before => n.before
  | .after => n.after

/-- How messages name a node. -/
def label (n : Node) : String :=
  match n.shownId with
  | some id => n.kind.name ++ "#" ++ id
  | none => n.kind.name

end Node

end Overlay
