/-
Emission: the program of prepared trees. First the base file and the blocks, then a segment per
root. The segment of a node holds, in this order, what its hooks before it add, the definition of its
style if that has a name, its own definition and bindings, the segments of its children, the use of
the named style, and what its hooks after it add. Names of styles are digests of selectors, so they
stay the same from one build to the next; two selectors under one name are refused.
-/
import Overlay.Digest.Sha1
import Overlay.Element.Store
import Overlay.Program.Definition

namespace Overlay

open Text

/-- Where top-level nodes are put, and what names of styles begin with. -/
structure Setup where
  rootSelector : String := ""
  styleStem : String := "CustomStyle"
  deriving DecidableEq

/-- An edit of the whole program, made before any node. Like a hook, a block is taken as what it adds, without a look
at the program so far. -/
abbrev Block := Except Failure Program

/-- The selectors of the named styles so far, by name. -/
abbrev StyleNames := Bag String String

/-- The selector of a node inside a scope. -/
def Node.selector (n : Node) (scope : String) : Except Failure String :=
  match n.internalId with
  | none => .error (.violation (.unprepared n.kind))
  | some id => .ok (trim (scope ++ " #" ++ id))

/-- The name of the style of the element under a selector. -/
def styleName (stem selector : String) : String := stem ++ ((Sha1.hex selector).take 12).toString

/-- The fields of the event that one listener asks the engine for. -/
def Node.bindingData (n : Node) (event : EventKind) (selector : String) : List (String × String) :=
  [("Action", event.action), ("Target", n.internalId.getD "")] ++
    match event with
    | .activating => []
    | .valueChanged => [("@" ++ n.kind.valueField.name, selector ++ ".Value")]

def Node.bindings (n : Node) (selector : String) : List Binding :=
  n.listeners.map fun l => ⟨l.event, selector, Bag.ofList (n.bindingData l.event selector)⟩

/-- What a list of hooks adds; the first one that gives up ends it. -/
def runHooks : List Hook → String → Except Failure Program
  | [], _ => .ok .empty
  | h :: hs, selector => do
    let first ← h.run selector
    return first ++ (← runHooks hs selector)

/-- The literal of a node's style, if it needs a name. -/
def Node.namedStyle (n : Node) : Option String :=
  if n.kind.isInteractive then n.style.bind Style.buttonLiteral else none

/-- Takes the name of a style for a selector. -/
def StyleNames.claim (names : StyleNames) (name selector : String) : Except Failure StyleNames :=
  match names.get? name with
  | none => .ok (names.put name selector)
  | some owner =>
    if owner = selector then .ok names else .error (.violation (.styleNameTaken name owner selector))

/-- Defines a node's style under a name, if it needs one: the commands before the node's definition
and after its subtree. -/
def Node.hoist (n : Node) (setup : Setup) (scope selector : String) (names : StyleNames) :
    Except Failure (List Command × List Command × StyleNames) :=
  match n.namedStyle with
  | none => .ok ([], [], names)
  | some literal => do
    let name := styleName setup.styleStem selector
    let names ← names.claim name selector
    return ([.insert scope ("@" ++ name ++ " = " ++ literal ++ ";")],
      [.assign (selector ++ ".Style") ("$." ++ name)], names)

mutual

/-- The segment of a tree inside a scope. -/
def Tree.emit (setup : Setup) (scope : String) (names : StyleNames) :
    Tree → Except Failure (Program × StyleNames)
  | .node _ n ts => do
    let selector ← n.selector scope
    let before ← runHooks n.before selector
    let (define, use, names) ← n.hoist setup scope selector names
    let own : Program := ⟨define ++ [.insert scope n.definition], n.bindings selector⟩
    let (inner, names) ← Tree.emitAll setup selector names ts
    let after ← runHooks n.after selector
    return (before ++ own ++ inner ++ .ofCommands use ++ after, names)

/-- The segments of trees in order. -/
def Tree.emitAll (setup : Setup) (scope : String) (names : StyleNames) :
    List Tree → Except Failure (Program × StyleNames)
  | [] => .ok (.empty, names)
  | t :: ts => do
    let (first, names) ← t.emit setup scope names
    let (rest, names) ← Tree.emitAll setup scope names ts
    return (first ++ rest, names)

end

/-- What blocks add; the first one that gives up ends it. -/
def runBlocks : List Block → Except Failure Program
  | [] => .ok .empty
  | b :: bs => do
    let first ← b
    return first ++ (← runBlocks bs)

/-- The command that loads a base file, if one is named. -/
def loadBase (baseFile : Option String) : Program :=
  match baseFile with
  | none => .empty
  | some path => if path.isEmpty then .empty else .ofCommands [.load path]

/-- The program of some trees. -/
def emit (setup : Setup) (trees : List Tree) (blocks : List Block) (baseFile : Option String) :
    Except Failure Program := do
  let edits ← runBlocks blocks
  let (segments, _) ← Tree.emitAll setup setup.rootSelector Bag.empty trees
  return loadBase baseFile ++ edits ++ segments

end Overlay
