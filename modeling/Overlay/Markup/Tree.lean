/-
Markup trees and how they grow. A scan of markup is a sequence of steps: a tag opens, a tag stands
alone, a tag closes, text comes. The steps may come in any order; a closing tag closes the innermost
open element of its name with all that is open inside, or nothing if none is open, and what is open at
the end is closed there.
-/
import Overlay.Bag

namespace Overlay.Markup

/-- Attributes by name; an attribute without a value has `none`. -/
abbrev Attributes := Bag String (Option String)

/-- An element: its tag, its attributes, the text directly in it, and its child elements. -/
inductive Element where
  | mk (tag : String) (attributes : Attributes) (text : String) (children : List Element)

namespace Element

def tag : Element → String
  | mk t _ _ _ => t

def attributes : Element → Attributes
  | mk _ a _ _ => a

def text : Element → String
  | mk _ _ s _ => s

def children : Element → List Element
  | mk _ _ _ cs => cs

instance : Inhabited Element := ⟨mk "" Bag.empty "" []⟩

def hasAttribute (e : Element) (name : String) : Bool := e.attributes.contains name

/-- The value of an attribute, and the default where it is absent or empty. -/
def attributeOr (e : Element) (name default : String) : String :=
  match ((e.attributes.get? name).join).filter (· ≠ "") with
  | some s => s
  | none => default

def attributeText (e : Element) (name : String) : String := e.attributeOr name ""

mutual

/-- The text of an element and of all elements in it: its own first, then that of its children. -/
def fullText : Element → String
  | mk _ _ s cs => s ++ fullTextAll cs

def fullTextAll : List Element → String
  | [] => ""
  | e :: es => e.fullText ++ fullTextAll es

end

mutual

/-- The elements with a tag below an element, in document order. -/
def findAll (tag : String) : Element → List Element
  | mk _ _ _ cs => findAllIn tag cs

def findAllIn (tag : String) : List Element → List Element
  | [] => []
  | e :: es => (if e.tag = tag then [e] else []) ++ e.findAll tag ++ findAllIn tag es

end

end Element

/-! ## Growing a tree -/

inductive Step where
  | opening (tag : String) (attributes : List (String × Option String))
  | alone (tag : String) (attributes : List (String × Option String))
  | closing (tag : String)
  | data (text : String)
  deriving DecidableEq

/-- Tags that never have content. -/
def voidTags : List String := [
  "area", "base", "br", "col", "embed", "hr", "img", "input", "link", "meta", "param", "source",
  "track", "wbr"]

/-- The innermost open element and those around it, the nearest first. The last one is the root. -/
structure Opened where
  innermost : Element
  around : List Element

namespace Opened

def root : Opened := ⟨.mk "root" Bag.empty "" [], []⟩

def addChild (e child : Element) : Element := .mk e.tag e.attributes e.text (e.children ++ [child])

def addText (e : Element) (s : String) : Element := .mk e.tag e.attributes (e.text ++ s) e.children

/-- Closes the innermost element; the root stays open. -/
def close (o : Opened) : Opened :=
  match o.around with
  | [] => o
  | e :: es => ⟨addChild e o.innermost, es⟩

/-- How many elements a closing tag closes: those down to the innermost one of its name. -/
def depthOf (o : Opened) (tag : String) : Nat :=
  let names := (o.innermost :: o.around).dropLast.map Element.tag
  if tag ∈ names then names.idxOf tag + 1 else 0

def closeMany : Nat → Opened → Opened
  | 0, o => o
  | n + 1, o => closeMany n o.close

def take (o : Opened) : Step → Opened
  | .opening tag attributes =>
    let e := Element.mk tag (Bag.ofList attributes) "" []
    if tag ∈ voidTags then { o with innermost := addChild o.innermost e }
    else ⟨e, o.innermost :: o.around⟩
  | .alone tag attributes =>
    { o with innermost := addChild o.innermost (.mk tag (Bag.ofList attributes) "" []) }
  | .closing tag => closeMany (o.depthOf tag) o
  | .data text => { o with innermost := addText o.innermost text }

/-- Closes everything. -/
def finish (o : Opened) : Element := (closeMany o.around.length o).innermost

end Opened

/-- The tree that steps grow, under an element of tag `root`. -/
def Element.ofSteps (steps : List Step) : Element := (steps.foldl Opened.take Opened.root).finish

end Overlay.Markup
