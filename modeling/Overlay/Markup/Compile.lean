/-
Compiling markup into nodes. Each element goes to the first handler that accepts it; one that no
handler accepts is passed over, and its children are compiled in its place. Handlers may use the
nodes of the element's children, and the attributes that every element understands are the same for
all of them.
-/
import Overlay.Markup.Scanner
import Overlay.Style.Restyle

namespace Overlay.Markup

open Text

/-- Turns one kind of markup element into a node, or into nothing. The action that it is given compiles
the children of the element. -/
structure Handler where
  accepts : Element → Bool
  handle : Element → Act (List NodeId) → Act (Option NodeId)

mutual

/-- The nodes of one element. -/
def compileElement (handlers : List Handler) : Element → Act (List NodeId)
  | .mk tag attributes text children =>
    let e := Element.mk tag attributes text children
    let inner := compileAll handlers children
    match handlers.find? (·.accepts e) with
    | none => inner
    | some h => do return (← h.handle e inner).toList

/-- The nodes of elements, in document order. -/
def compileAll (handlers : List Handler) : List Element → Act (List NodeId)
  | [] => return []
  | e :: es => do
    let first ← compileElement handlers e
    return first ++ (← compileAll handlers es)

end

/-- The top-level nodes of a markup tree. -/
def compile (handlers : List Handler) (root : Element) : Act (List NodeId) :=
  compileAll handlers root.children

/-- The top-level nodes of a markup text. -/
def compileText (handlers : List Handler) (markup : String) : Act (List NodeId) := do
  compile handlers (← Act.ofExcept (Element.ofMarkup markup))

/-! ## Attributes of every element -/

def tooltipAttribute : String := "data-hyui-tooltiptext"

def flexWeightAttribute : String := "data-hyui-flexweight"

/-- Applies the id, the tooltip, the flex weight and the style of an element to a node. The style comes
last, so a weight in it wins. -/
def applyAttributes (i : NodeId) (e : Element) : Act Unit := do
  let id := trim (e.attributeText "id")
  if !id.isEmpty then Act.ofEdit (Edit.setUserId i id)
  if e.hasAttribute tooltipAttribute then
    Act.ofEdit (Edit.setTooltip i (e.attributeText tooltipAttribute))
  if e.hasAttribute flexWeightAttribute then
    let weight ← Act.ofExcept ((readPixels (e.attributeText flexWeightAttribute)).mapError .numeral)
    Act.ofEdit (Edit.whenSome weight (Edit.setFlexWeight i))
  let style := e.attributeText "style"
  if !style.isEmpty then
    let _ ← Act.applyStyles i (Properties.ofStyle style)

/-! ## Rules -/

/-- What a rule takes from the content of an element. -/
inductive Content where
  | nothing
  | children
  | text
  | rawText
  deriving DecidableEq

/-- A handler in the form of data: elements of a tag, or of any, that have an attribute, or not, become
a node of a kind, or nothing. -/
structure Rule where
  tag : Option String
  requires : Option String := none
  kind : Option Kind
  content : Content := .nothing
  valueAttribute : Option String := none

namespace Rule

def accepts (r : Rule) (e : Element) : Bool :=
  (r.tag.all (· = e.tag)) && (r.requires.all e.hasAttribute)

/-- Puts what a rule takes from an element's content into a node. -/
def takeContent (r : Rule) (i : NodeId) (e : Element) (inner : Act (List NodeId)) : Act Unit := do
  match r.content with
  | .nothing => pure ()
  | .children => (← inner).forM fun c => Act.ofEdit (Edit.addChild i c)
  | .text => Act.ofEdit (Edit.setText i (trim e.fullText))
  | .rawText => Act.ofEdit (Edit.setText i e.fullText)

def handle (r : Rule) (e : Element) (inner : Act (List NodeId)) : Act (Option NodeId) := do
  match r.kind with
  | none => return none
  | some kind =>
    let i ← Act.ofEdit (Edit.create { kind })
    r.takeContent i e inner
    match r.valueAttribute with
    | none => pure ()
    | some name =>
      if e.hasAttribute name then
        let value ← Act.ofExcept ((kind.readValue (e.attributeText name)).mapError .numeral)
        Act.ofEdit (Edit.setValue i value)
    applyAttributes i e
    return some i

def handler (r : Rule) : Handler := ⟨r.accepts, r.handle⟩

end Rule

end Overlay.Markup
