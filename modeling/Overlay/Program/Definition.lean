/-
The definition of one node in a program: its type, its internal id and the properties that are set,
in a fixed order. The children are defined by programs of their own, and the style of an interactive
kind by a name.
-/
import Overlay.Element.Node
import Overlay.Style.Literal

namespace Overlay.Node

/-- The style that an element of a plain kind carries inline. -/
def inlineStyle (n : Node) : Option String :=
  if n.kind.isInteractive then none else n.style.bind fun s => (s.bucket .default).bind Bucket.inlineLiteral

/-- The properties that a definition lists, by name, each with its literal. -/
def properties (n : Node) : List (String × String) :=
  [("Text", n.text.map Value.textLiteral),
    ("Value", n.value.map fun v => Value.literal (some v)),
    ("Visible", if n.visible then none else some "false"),
    ("FlexWeight", n.flexWeight.map toString),
    ("LayoutMode", if n.kind.isContainer then n.layoutMode else none),
    ("TooltipText", n.tooltip.map Value.textLiteral),
    ("Anchor", n.anchor.bind Anchor.literal),
    ("Style", n.inlineStyle)].filterMap fun p => p.2.map (p.1, ·)

/-- A node's own definition; without an internal id it shows `None`. -/
def definition (n : Node) : String :=
  let header := n.kind.typeName ++ " #" ++ n.internalId.getD "None"
  let body := n.properties.map fun p => p.1 ++ ": " ++ p.2 ++ ";"
  if body.isEmpty then header ++ " \x7b\x7d" else header ++ " \x7b " ++ " ".intercalate body ++ " \x7d"

end Overlay.Node
