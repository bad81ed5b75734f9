/-
Literals of style and anchor records in programs. Fields come in a fixed order, absent ones are
left out, and a record with nothing to write has no literal.
-/
import Overlay.Style.Record

namespace Overlay

/-- Fields between parentheses, unless there are none. -/
def parenthesized (fields : List String) : Option String :=
  if fields.isEmpty then none else some ("(" ++ ", ".intercalate fields ++ ")")

/-- `name: value` for a field that is present. -/
def fieldOf (name : String) (value : Option String) : List String :=
  (value.map fun v => name ++ ": " ++ v).toList

/-- `name: true` for a flag that is set. -/
def flagOf (name : String) (flag : Option Bool) : List String :=
  if flag = some true then [name ++ ": true"] else []

/-- Text properties in their order: colour, size, bold, uppercase. -/
def TextStyle.fields (t : TextStyle) : List String :=
  fieldOf "TextColor" t.color ++ fieldOf "FontSize" (t.size.map Size.literal) ++
    flagOf "RenderBold" t.bold ++ flagOf "RenderUppercase" t.uppercase

def TextStyle.literal (t : TextStyle) : Option String := parenthesized t.fields

namespace Bucket

/-- A bucket as the inline style of an element. -/
def inlineLiteral (b : Bucket) : Option String :=
  parenthesized (b.text.fields ++ fieldOf "VerticalAlignment" b.verticalAlignment ++
    fieldOf "HorizontalAlignment" b.horizontalAlignment ++ fieldOf "Alignment" b.alignment)

/-- What a bucket contributes to a button style: its background and its label style. -/
def buttonFields (b : Bucket) : List String :=
  fieldOf "Background" b.background ++ fieldOf "LabelStyle" (b.label.bind TextStyle.literal)

end Bucket

/-- A button style: a section for each populated state that has something to write. -/
def Style.buttonLiteral (s : Style) : Option String :=
  let sections := s.populated.filterMap fun state => do
    let body ← parenthesized (((s.bucket state).map Bucket.buttonFields).getD [])
    some (state.name ++ ": " ++ body)
  (parenthesized sections).map ("TextButtonStyle" ++ ·)

namespace Anchor

/-- The constraints that are set, by name, in the order in which they are written. -/
def fields (a : Anchor) : List (String × Int) :=
  [("Full", a.full), ("Left", a.left), ("Top", a.top), ("Right", a.right), ("Bottom", a.bottom),
    ("Width", a.width), ("Height", a.height)].filterMap fun f => f.2.map (f.1, ·)

def literal (a : Anchor) : Option String :=
  parenthesized (a.fields.map fun f => f.1 ++ ": " ++ toString f.2)

end Anchor

def Edges.literal (e : Edges) : String :=
  "(Left: " ++ toString e.left ++ ", Top: " ++ toString e.top ++ ", Right: " ++ toString e.right ++
    ", Bottom: " ++ toString e.bottom ++ ")"

end Overlay
