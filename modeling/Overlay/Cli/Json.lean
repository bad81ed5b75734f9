/-
JSON documents with fields in a given order, on one line or indented.
-/
import Overlay.Program.Command
import Overlay.Style.Resolve

namespace Overlay.Cli

open Text

inductive Json where
  | bool (b : Bool)
  | number (token : String)
  | text (s : String)
  | list (items : List Json)
  | record (fields : List (String × Json))

namespace Json

mutual

/-- A document on one line, in ASCII. -/
def compact : Json → String
  | bool b => if b then "true" else "false"
  | number t => t
  | text s => jsonString s
  | list items => "[" ++ ", ".intercalate (compactItems items) ++ "]"
  | record fields => "\x7b" ++ ", ".intercalate (compactFields fields) ++ "\x7d"

def compactItems : List Json → List String
  | [] => []
  | j :: js => j.compact :: compactItems js

def compactFields : List (String × Json) → List String
  | [] => []
  | (name, j) :: fs => (jsonString name ++ ": " ++ j.compact) :: compactFields fs

end

/-- Two blanks for each level. -/
def margin (depth : Nat) : String := String.ofList (List.replicate (2 * depth) ' ')

/-- Lines between two brackets, each a level deeper than these; nothing stands between the brackets of an
empty document. -/
def bracketed (depth : Nat) (left right : String) (lines : List String) : String :=
  if lines.isEmpty then left ++ right
  else left ++ "\n" ++ ",\n".intercalate (lines.map (margin (depth + 1) ++ ·)) ++ "\n" ++ margin depth ++ right

mutual

/-- A document with every item and field on a line of its own, two blanks further in than what holds it. -/
def indented (depth : Nat) : Json → String
  | bool b => if b then "true" else "false"
  | number t => t
  | text s => jsonStringWide s
  | list items => bracketed depth "[" "]" (indentedItems (depth + 1) items)
  | record fields => bracketed depth "\x7b" "\x7d" (indentedFields (depth + 1) fields)

def indentedItems (depth : Nat) : List Json → List String
  | [] => []
  | j :: js => j.indented depth :: indentedItems depth js

def indentedFields (depth : Nat) : List (String × Json) → List String
  | [] => []
  | (name, j) :: fs => (jsonStringWide name ++ ": " ++ j.indented depth) :: indentedFields depth fs

end

/-! ## Records of the library -/

def ofInt (n : Int) : Json := number (toString n)

def ofSize : Size → Json
  | .int n => ofInt n
  | .double x => number (Value.doubleLayout.render x)

/-- A field that is present. -/
def field? (name : String) (j : Option Json) : List (String × Json) := (j.map (name, ·)).toList

def textFields (t : TextStyle) : List (String × Json) :=
  field? "text_color" (t.color.map text) ++ field? "font_size" (t.size.map ofSize) ++
    field? "bold" (t.bold.map bool) ++ field? "uppercase" (t.uppercase.map bool)

def ofBucket (b : Bucket) : Json :=
  record (field? "background" (b.background.map text) ++ textFields b.text ++
    field? "vertical_alignment" (b.verticalAlignment.map text) ++
    field? "horizontal_alignment" (b.horizontalAlignment.map text) ++
    field? "alignment" (b.alignment.map text) ++
    field? "label_style" (b.label.map fun t => record (textFields t)))

def ofAnchor (a : Anchor) : Json :=
  record (field? "full" (a.full.map ofInt) ++ field? "left" (a.left.map ofInt) ++
    field? "top" (a.top.map ofInt) ++ field? "right" (a.right.map ofInt) ++
    field? "bottom" (a.bottom.map ofInt) ++ field? "width" (a.width.map ofInt) ++
    field? "height" (a.height.map ofInt))

def ofStyle (s : Style) : Json :=
  record [("states", record (s.entries.map fun e => (e.1.name, ofBucket e.2)))]

def ofEdit (e : PropertyEdit) : Json := record [("name", text e.name), ("literal", text e.literal)]

def ofResolution (r : Resolution) : Json :=
  record (field? "style" (r.style.map ofStyle) ++ field? "anchor" (r.anchor.map ofAnchor) ++
    [("edits", list (r.edits.map ofEdit))] ++ field? "visible" (r.visible.map bool) ++
    field? "flex_weight" (r.flexWeight.map ofInt) ++ field? "layout_mode" (r.layoutMode.map text) ++
    [("dropped", list (r.dropped.map text))])

def ofCommand (c : Command) : Json :=
  record ([("kind", text c.kindName), ("target", text c.target)] ++ field? "text" (c.text?.map text))

def ofBinding (b : Binding) : Json :=
  record [("kind", text b.event.name), ("selector", text b.selector),
    ("data", record (b.data.entries.map fun e => (e.1, text e.2)))]

def ofProgram (p : Program) : Json :=
  record [("commands", list (p.commands.map ofCommand)), ("bindings", list (p.bindings.map ofBinding))]

end Json

end Overlay.Cli
