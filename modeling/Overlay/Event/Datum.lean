/-
Data of the engine's events and of reports: null, truth values, numbers, texts, lists and records.
`shown` is the text of a datum by itself, `inspected` the text that tells a text from a number; they
differ for texts alone, and inside a list or record every datum is inspected.
-/
import Overlay.Text.Quoted
import Overlay.Value

namespace Overlay

open Text

inductive Datum where
  | null
  | bool (b : Bool)
  | int (n : Int)
  | double (x : Double)
  | text (s : String)
  | list (items : List Datum)
  | record (fields : List (String × Datum))
  deriving Inhabited

namespace Datum

mutual

def inspected : Datum → String
  | null => "None"
  | bool b => if b then "True" else "False"
  | int n => toString n
  | double x => Value.doubleLayout.render x
  | text s => quoted s
  | list items => "[" ++ ", ".intercalate (inspectedItems items) ++ "]"
  | record fields => "\x7b" ++ ", ".intercalate (inspectedFields fields) ++ "\x7d"

def inspectedItems : List Datum → List String
  | [] => []
  | d :: ds => d.inspected :: inspectedItems ds

def inspectedFields : List (String × Datum) → List String
  | [] => []
  | (name, d) :: fs => (quoted name ++ ": " ++ d.inspected) :: inspectedFields fs

end

def shown : Datum → String
  | text s => s
  | d => d.inspected

end Datum

end Overlay
