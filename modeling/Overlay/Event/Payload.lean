/-
Inbound events. The engine sends a flat record; `Action` and `Target` are lifted out of it, and
every other field that is not null is kept as a text.
-/
import Overlay.Bag
import Overlay.Event.Datum

namespace Overlay

/-- One inbound event: an action, the internal id of its target, and named raw values. -/
structure Payload where
  action : String
  target : Option String
  values : Bag String String
  deriving DecidableEq

namespace Payload

def actionField : String := "Action"

def targetField : String := "Target"

/-- A field of a record as a raw value; the two fields that are lifted out and nulls are none. -/
def rawField? : String × Datum → Option (String × String)
  | (_, .null) => none
  | (name, d) => if name = actionField || name = targetField then none else some (name, d.shown)

/-- The event that a flat record describes. -/
def ofWire (wire : Bag String Datum) : Payload where
  action := ((wire.get? actionField).map Datum.shown).getD ""
  target := match wire.get? targetField with
    | none => none
    | some .null => none
    | some d => some d.shown
  values := Bag.ofList (wire.entries.filterMap rawField?)

/-- The raw value of a field. -/
def value? (p : Payload) (name : String) : Option String := p.values.get? name

/-- The names of the fields, sorted by code points. -/
def fieldNames (p : Payload) : List String := p.values.keys.mergeSort (· ≤ ·)

end Payload

end Overlay
