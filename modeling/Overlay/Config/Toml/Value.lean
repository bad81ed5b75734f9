/-
TOML values and tables, and the faults of a document.
-/
import Overlay.Bag
import Overlay.Number.Token

namespace Overlay.Toml

inductive Value where
  | text (s : String)
  | bool (b : Bool)
  | integer (n : Int)
  | float (x : Double)
  | date (shown : String)
  | time (shown : String)
  | dateTime (shown : String)
  | list (items : List Value)
  | table (entries : List (String × Value))

/-- Entries with distinct keys, in the order in which they were written. -/
abbrev Table := List (String × Value)

/-- The word for the type of a value in messages. -/
def Value.typeName : Value → String
  | text _ => "str"
  | bool _ => "bool"
  | integer _ => "int"
  | float _ => "float"
  | date _ => "date"
  | time _ => "time"
  | dateTime _ => "datetime"
  | list _ => "list"
  | table _ => "dict"

/-- Whether a value is a list or a table. -/
def Value.isCompound : Value → Bool
  | list _ => true
  | table _ => true
  | _ => false

/-- Why a document cannot be read: it is no TOML, or it holds a numeral that is too long. -/
inductive Fault where
  | invalid
  | numeral (n : NumeralTooLong)
  deriving DecidableEq

abbrev Read (α : Type) := Except Fault α

/-- A value, or the fault of a document that is no TOML. -/
def required {α : Type} : Option α → Read α
  | some a => .ok a
  | none => .error .invalid

end Overlay.Toml
