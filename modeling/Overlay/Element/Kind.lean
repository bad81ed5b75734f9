/-
The closed set of element kinds and what is fixed for each: its type name in programs, whether it
reacts to the pointer, whether it holds a layout, and how it reports a value.
-/
import Overlay.Value

namespace Overlay

inductive Kind where
  | group
  | button
  | label
  | textField
  | numberField
  | slider
  | checkbox
  deriving DecidableEq, Inhabited

/-- The field of an event that carries a changed value. -/
inductive ValueField where
  | value
  | refValue
  deriving DecidableEq

def ValueField.name : ValueField → String
  | .value => "Value"
  | .refValue => "RefValue"

namespace Kind

def all : List Kind := [group, button, label, textField, numberField, slider, checkbox]

/-- The word for a kind in settings, messages and reports. -/
def name : Kind → String
  | group => "group"
  | button => "button"
  | label => "label"
  | textField => "text_field"
  | numberField => "number_field"
  | slider => "slider"
  | checkbox => "checkbox"

def ofName? (s : String) : Option Kind := all.find? (·.name = s)

/-- The type of a kind in programs, and the stem of generated ids. -/
def typeName : Kind → String
  | group => "Group"
  | button => "TextButton"
  | label => "Label"
  | textField => "TextField"
  | numberField => "NumberField"
  | slider => "Slider"
  | checkbox => "CheckBox"

/-- Interactive kinds have a style per pointer state, defined under a name of its own. -/
def isInteractive : Kind → Bool
  | button => true
  | _ => false

/-- Containers take a layout mode and padding. -/
def isContainer : Kind → Bool
  | group => true
  | _ => false

def valueField : Kind → ValueField
  | checkbox => .refValue
  | _ => .value

/-- How a kind reads the raw text of a changed value; groups, buttons and labels report none. -/
def readValue : Kind → String → Reading Value
  | textField => Value.readText
  | numberField => Value.readNumber
  | slider => Value.readInteger
  | checkbox => Value.readBool
  | _ => fun _ => .ok none

end Kind

/-! ## Events of elements -/

/-- What a listener waits for. -/
inductive EventKind where
  | activating
  | valueChanged
  deriving DecidableEq, Inhabited

namespace EventKind

def all : List EventKind := [activating, valueChanged]

def name : EventKind → String
  | activating => "Activating"
  | valueChanged => "ValueChanged"

def ofName? (s : String) : Option EventKind := all.find? (·.name = s)

/-- The action under which the engine reports an event of the kind. -/
def action : EventKind → String
  | activating => "ButtonClicked"
  | valueChanged => "ValueChanged"

end EventKind

end Overlay
