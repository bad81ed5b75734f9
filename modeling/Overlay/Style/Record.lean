/-
Style and anchor records of one element. A style has a bucket per pointer state; a bucket of an
interactive kind holds a background and a nested label style, one of another kind the text and
alignment fields directly.
-/
import Overlay.Bag
import Overlay.Value

namespace Overlay

/-! ## States -/

inductive StyleState where
  | default
  | hovered
  | pressed
  | disabled
  deriving DecidableEq, Inhabited

namespace StyleState

/-- All states, in the order in which programs list them. -/
def all : List StyleState := [default, hovered, pressed, disabled]

def name : StyleState → String
  | default => "Default"
  | hovered => "Hovered"
  | pressed => "Pressed"
  | disabled => "Disabled"

def ofName? (s : String) : Option StyleState := all.find? (·.name = s)

end StyleState

/-! ## Buckets -/

/-- Text properties; a field that is absent is left to the engine. -/
structure TextStyle where
  color : Option String := none
  size : Option Size := none
  bold : Option Bool := none
  uppercase : Option Bool := none
  deriving DecidableEq, Inhabited

/-- The visual properties for one state. -/
structure Bucket where
  background : Option String := none
  text : TextStyle := {}
  verticalAlignment : Option String := none
  horizontalAlignment : Option String := none
  alignment : Option String := none
  label : Option TextStyle := none
  deriving DecidableEq, Inhabited

/-- The buckets of the states that have one. -/
abbrev Style := Bag StyleState Bucket

namespace Style

def bucket (s : Style) (state : StyleState) : Option Bucket := s.get? state

/-- The states with a bucket, in the order in which programs list them. -/
def populated (s : Style) : List StyleState := StyleState.all.filter fun state => s.contains state

end Style

/-! ## Geometry -/

/-- Edge and size constraints. Conflicting ones are kept as given. -/
structure Anchor where
  full : Option Int := none
  left : Option Int := none
  top : Option Int := none
  right : Option Int := none
  bottom : Option Int := none
  width : Option Int := none
  height : Option Int := none
  deriving DecidableEq, Inhabited

/-- A value for each edge. -/
structure Edges where
  top : Int
  right : Int
  bottom : Int
  left : Int
  deriving DecidableEq, Inhabited

/-- One value sets every edge, two are vertical then horizontal, four go round from the top. -/
def Edges.ofShorthand : List Int → Option Edges
  | [v] => some ⟨v, v, v, v⟩
  | [v, h] => some ⟨v, h, v, h⟩
  | [t, r, b, l] => some ⟨t, r, b, l⟩
  | _ => none

end Overlay
