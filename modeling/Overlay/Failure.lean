/-
Why an operation fails. Malformed style and markup input is dropped and reported, so failures are
for broken structure, for client code that gives up, for numerals too long to read, and for
settings that cannot be used. Each cause has one wording.
-/
import Overlay.Element.Kind
import Overlay.Markup.Fault

namespace Overlay

open Text

/-! ## Structure -/

/-- Which of its two ids a node shares with another. -/
inductive IdField where
  | user
  | internal
  deriving DecidableEq

def IdField.name : IdField → String
  | user => "id"
  | internal => "internal id"

/-- A structural rule that a caller broke. The texts name nodes by kind and id. -/
inductive Violation where
  | sealedNode (label : String)
  | alreadyAttached (label : String)
  | cycle (label : String)
  | reachedTwice (label : String)
  | foreignParent (label : String)
  | duplicateId (field : IdField) (id : String)
  | unprepared (kind : Kind)
  | styleNameTaken (name owner selector : String)
  | attachedRoot (kind : Kind)
  | noElements
  | noMarker (id : String)
  deriving DecidableEq

/-- A message with the element that it is about in front, if one is named. -/
def located (message : String) : Option String → String
  | none => message
  | some element => if element.isEmpty then message else element ++ ": " ++ message

/-- The message about two nodes with one id. -/
def duplicateMessage (field id : String) : String :=
  "duplicate " ++ field ++ " '" ++ id ++ "' in element tree"

namespace Violation

/-- What is wrong. -/
def message : Violation → String
  | sealedNode _ => "node belongs to a built interface; rebuild the tree to change it"
  | alreadyAttached _ => "node is already attached to a parent"
  | cycle _ => "attaching this node would create a cycle"
  | reachedTwice _ => "node appears more than once in the tree"
  | foreignParent _ => "node is attached to a different parent"
  | duplicateId field id => duplicateMessage field.name id
  | unprepared _ => "node has no internal id; it was never placed in a prepared tree"
  | styleNameTaken name owner _ => "style variable '" ++ name ++ "' already defined for " ++ owner
  | attachedRoot _ => "top-level element is attached to a parent"
  | noElements => "interface has no element list"
  | noMarker id => "no element with id '" ++ id ++ "' to toggle visibility on"

/-- Which element it is about. -/
def element? : Violation → Option String
  | sealedNode label => some label
  | alreadyAttached label => some label
  | cycle label => some label
  | reachedTwice label => some label
  | foreignParent label => some label
  | duplicateId .. => none
  | unprepared kind => some kind.name
  | styleNameTaken _ _ selector => some selector
  | attachedRoot kind => some kind.name
  | noElements => none
  | noMarker _ => none

def text (v : Violation) : String := located v.message v.element?

end Violation

/-! ## All failures -/

def NumeralTooLong.message (n : NumeralTooLong) : String :=
  "Exceeds the limit (" ++ toString Token.digitLimit ++
    " digits) for integer string conversion: value has " ++ toString n.digits ++
    " digits; use sys.set_int_max_str_digits() to increase the limit"

/-- The closed vocabularies that client code names words of. -/
inductive Vocabulary where
  | elementKind
  | eventKind
  deriving DecidableEq

def Vocabulary.name : Vocabulary → String
  | elementKind => "ElementKind"
  | eventKind => "EventKind"

/-- Why an operation on nodes, programs or interfaces stopped. -/
inductive Failure where
  | violation (v : Violation)
  /-- A hook, a block or a callback gave up. -/
  | raised (message : String)
  | unknownWord (vocabulary : Vocabulary) (word : String)
  | numeral (n : NumeralTooLong)
  | markup (f : Markup.Fault)
  /-- Callbacks routed further events beyond the depth that was allowed. -/
  | nestedTooDeep
  deriving DecidableEq

def Failure.message : Failure → String
  | violation v => v.text
  | raised message => message
  | unknownWord vocabulary word => quoted word ++ " is not a valid " ++ vocabulary.name
  | numeral n => n.message
  | markup f => f.message
  | nestedTooDeep => "maximum recursion depth exceeded"

end Overlay
