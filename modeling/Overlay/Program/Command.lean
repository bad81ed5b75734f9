/-
Programs: commands in order, and the event bindings that travel beside them. A command is written
as one line, a word and its JSON strings, so a program's text has a line per command.
-/
import Overlay.Bag
import Overlay.Element.Kind
import Overlay.Text.JsonString

namespace Overlay

open Text

/-- One step of the rendering engine. -/
inductive Command where
  /-- Loads a file. -/
  | load (path : String)
  /-- Appends a fragment to the element that a selector addresses; an empty one is the root. -/
  | insert (scope fragment : String)
  /-- Assigns a literal to a property. -/
  | assign (path literal : String)
  deriving DecidableEq

namespace Command

/-- The word that names a kind of command in a dump. -/
def kindName : Command → String
  | load _ => "append"
  | insert .. => "append_inline"
  | assign .. => "set"

def target : Command → String
  | load path => path
  | insert scope _ => scope
  | assign path _ => path

/-- The fragment or literal. -/
def text? : Command → Option String
  | load _ => none
  | insert _ fragment => some fragment
  | assign _ literal => some literal

/-- A command as a line of program text. -/
def line : Command → String
  | load path => "append " ++ jsonString path
  | insert scope fragment => "inline " ++ jsonString scope ++ " " ++ jsonString fragment
  | assign path literal => "set " ++ jsonString path ++ " " ++ jsonString literal

end Command

/-- How the engine reports the events of one listener: the fields of the event, by name. -/
structure Binding where
  event : EventKind
  selector : String
  data : Bag String String
  deriving DecidableEq

/-- A complete description of an interface, or a part of one. -/
structure Program where
  commands : List Command := []
  bindings : List Binding := []
  deriving DecidableEq

namespace Program

instance : Append Program := ⟨fun a b => ⟨a.commands ++ b.commands, a.bindings ++ b.bindings⟩⟩

def empty : Program := ⟨[], []⟩

def ofCommands (cs : List Command) : Program := ⟨cs, []⟩

def ofBindings (bs : List Binding) : Program := ⟨[], bs⟩

@[simp] theorem commands_append (a b : Program) : (a ++ b).commands = a.commands ++ b.commands := rfl

@[simp] theorem bindings_append (a b : Program) : (a ++ b).bindings = a.bindings ++ b.bindings := rfl

/-- The lines of the commands, separated by line feeds. -/
def toText (p : Program) : String := "\n".intercalate (p.commands.map Command.line)

end Program

end Overlay
