/-
Assemblies: elements, blocks and a base file, gathered one by one and then made into an interface or
put into one that is live.
-/
import Overlay.Live.Interface

namespace Overlay

structure Assembly where
  settings : Settings
  baseFile : Option String
  elements : List NodeId := []
  blocks : List Block := []

namespace Assembly

def empty (settings : Settings) : Assembly := { settings, baseFile := settings.baseFile }

/-- Loads this file before anything else. -/
def setBaseFile (a : Assembly) (path : String) : Assembly := { a with baseFile := some path }

def addElement (a : Assembly) (i : NodeId) : Assembly := { a with elements := a.elements ++ [i] }

def addBlock (a : Assembly) (b : Block) : Assembly := { a with blocks := a.blocks ++ [b] }

/-- A new interface with the content of an assembly. -/
def start (a : Assembly) (pushes : Bool) : Act Interface :=
  Interface.start a.settings pushes (some a.elements) a.blocks a.baseFile

/-- Puts the content of an assembly into a live interface. -/
def updateLive (a : Assembly) : Operation Program :=
  Operation.update (some a.elements) a.blocks a.baseFile

end Assembly

end Overlay
