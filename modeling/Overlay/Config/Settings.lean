/-
The settings that all interfaces of a host share.
-/
import Overlay.Program.Emit

namespace Overlay

structure Settings where
  /-- The file that programs load first. -/
  baseFile : Option String := none
  /-- The user id of the node that showing and hiding works on. -/
  markerId : String := "HudRoot"
  /-- The scope that top-level nodes are put into. -/
  rootSelector : String := ""
  /-- What the names of styles begin with. -/
  styleStem : String := "CustomStyle"
  logLevel : String := "INFO"
  deriving DecidableEq

def Settings.setup (s : Settings) : Setup := ⟨s.rootSelector, s.styleStem⟩

end Overlay
