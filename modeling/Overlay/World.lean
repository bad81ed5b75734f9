/-
The world of a host: its nodes and what happened so far. Actions change the world and may fail;
what they did before failing stays done.
-/
import Overlay.Element.Prepare
import Overlay.Program.Emit
import Overlay.Report.Log

namespace Overlay

structure World where
  store : Store := {}
  log : Log := []

abbrev Act := ExceptT Failure (StateM World)

namespace Act

def store : Act Store := return (← getThe World).store

/-- Adds an entry to the log. -/
def note (e : Entry) : Act Unit := modifyThe World fun w => { w with log := w.log ++ [e] }

def report (r : Report) : Act Unit := note (.report r)

/-- A change of the store as an action. -/
def ofEdit {α : Type} (e : Edit α) : Act α := do
  let w ← getThe World
  let (result, store) := e.run w.store
  set { w with store }
  match result with
  | .ok a => return a
  | .error v => throw (.violation v)

def ofExcept {α : Type} (r : Except Failure α) : Act α := ExceptT.mk (pure r)

/-- The program of some roots as they are now. Only an emission that succeeds is reported. -/
def emit (setup : Setup) (roots : List NodeId) (blocks : List Block) (baseFile : Option String) :
    Act Program := do
  let s ← store
  let p ← ofExcept (Overlay.emit setup (s.forest roots) blocks baseFile)
  report (.emitted p.commands.length p.bindings.length)
  return p

end Act

end Overlay
