/-
The log of a session, in the order in which things happened: reports, calls of callbacks, values
that callbacks read, failures with which they gave up, and programs pushed to the host.
-/
import Overlay.Element.Node
import Overlay.Report.Basic

namespace Overlay

inductive Entry where
  | report (r : Report)
  | call (c : Call)
  | read (id : String) (value : Option Value)
  | raised (failure : Failure)
  | push (program : Program)

abbrev Log := List Entry

namespace Log

/-- The calls of callbacks so far, the latest last. -/
def calls (l : Log) : List Call := l.filterMap fun
  | .call c => some c
  | _ => none

def reports (l : Log) : List Report := l.filterMap fun
  | .report r => some r
  | _ => none

/-- The programs that were pushed. -/
def pushes (l : Log) : List Program := l.filterMap fun
  | .push p => some p
  | _ => none

end Log

end Overlay
