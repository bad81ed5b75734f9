/-
Reports: what building, emitting and routing say that they did. Each has a name and named fields; a
record is that outer form, which also carries reports of other programs.
-/
import Overlay.Event.Datum
import Overlay.Style.Resolve

namespace Overlay

/-- A report in its outer form. Of a field that is given twice, the last value counts. -/
structure Record where
  name : String
  fields : Bag String Datum

inductive Report where
  | styleDropped (kind : Kind) (drop : Drop)
  | emitted (commands bindings : Nat)
  | received (action : String) (target : Option String) (fields : List String)
  | dispatched (target : String) (listener : EventKind)
  | unreadable (action : String) (target : String) (raw : String)
  | unmatched (action : String) (target : Option String)
  | buildStarted (baseFile : Option String) (elements : Nat)
  | buildDone (commands values : Nat)
  | updated (elements commands : Nat)
  | visibility (visible : Bool)
  deriving DecidableEq

def Datum.ofText? (s : Option String) : Datum := (s.map Datum.text).getD .null

def Datum.ofNat (n : Nat) : Datum := .int n

def Report.name : Report → String
  | .styleDropped .. => "style.dropped"
  | .emitted .. => "emit.done"
  | .received .. => "event.received"
  | .dispatched .. => "event.dispatched"
  | .unreadable .. => "event.dropped"
  | .unmatched .. => "event.dropped"
  | .buildStarted .. => "build.start"
  | .buildDone .. => "build.done"
  | .updated .. => "interface.updated"
  | .visibility .. => "interface.visibility"

def Report.fields : Report → List (String × Datum)
  | .styleDropped kind d => [("kind", .text kind.name), ("property", .text d.property),
      ("value", .text d.value), ("reason", .text d.reason.text)]
  | .emitted commands bindings => [("commands", .ofNat commands), ("bindings", .ofNat bindings)]
  | .received action target fields => [("action", .text action), ("target", .ofText? target),
      ("fields", .list (fields.map .text))]
  | .dispatched target listener => [("target", .text target), ("listener", .text listener.name)]
  | .unreadable action target raw => [("action", .text action), ("target", .text target),
      ("reason", .text "unparseable value"), ("raw", .text raw)]
  | .unmatched action target => [("action", .text action), ("target", .ofText? target),
      ("reason", .text "no listener matched")]
  | .buildStarted baseFile elements => [("base_file", .ofText? baseFile), ("elements", .ofNat elements)]
  | .buildDone commands values => [("commands", .ofNat commands), ("values", .ofNat values)]
  | .updated elements commands => [("elements", .ofNat elements), ("commands", .ofNat commands)]
  | .visibility visible => [("visible", .bool visible)]

def Report.record (r : Report) : Record := ⟨r.name, .ofList r.fields⟩

end Overlay
