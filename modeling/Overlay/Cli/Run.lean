/-
What the command line answers. Resolving shows what a style comes to for one kind of element, and the
program of one such element; the version is one line.
-/
import Overlay.Cli.Arguments
import Overlay.Cli.Json
import Overlay.Cli.Table
import Overlay.Config.Load
import Overlay.Style.Restyle
import Overlay.Terminal.Line

namespace Overlay.Cli

open Text

/-- What a run ends with. -/
structure Output where
  exitCode : Nat
  stdout : String := ""
  deriving DecidableEq

/-- The answer to a command line that is misused. -/
def misuse : Output := { exitCode := 2 }

/-- Why a run breaks off without an answer. -/
inductive Crash where
  | settings (f : ConfigFault)
  | failure (f : Failure)
  | line (f : Terminal.Fault)

/-- The version of an installed library; one that is not installed has the null version. -/
def versionText (installed : Bool) : String := if installed then "0.3.0" else "0.0.0"

/-- The user id of the element that is shown. -/
def previewId : String := "Preview"

/-! ## Output -/

def printed (lines : List String) : Output :=
  { exitCode := 0, stdout := String.join (lines.map (· ++ "\n")) }

/-- The lines of a text with style tags. -/
def shownLines (s : String) : Except Crash (List String) :=
  ((Terminal.Shown.ofLine s).bind (·.lines Terminal.width .cut)).mapError .line

/-- The answer to a failure with a message. -/
def errorOutput (message : String) : Except Crash Output := do
  return { printed (← shownLines ("[red]Error:[/red] " ++ message)) with exitCode := 1 }

/-- The rows about a resolution. -/
def resolutionRows (r : Resolution) : List Row :=
  let style := (r.style.map (·.entries)).getD []
  style.map (fun e => ("style." ++ e.1.name, (Json.ofBucket e.2).compact)) ++
    (r.anchor.map fun a => ("anchor", (Json.ofAnchor a).compact)).toList ++
    (r.visible.map fun b => ("visible", if b then "True" else "False")).toList ++
    (r.flexWeight.map fun n => ("flex_weight", toString n)).toList ++
    (r.layoutMode.map fun m => ("layout_mode", m)).toList ++
    r.edits.map fun e => ("set ." ++ e.name, e.literal)

def dropLine (d : Drop) : String :=
  "[yellow]dropped[/yellow] " ++ d.property ++ ": " ++ d.value ++ " (" ++ d.reason.text ++ ")"

/-- A cell of a table, which may have style tags. -/
def shownCell (cell : String) : Except Crash String := do
  let shown ← (Terminal.Shown.ofLine cell).mapError .line
  (shown.readStyles (!shown.text.contains '\n')).mapError .line
  return String.ofList shown.text

def resolutionTable (kind : Kind) (r : Resolution) : Except Crash (List String) := do
  let rows ← (resolutionRows r).mapM fun row => do return (← shownCell row.1, ← shownCell row.2)
  return tableLines Terminal.width (kind.name ++ " resolution") ("Field", "Value") rows

def tableOutput (kind : Kind) (r : Resolution) (p : Program) : Except Crash Output := do
  let table ← resolutionTable kind r
  let drops ← r.drops.mapM fun d => shownLines (dropLine d)
  return printed (table ++ drops.flatten ++ ["", "Program"] ++
    Terminal.laidOut Terminal.width .cut (Terminal.plainShown p.toText))

/-- A resolution and a program as one JSON value, which is not broken into lines of the terminal. -/
def jsonOutput (r : Resolution) (p : Program) : Output :=
  printed [(Json.record [("resolution", .ofResolution r), ("program", .ofProgram p)]).indented 0]

/-! ## Runs -/

/-- Resolves a style for one element, and emits the element. -/
def preview (settings : Settings) (kind : Kind) (style : String) : Act (Resolution × Program) := do
  let i ← Act.ofEdit (Edit.create { kind, userId := some previewId })
  let r ← Act.applyStyles i (Properties.ofStyle style)
  Act.ofEdit (prepare [i])
  return (r, ← Act.emit settings.setup [i] [] none)

/-- The answer to a request, given the bytes of the settings file if there is one. -/
def answer (content : Option ByteArray) : Request → Except Crash Output
  | .help => .ok { exitCode := 0 }
  | .version => .ok (printed ["hudmark " ++ versionText true])
  | .resolve kind style _ json =>
    match (do let s ← Settings.load content; let _ ← s.level; return s : Except ConfigFault Settings) with
    | .error f => match f with
      | .notUtf8 | .numeral _ => .error (.settings f)
      | _ => errorOutput (f.message?.getD "")
    | .ok settings =>
      match (preview settings kind style).run.run {} |>.1 with
      | .error f => .error (.failure f)
      | .ok (r, p) => if json then .ok (jsonOutput r p) else tableOutput kind r p

end Overlay.Cli
