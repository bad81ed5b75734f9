/-
The journal: records as lines at a level. Milestones of building and updating are written at the
info level and all others, being routine, at the debug level; a journal keeps what reaches its own
level.
-/
import Overlay.Report.Basic
import Overlay.Text.Case

namespace Overlay

open Text

/-- How severe a line is; greater is more severe. -/
abbrev Level := Nat

namespace Level

/-- The words for levels in settings. -/
def byName : List (String × Level) := [
  ("CRITICAL", 50), ("FATAL", 50), ("ERROR", 40), ("WARN", 30), ("WARNING", 30), ("INFO", 20),
  ("DEBUG", 10), ("NOTSET", 0)]

/-- The level that a word names, in any case. -/
def ofName? (word : String) : Option Level := byName.lookup (upper word)

def info : Level := 20

def debug : Level := 10

/-- The level of a journal that sets none. -/
def fallback : Level := 30

end Level

namespace Record

/-- The names of the records that mark a step of an interface's life. -/
def milestones : List String := ["build.start", "interface.updated", "interface.visibility"]

def isMilestone (r : Record) : Bool := r.name ∈ milestones

def level (r : Record) : Level := if r.isMilestone then Level.info else Level.debug

def levelName (r : Record) : String := if r.isMilestone then "INFO" else "DEBUG"

/-- A record as a line: its name, a space, and its fields with inspected values. -/
def line (r : Record) : String :=
  r.name ++ " " ++ " ".intercalate (r.fields.entries.map fun f => f.1 ++ "=" ++ f.2.inspected)

end Record

/-- The journal in which a library's records go unless the host names another. -/
def defaultJournal : String := "hudmark.observability"

/-- The journal above all others. -/
def rootJournal : String := "root"

/-- The records that a journal with a level keeps; only the topmost journal can do without a level. -/
def journalAt (journal : String) (level : Level) (rs : List Record) : List Record :=
  let least := if level = 0 ∧ journal ≠ rootJournal then Level.fallback else level
  rs.filter fun r => least ≤ r.level

end Overlay
