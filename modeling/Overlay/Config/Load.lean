/-
Settings from a file. The file is TOML in UTF-8, with any of the three line ends, and the settings are
texts in one of its tables; a missing file or key leaves the default, and so does an empty text where
the setting may not be empty.
-/
import Overlay.Config.Settings
import Overlay.Config.Toml.Document
import Overlay.Report.Journal

namespace Overlay

/-- Why settings cannot be used. -/
inductive ConfigFault where
  | notUtf8
  | invalidToml
  | notTable
  | notText (key typeName : String)
  | unknownLevel (word : String)
  | numeral (n : NumeralTooLong)
  deriving DecidableEq

namespace Settings

def fileName : String := "hudmark.toml"

def tableName : String := "hudmark"

end Settings

/-- The message about a fault; bytes that are no text have none. -/
def ConfigFault.message? : ConfigFault → Option String
  | notUtf8 => none
  | invalidToml => some "invalid TOML"
  | notTable => some ("[" ++ Settings.tableName ++ "] must be a table")
  | notText key typeName =>
    some ("[" ++ Settings.tableName ++ "] " ++ key ++ " must be a string, got " ++ typeName)
  | unknownLevel word => some ("unknown log level '" ++ word ++ "'")
  | numeral n => some n.message

namespace Settings

/-- The text under a key, if there is one. -/
def textAt (t : Toml.Table) (key : String) : Except ConfigFault (Option String) :=
  match t.lookup key with
  | none => .ok none
  | some (.text s) => .ok (some s)
  | some v => .error (.notText key v.typeName)

/-- A text that is there and not empty, or the default. -/
def nonEmptyOr (default : String) (s : Option String) : String := (s.filter (· ≠ "")).getD default

/-- The settings in a table. -/
def ofTable (t : Toml.Table) : Except ConfigFault Settings := do
  let standard : Settings := {}
  let baseFile ← textAt t "base_file"
  let markerId ← textAt t "root_marker_id"
  let rootSelector ← textAt t "root_selector"
  let styleStem ← textAt t "style_var_prefix"
  let logLevel ← textAt t "log_level"
  return {
    baseFile
    markerId := nonEmptyOr standard.markerId markerId
    rootSelector := rootSelector.getD ""
    styleStem := nonEmptyOr standard.styleStem styleStem
    logLevel := nonEmptyOr standard.logLevel logLevel }

/-- The settings in a document. -/
def ofDocument (t : Toml.Table) : Except ConfigFault Settings :=
  match t.lookup tableName with
  | none => .ok {}
  | some (.table t) => ofTable t
  | some _ => .error .notTable

/-- The settings in a TOML text. -/
def ofText (text : String) : Except ConfigFault Settings :=
  match Toml.read (String.ofList (Text.unifyLineEnds text.toList)) with
  | .error .invalid => .error .invalidToml
  | .error (.numeral n) => .error (.numeral n)
  | .ok t => ofDocument t

/-- The settings in the bytes of a file, or the defaults where there is no file. -/
def load (content : Option ByteArray) : Except ConfigFault Settings :=
  match content with
  | none => .ok {}
  | some bytes => match String.fromUTF8? bytes with
    | none => .error .notUtf8
    | some text => ofText text

/-- The level that the settings give to the journal. -/
def level (s : Settings) : Except ConfigFault Level :=
  match Level.ofName? s.logLevel with
  | some l => .ok l
  | none => .error (.unknownLevel s.logLevel)

end Settings

end Overlay
