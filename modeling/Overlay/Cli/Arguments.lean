/-
Command-line arguments. Options may stand anywhere among the arguments of a command up to `--`; the
last of an option given twice counts. Every misuse ends the program with the same exit code.
-/
import Overlay.Element.Kind

namespace Overlay.Cli

/-- What a command line asks for. -/
inductive Request where
  | resolve (kind : Kind) (style : String) (config : Option String) (json : Bool)
  | version
  | help

/-- The options of a command so far, and the other arguments. -/
structure Collected where
  config : Option String := none
  json : Bool := false
  help : Bool := false
  positional : List String := []

/-- The value of a long option that is joined to it. -/
def joined? (name : String) (arg : String) : Option String :=
  if (name ++ "=").isPrefixOf arg then some ((arg.drop (name.length + 1)).toString) else none

/-- Reads the arguments of the command that resolves styles. -/
def collect (c : Collected) : List String → Option Collected
  | [] => some c
  | arg :: rest =>
    let takeValue : Option Collected := match rest with
      | value :: rest => collect { c with config := some value } rest
      | [] => none
    if arg = "--" then some { c with positional := c.positional ++ rest }
    else if arg = "--config" || arg = "-c" then takeValue
    else if arg = "--json" then collect { c with json := true } rest
    else if arg = "--help" then collect { c with help := true } rest
    else match joined? "--config" arg with
      | some value => collect { c with config := some value } rest
      | none =>
        if "-c".isPrefixOf arg then collect { c with config := some (arg.drop 2).toString } rest
        else if "-".isPrefixOf arg && arg ≠ "-" then none
        else collect { c with positional := c.positional ++ [arg] } rest

/-- A request to resolve a style for a kind. A path with a null character names no file. -/
def resolveRequest (args : List String) : Option Request := do
  let c ← collect {} args
  if c.help then some .help
  else if c.config.any (·.contains '\x00') then none
  else match c.positional with
    | [kind, style] => (Kind.ofName? kind).map fun k => .resolve k style c.config c.json
    | _ => none

/-- A request for the version; it takes no arguments. -/
def versionRequest : List String → Option Request
  | [] => some .version
  | ["--"] => some .version
  | "--help" :: _ => some .help
  | _ => none

/-- The request of a command with its arguments. -/
def command? : List String → Option Request
  | "resolve" :: rest => resolveRequest rest
  | "version" :: rest => versionRequest rest
  | _ => none

/-- The request of a command line, unless it is misused. -/
def request? : List String → Option Request
  | "--help" :: _ => some .help
  | "--" :: rest => command? rest
  | args => command? args

end Overlay.Cli
