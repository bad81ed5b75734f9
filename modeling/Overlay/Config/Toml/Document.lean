/-
TOML documents. Tables grow by headers and by dotted keys, under the rules that a table has one
header at most, that a header opens no table which dotted keys made in an earlier section, and that
what was written as one value is never changed.
-/
import Overlay.Config.Toml.Scalar

namespace Overlay.Toml

open Text

abbrev Path := List String

/-! ## Tables -/

/-- Changes the table at a path, making the tables on the way; where the path meets a list that may be
entered, it goes on in the last item. -/
def changeAt (enterLists : Bool) (f : Table → Read Table) : Path → Table → Read Table
  | [], t => f t
  | k :: ks, t => do
    let inner : Value ← match t.lookup k with
      | none => (changeAt enterLists f ks []).map Value.table
      | some (.table u) => (changeAt enterLists f ks u).map Value.table
      | some (.list items) =>
        match items.getLast? with
        | some (.table u) =>
          if enterLists then
            (changeAt enterLists f ks u).map fun u => Value.list (items.dropLast ++ [.table u])
          else throw .invalid
        | _ => throw .invalid
      | some _ => throw .invalid
    return putEntry k inner t

/-- Writes a new entry. -/
def addEntry (k : String) (v : Value) (t : Table) : Read Table :=
  if (t.lookup k).isSome then .error .invalid else .ok (t ++ [(k, v)])

/-- Adds an empty table to the list under a key. -/
def addListItem (k : String) (t : Table) : Read Table :=
  match t.lookup k with
  | none => .ok (t ++ [(k, .list [.table []])])
  | some (.list items) => .ok (putEntry k (.list (items ++ [.table []])) t)
  | some _ => .error .invalid

/-- Whether a path or one above it is in a list. -/
def coveredBy (paths : List Path) (p : Path) : Bool := paths.any fun q => !q.isEmpty && q.isPrefixOf p

/-! ## Values -/

mutual

/-- A value of any form. Lists and inline tables may be nested without limit: the number only has to be large enough
for the characters that are left, and it stands for no bound on the depth, as an interpreter with a limited stack
has one. -/
def value : Nat → List Char → Read (Value × List Char)
  | 0, _ => .error .invalid
  | fuel + 1, cs =>
    match cs with
    | [] => .error .invalid
    | c :: rest =>
      if c = '"' || c = '\'' then (required (string? cs)).map fun r => (.text (String.ofList r.1), r.2)
      else if c = '[' then do
        let rest ← skipLines (rest.length + 1) rest
        match rest with
        | ']' :: rest => return (.list [], rest)
        | rest => items fuel [] rest
      else if c = '\x7b' then
        match skipSpaces rest with
        | '\x7d' :: rest => .ok (.table [], rest)
        | rest => fields fuel [] [] rest
      else match after? "true".toList cs with
        | some rest => .ok (.bool true, rest)
        | none => match after? "false".toList cs with
          | some rest => .ok (.bool false, rest)
          | none => plainValue cs

/-- The items of a list from the next one on, given those before. -/
def items : Nat → List Value → List Char → Read (Value × List Char)
  | 0, _, _ => .error .invalid
  | fuel + 1, before, cs => do
    let (v, rest) ← value fuel cs
    let all := before ++ [v]
    match ← skipLines (rest.length + 1) rest with
    | ']' :: rest => return (.list all, rest)
    | ',' :: rest =>
      match ← skipLines (rest.length + 1) rest with
      | ']' :: rest => return (.list all, rest)
      | rest => items fuel all rest
    | _ => throw .invalid

/-- The fields of an inline table from the next one on, given the table and the paths that are closed. -/
def fields : Nat → Table → List Path → List Char → Read (Value × List Char)
  | 0, _, _, _ => .error .invalid
  | fuel + 1, before, closed, cs => do
    let (path, rest) ← key cs
    let (v, rest) ← match rest with
      | '=' :: rest => value fuel (skipSpaces rest)
      | _ => throw .invalid
    if coveredBy closed path then throw .invalid
    let all ← changeAt false (addEntry (path.getLast?.getD "") v) path.dropLast before
    match skipSpaces rest with
    | '\x7d' :: rest => return (.table all, rest)
    | ',' :: rest => fields fuel all (if v.isCompound then path :: closed else closed) (skipSpaces rest)
    | _ => throw .invalid

end

/-! ## Documents -/

/-- A document in the making: its tables, the section that keys go to, the paths that no header may
open any more, those that the next section adds to them, and the paths of values written as one. -/
structure Document where
  table : Table := []
  section_ : Path := []
  opened : List Path := []
  pending : List Path := []
  closed : List Path := []

namespace Document

/-- Before a header, what dotted keys have made becomes closed to headers. -/
def settle (d : Document) : Document := { d with opened := d.pending ++ d.opened, pending := [] }

/-- A header of a table. -/
def openTable (d : Document) (path : Path) : Read Document := do
  if path ∈ d.opened || coveredBy d.closed path then throw .invalid
  let table ← changeAt true .ok path d.table
  return { d with table, section_ := path, opened := path :: d.opened }

/-- A header of a list of tables: what was known about the paths below the last item is forgotten. -/
def openItem (d : Document) (path : Path) : Read Document := do
  if coveredBy d.closed path then throw .invalid
  let keep (q : Path) : Bool := !path.isPrefixOf q
  let table ← changeAt true (addListItem (path.getLast?.getD "")) path.dropLast d.table
  return { d with
    table
    section_ := path
    opened := path :: d.opened.filter keep
    closed := d.closed.filter keep }

/-- The tables that a dotted key passes through, relative to its section. -/
def passed (d : Document) (path : Path) : List Path :=
  (List.range (path.length - 1)).map fun i => d.section_ ++ path.take (i + 1)

/-- An entry of the section. -/
def assign (d : Document) (path : Path) (v : Value) : Read Document := do
  let tables := d.passed path
  if tables.any (· ∈ d.opened) then throw .invalid
  let parent := d.section_ ++ path.dropLast
  if coveredBy d.closed parent then throw .invalid
  let table ← changeAt true (addEntry (path.getLast?.getD "") v) parent d.table
  return { d with
    table
    pending := tables ++ d.pending
    closed := if v.isCompound then (d.section_ ++ path) :: d.closed else d.closed }

/-- One statement of a document; `cs` begins with its first character. -/
def statement (d : Document) (cs : List Char) : Read (Document × List Char) :=
  match cs with
  | '[' :: '[' :: rest => do
    let (path, rest) ← key (skipSpaces rest)
    let d ← d.settle.openItem path
    return (d, ← required (after? [']', ']'] rest))
  | '[' :: rest => do
    let (path, rest) ← key (skipSpaces rest)
    let d ← d.settle.openTable path
    return (d, ← required (after? [']'] rest))
  | '#' :: _ => .ok (d, cs)
  | _ => do
    let (path, rest) ← key cs
    let rest ← required (after? ['='] rest)
    let (v, rest) ← value (2 * rest.length + 2) (skipSpaces rest)
    return (← d.assign path v, rest)

/-- The document from a line on; every line leaves less than `fuel` characters. -/
def readLines : Nat → Document → List Char → Read Document
  | 0, _, _ => .error .invalid
  | fuel + 1, d, cs =>
    match skipSpaces cs with
    | [] => .ok d
    | '\n' :: rest => readLines fuel d rest
    | cs => do
      let (d, rest) ← d.statement cs
      match ← skipComment (skipSpaces rest) with
      | [] => return d
      | '\n' :: rest => readLines fuel d rest
      | _ => throw .invalid

end Document

/-- The table of a TOML text. -/
def read (text : String) : Read Table :=
  let cs := text.toList
  (Document.readLines (cs.length + 1) {} cs).map (·.table)

end Overlay.Toml
