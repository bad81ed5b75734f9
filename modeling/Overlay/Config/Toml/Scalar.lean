/-
Keys, strings, numbers, dates and times in TOML text. Each reader takes the text from its first
character on and gives what it read with the text that follows.
-/
import Overlay.Config.Toml.Value
import Overlay.Text.Hexadecimal

namespace Overlay.Toml

open Text Token

/-! ## Blanks and comments -/

def isSpace (c : Char) : Bool := c = ' ' || c = '\t'

def skipSpaces (cs : List Char) : List Char := cs.dropWhile isSpace

/-- Control characters other than the tab. -/
def isControl (c : Char) : Bool := (c.toNat < 0x20 && c ≠ '\t') || c.toNat = 0x7F

/-- Skips a comment up to the end of its line, if one begins here. -/
def skipComment : List Char → Read (List Char)
  | '#' :: cs =>
    if (cs.takeWhile (· ≠ '\n')).any isControl then .error .invalid else .ok (cs.dropWhile (· ≠ '\n'))
  | cs => .ok cs

/-- Skips blanks, line feeds and comments. -/
def skipLines : Nat → List Char → Read (List Char)
  | 0, cs => .ok cs
  | fuel + 1, cs => do
    let rest ← skipComment (cs.dropWhile fun c => isSpace c || c = '\n')
    if rest.length = cs.length then return rest else skipLines fuel rest

/-! ## Strings -/

/-- The character of a code point that is given by a fixed number of hexadecimal digits. -/
def hexChar (digits : Nat) (cs : List Char) : Option (Char × List Char) :=
  let ds := cs.take digits
  let n := hexNumber ds
  if ds.length = digits && ds.all isHexDigit && (n < 0xD800 || (0xDFFF < n && n ≤ 0x10FFFF)) then
    some (Char.ofNat n, cs.drop digits)
  else none

/-- What an escape stands for; `cs` follows its backslash. -/
def escape? (cs : List Char) : Option (Char × List Char) :=
  match cs with
  | 'b' :: cs => some ('\x08', cs)
  | 't' :: cs => some ('\t', cs)
  | 'n' :: cs => some ('\n', cs)
  | 'f' :: cs => some ('\x0c', cs)
  | 'r' :: cs => some ('\r', cs)
  | '"' :: cs => some ('"', cs)
  | '\\' :: cs => some ('\\', cs)
  | 'u' :: cs => hexChar 4 cs
  | 'U' :: cs => hexChar 8 cs
  | _ => none

/-- The text after a backslash that ends a line: blanks up to the line feed, and all blanks and line
feeds after it. `none` where the backslash ends no line. -/
def lineEnd? (cs : List Char) : Option (List Char) :=
  if cs.head?.any fun c => isSpace c || c = '\n' then
    match skipSpaces cs with
    | [] => some []
    | '\n' :: rest => some (rest.dropWhile fun c => isSpace c || c = '\n')
    | _ => none
  else none

/-- The rest of a basic string on one line. -/
def basicText : Nat → List Char → Option (List Char × List Char)
  | 0, _ => none
  | _, [] => none
  | fuel + 1, c :: cs =>
    if c = '"' then some ([], cs)
    else if c = '\\' then do
      let (e, rest) ← escape? cs
      let (s, rest) ← basicText fuel rest
      some (e :: s, rest)
    else if isControl c then none
    else (basicText fuel cs).map fun r => (c :: r.1, r.2)

/-- The rest of a basic string over several lines, up to its three quotes. -/
def basicLines : Nat → List Char → Option (List Char × List Char)
  | 0, _ => none
  | _, [] => none
  | fuel + 1, c :: cs =>
    if c = '"' && (after? ['"', '"'] cs).isSome then some ([], cs.drop 2)
    else if c = '\\' then
      if cs.head?.any fun d => isSpace d || d = '\n' then (lineEnd? cs).bind (basicLines fuel)
      else do
        let (e, rest) ← escape? cs
        let (s, rest) ← basicLines fuel rest
        some (e :: s, rest)
    else if isControl c && c ≠ '\n' then none
    else (basicLines fuel cs).map fun r => (c :: r.1, r.2)

/-- The rest of a literal string on one line. -/
def literalText (cs : List Char) : Option (List Char × List Char) :=
  (cutAt '\'' cs).bind fun r => if r.1.any isControl then none else some r

/-- The rest of a literal string over several lines, up to its three quotes. -/
def literalLines : List Char → Option (List Char × List Char)
  | [] => none
  | c :: cs =>
    if c = '\'' && (after? ['\'', '\''] cs).isSome then some ([], cs.drop 2)
    else if isControl c && c ≠ '\n' then none
    else (literalLines cs).map fun r => (c :: r.1, r.2)

/-- Up to two quotes right after the closing ones belong to the text. -/
def takeExtraQuotes (quote : Char) (r : List Char × List Char) : List Char × List Char :=
  let extra := (r.2.take 2).takeWhile (· = quote)
  (r.1 ++ extra, r.2.drop extra.length)

/-- The line feed right after the opening quotes does not belong to the text. -/
def dropFirstLineEnd : List Char → List Char
  | '\n' :: cs => cs
  | cs => cs

/-- A string in any of the four forms. -/
def string? (cs : List Char) : Option (List Char × List Char) :=
  match cs with
  | '"' :: '"' :: '"' :: rest =>
    let rest := dropFirstLineEnd rest
    (basicLines (rest.length + 1) rest).map (takeExtraQuotes '"')
  | '"' :: rest => basicText (rest.length + 1) rest
  | '\'' :: '\'' :: '\'' :: rest => (literalLines (dropFirstLineEnd rest)).map (takeExtraQuotes '\'')
  | '\'' :: rest => literalText rest
  | _ => none

/-! ## Keys -/

def isKeyChar (c : Char) : Bool :=
  ('a' ≤ c && c ≤ 'z') || ('A' ≤ c && c ≤ 'Z') || isDigit c || c = '-' || c = '_'

/-- One part of a key: bare, or a string on one line. -/
def keyPart? (cs : List Char) : Option (String × List Char) :=
  match cs with
  | [] => none
  | c :: rest =>
    if isKeyChar c then some (String.ofList (cs.takeWhile isKeyChar), cs.dropWhile isKeyChar)
    else if c = '\'' then (literalText rest).map fun r => (String.ofList r.1, r.2)
    else if c = '"' then (basicText (rest.length + 1) rest).map fun r => (String.ofList r.1, r.2)
    else none

/-- The parts of a key between dots. -/
def keyParts : Nat → List Char → Option (List String × List Char)
  | 0, _ => none
  | fuel + 1, cs => do
    let (part, rest) ← keyPart? cs
    match skipSpaces rest with
    | '.' :: rest =>
      let (parts, rest) ← keyParts fuel (skipSpaces rest)
      some (part :: parts, rest)
    | rest => some ([part], rest)

def key (cs : List Char) : Read (List String × List Char) := required (keyParts (cs.length + 1) cs)

/-! ## Dates and times -/

/-- Two digits of a number within bounds. -/
def twoDigits (least greatest : Nat) (cs : List Char) : Option (Nat × List Char) :=
  let ds := cs.take 2
  let n := digitsValue ds
  if ds.length = 2 && ds.all isDigit && least ≤ n && n ≤ greatest then some (n, cs.drop 2) else none

def isLeap (year : Nat) : Bool := year % 4 = 0 && (year % 100 ≠ 0 || year % 400 = 0)

def daysIn (year month : Nat) : Nat :=
  if month = 2 then (if isLeap year then 29 else 28)
  else if month ∈ [4, 6, 9, 11] then 30
  else 31

/-- A date, and whether the calendar has it. -/
def date? (cs : List Char) : Option (Bool × List Char) := do
  let year := cs.take 4
  if year.length ≠ 4 || !year.all isDigit then none
  else
    let rest ← after? ['-'] (cs.drop 4)
    let (month, rest) ← twoDigits 1 12 rest
    let rest ← after? ['-'] rest
    let (day, rest) ← twoDigits 1 31 rest
    let y := digitsValue year
    some (1 ≤ y && day ≤ daysIn y month, rest)

/-- A time of day, with an optional fraction of a second. -/
def time? (cs : List Char) : Option (List Char) := do
  let (_, rest) ← twoDigits 0 23 cs
  let rest ← after? [':'] rest
  let (_, rest) ← twoDigits 0 59 rest
  let rest ← after? [':'] rest
  let (_, rest) ← twoDigits 0 59 rest
  match rest with
  | '.' :: fraction =>
    some (if (fraction.takeWhile isDigit).isEmpty then rest else fraction.dropWhile isDigit)
  | _ => some rest

/-- What follows an offset from universal time, if one is there. -/
def skipOffset (cs : List Char) : List Char :=
  match cs with
  | [] => []
  | c :: rest =>
    if c = 'Z' || c = 'z' then rest
    else if c = '+' || c = '-' then
      let offset := do
        let (_, rest) ← twoDigits 0 23 rest
        let rest ← after? [':'] rest
        let (_, rest) ← twoDigits 0 59 rest
        some rest
      offset.getD cs
    else cs

/-- The text that was read, given all of it and what is left. -/
def shownUntil (cs rest : List Char) : String := String.ofList (cs.take (cs.length - rest.length))

/-- A date, a time, or both. -/
def dateOrTime? (cs : List Char) : Option (Read (Value × List Char)) :=
  match date? cs with
  | some (valid, rest) =>
    let timed := match rest with
      | c :: after => if c = 'T' || c = 't' || c = ' ' then (time? after).map skipOffset else none
      | [] => none
    some <| if !valid then .error .invalid else match timed with
      | some rest => .ok (.dateTime (shownUntil cs rest), rest)
      | none => .ok (.date (shownUntil cs rest), rest)
  | none => (time? cs).map fun rest => .ok (.time (shownUntil cs rest), rest)

/-! ## Numbers -/

/-- Digits of a class, with single underscores between them; the digits and what follows. -/
def digitRun (p : Char → Bool) : List Char → List Char × List Char
  | [] => ([], [])
  | c :: '_' :: d :: ds =>
    if !p c then ([], c :: '_' :: d :: ds)
    else if p d then
      let (more, rest) := digitRun p (d :: ds)
      (c :: more, rest)
    else ([c], '_' :: d :: ds)
  | c :: cs =>
    if p c then
      let (more, rest) := digitRun p cs
      (c :: more, rest)
    else ([], c :: cs)

/-- An integer in base 16, 8 or 2. -/
def radix? (cs : List Char) : Option (Value × List Char) :=
  let run (base : Nat) (p : Char → Bool) (ds : List Char) :=
    let (digits, rest) := digitRun p ds
    if digits.isEmpty then none
    else some (Value.integer (digits.foldl (fun n c => base * n + (hexValue? c).getD 0) 0), rest)
  match cs with
  | '0' :: 'x' :: ds => run 16 isHexDigit ds
  | '0' :: 'o' :: ds => run 8 (fun c => '0' ≤ c && c ≤ '7') ds
  | '0' :: 'b' :: ds => run 2 (fun c => c = '0' || c = '1') ds
  | _ => none

/-- The fraction and the exponent of a number, each if it is there. -/
def floatPart (cs : List Char) : List Char × List Char :=
  let (fraction, rest) := match cs with
    | '.' :: ds =>
      let (digits, rest) := digitRun isDigit ds
      if digits.isEmpty then ([], cs) else ('.' :: digits, rest)
    | _ => ([], cs)
  match rest with
  | c :: ds =>
    if c = 'e' || c = 'E' then
      let sign := (ds.take 1).takeWhile fun s => s = '+' || s = '-'
      let (digits, after) := digitRun isDigit (ds.drop sign.length)
      if digits.isEmpty then (fraction, rest) else (fraction ++ c :: sign ++ digits, after)
    else (fraction, rest)
  | [] => (fraction, rest)

/-- An integer in base 10 or a float. -/
def decimal? (cs : List Char) : Option (Read (Value × List Char)) :=
  let sign := (cs.take 1).takeWhile fun s => s = '+' || s = '-'
  let body := cs.drop sign.length
  let (whole, rest) := match body with
    | '0' :: ds => (['0'], ds)
    | _ => digitRun isDigit body
  if whole.isEmpty then none
  else some <|
    let (part, after) := floatPart rest
    if part.isEmpty then
      match readInteger (sign ++ whole) with
      | .ok n => .ok (.integer n, rest)
      | .error n => .error (.numeral n)
    else .ok (.float ((double? (sign ++ whole ++ part)).getD .notANumber), after)

/-- The floats that are not finite. -/
def specialFloat? (cs : List Char) : Option (Value × List Char) :=
  let (negative, body) := splitSign cs
  match after? "inf".toList body with
  | some rest => some (.float (.infinite negative), rest)
  | none => (after? "nan".toList body).map fun rest => (.float .notANumber, rest)

/-- A number, a date or a time. -/
def plainValue (cs : List Char) : Read (Value × List Char) :=
  match dateOrTime? cs with
  | some r => r
  | none => match radix? cs with
    | some r => .ok r
    | none => match decimal? cs with
      | some r => r
      | none => required (specialFloat? cs)

end Overlay.Toml
