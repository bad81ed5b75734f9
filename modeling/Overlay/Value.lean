/-
Element values: integers, doubles, truth values and texts, with an absent value as `none`. Number
text is read into the exact integer wherever it denotes one that a double holds, and every value
has a literal in programs.
-/
import Overlay.Text.Case
import Overlay.Number.Token
import Overlay.Number.Shortest

namespace Overlay

open Text

inductive Value where
  | int (n : Int)
  | double (x : Double)
  | bool (b : Bool)
  | text (s : String)
  deriving DecidableEq, Inhabited

/-- What reading a raw text gives: a value, or nothing where the text has no reading, unless it
holds a numeral that is too long. -/
abbrev Reading (α : Type) := Except NumeralTooLong (Option α)

namespace Value

/-! ## Reading raw text -/

/-- An integer or a finite decimal; a decimal that is a whole number becomes an integer. -/
def readNumber (raw : String) : Reading Value :=
  let token := trimChars raw.toList
  if Token.isInteger token then (Token.readInteger token).map fun n => some (int n)
  else .ok <| (Token.double? token).bind fun x =>
    if x.isFinite then some (match x.toInt? with | some n => int n | none => double x) else none

/-- An integer, in either notation. -/
def readInteger (raw : String) : Reading Value :=
  (readNumber raw).map fun
    | some (int n) => some (int n)
    | _ => none

/-- `true` or `false` in any case. -/
def readBool (raw : String) : Reading Value :=
  let token := lower (trim raw)
  .ok (if token = "true" then some (bool true) else if token = "false" then some (bool false) else none)

/-- Text is taken as it is. -/
def readText (raw : String) : Reading Value := .ok (some (text raw))

/-! ## Literals -/

/-- Doubles have the fewest digits that read back, positional from `1e-4` to below `1e16`, and a
point even if they are whole. -/
def doubleLayout : Double.Layout where
  leastPower := -4
  greatestPower := 15
  wholeSuffix := ".0"
  exponentDigits := 2
  infinity := "inf"
  notANumber := "nan"

/-- A character of a quoted literal: backslash, quote and line feed are escaped. -/
def literalChar (c : Char) : List Char :=
  if c = '\\' then ['\\', '\\'] else if c = '"' then ['\\', '"'] else if c = '\n' then ['\\', 'n'] else [c]

/-- A text as a literal. -/
def textLiteral (s : String) : String :=
  String.ofList ('"' :: s.toList.flatMap literalChar ++ ['"'])

/-- A value as a literal; the absent value is `null`. -/
def literal : Option Value → String
  | none => "null"
  | some (bool b) => if b then "true" else "false"
  | some (int n) => toString n
  | some (double x) => doubleLayout.render x
  | some (text s) => textLiteral s

end Value

/-! ## Sizes -/

/-- A font size: an integer or a double. -/
inductive Size where
  | int (n : Int)
  | double (x : Double)
  deriving DecidableEq, Inhabited

namespace Size

/-- A size as it is written in styles: a whole double is written like the integer. -/
def literal : Size → String
  | int n => toString n
  | double x => match x.toInt? with
    | some n => toString n
    | none => Value.doubleLayout.render x

/-- The size that a value is. -/
def ofValue? : Value → Option Size
  | .int n => some (int n)
  | .double x => some (double x)
  | _ => none

end Size

end Overlay
