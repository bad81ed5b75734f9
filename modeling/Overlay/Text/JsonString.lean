/-
JSON strings. `jsonString` writes a text in printable ASCII alone: the seven short escapes, and
every other character outside the range from the space to the tilde as UTF-16 units `\uXXXX`.
`jsonStringWide` leaves characters from U+0080 on as they are.
-/
import Overlay.Text.Hexadecimal

namespace Overlay.Text

/-- The two UTF-16 units of a character beyond U+FFFF, the one unit of another. -/
def utf16Units (c : Char) : List Nat :=
  let n := c.toNat
  if n < 0x10000 then [n] else [0xD800 + (n - 0x10000) / 0x400, 0xDC00 + (n - 0x10000) % 0x400]

def jsonUnit (n : Nat) : List Char := '\\' :: 'u' :: hexDigits 4 n

/-- The short escape of a character, if it has one. -/
def jsonShort (c : Char) : Option Char :=
  if c = '"' then some '"'
  else if c = '\\' then some '\\'
  else if c = '\n' then some 'n'
  else if c = '\r' then some 'r'
  else if c = '\t' then some 't'
  else if c = '\x08' then some 'b'
  else if c = '\x0c' then some 'f'
  else none

/-- One character of a JSON string; `plain` tells which characters stay as they are. -/
def jsonChar (plain : Char → Bool) (c : Char) : List Char :=
  match jsonShort c with
  | some e => ['\\', e]
  | none => if plain c then [c] else (utf16Units c).flatMap jsonUnit

def isPrintableAscii (c : Char) : Bool := 0x20 ≤ c.toNat && c.toNat ≤ 0x7E

/-- A JSON string of printable ASCII characters. -/
def jsonString (s : String) : String :=
  String.ofList ('"' :: s.toList.flatMap (jsonChar isPrintableAscii) ++ ['"'])

/-- A JSON string that escapes only quotes, backslashes and the controls below the space. -/
def jsonStringWide (s : String) : String :=
  String.ofList ('"' :: s.toList.flatMap (jsonChar fun c => 0x20 ≤ c.toNat) ++ ['"'])

end Overlay.Text
