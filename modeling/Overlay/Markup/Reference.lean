/-
Character references in markup text. A numeric reference stands for its code point, apart from a few
that are replaced or removed; a named one for the longest known name that it begins with. What is no
reference is text.
-/
import Std.Data.HashMap
import Overlay.Failure
import Overlay.Markup.ReferenceTable

namespace Overlay.Markup

open Text

/-! ## Names -/

/-- The entries of one word of the table: the name with its semicolon, and perhaps without. -/
def tableEntries (word : List Char) : List (String × String) :=
  let text (cs : List Char) := String.ofList ((pieces (· = ',') cs).map fun h => Char.ofNat (hexNumber h))
  match cutAt ':' word with
  | some (name, codes) =>
    [(String.ofList name, text codes), (String.ofList (name ++ [';']), text codes)]
  | none => match cutAt '=' word with
    | some (name, codes) => [(String.ofList (name ++ [';']), text codes)]
    | none => []

/-- What the known names stand for. -/
def references : Std.HashMap String String :=
  Std.HashMap.ofList ((words referenceTable.toList).flatMap tableEntries)

/-- The longest known name that a text begins with, of `length` characters or fewer but at least two. -/
def longestName (cs : List Char) : Nat → Option (String × List Char)
  | length + 2 => match references[String.ofList (cs.take (length + 2))]? with
    | some s => some (s, cs.drop (length + 2))
    | none => longestName cs (length + 1)
  | _ => none

/-- What a name with an optional semicolon stands for. -/
def namedText (name : List Char) : List Char :=
  match references[String.ofList name]? with
  | some s => s.toList
  | none => match longestName name (name.length - 1) with
    | some (s, rest) => s.toList ++ rest
    | none => '&' :: name

/-! ## Numbers -/

/-- The characters of Windows code page 1252 from 0x80 on, where they differ from the code point. -/
def windowsCodes : List (Nat × Nat) := [
  (0x80, 0x20AC), (0x82, 0x201A), (0x83, 0x0192), (0x84, 0x201E), (0x85, 0x2026), (0x86, 0x2020),
  (0x87, 0x2021), (0x88, 0x02C6), (0x89, 0x2030), (0x8A, 0x0160), (0x8B, 0x2039), (0x8C, 0x0152),
  (0x8E, 0x017D), (0x91, 0x2018), (0x92, 0x2019), (0x93, 0x201C), (0x94, 0x201D), (0x95, 0x2022),
  (0x96, 0x2013), (0x97, 0x2014), (0x98, 0x02DC), (0x99, 0x2122), (0x9A, 0x0161), (0x9B, 0x203A),
  (0x9C, 0x0153), (0x9E, 0x017E), (0x9F, 0x0178)]

/-- Code points that a reference cannot produce: controls and noncharacters. -/
def isRemoved (n : Nat) : Bool :=
  (1 ≤ n && n ≤ 8) || n == 0xB || (0xE ≤ n && n ≤ 0x1F) || n == 0x7F || (0xFDD0 ≤ n && n ≤ 0xFDEF) ||
    n % 0x10000 ≥ 0xFFFE

/-- What a code point stands for in a reference. -/
def numericText (n : Nat) : List Char :=
  if n = 0 || (0xD800 ≤ n && n ≤ 0xDFFF) || 0x10FFFF < n then ['\uFFFD']
  else if 0x80 ≤ n && n ≤ 0x9F then [Char.ofNat ((windowsCodes.lookup n).getD n)]
  else if isRemoved n then []
  else [Char.ofNat n]

/-! ## References in text -/

/-- Drops one semicolon at the front. -/
def dropSemicolon : List Char → List Char
  | ';' :: cs => cs
  | cs => cs

def isNameChar (c : Char) : Bool := c ∉ ['\t', '\n', '\x0c', ' ', '<', '&', '#', ';']

/-- What the reference after an ampersand stands for and what follows it; a numeral in decimal has a
greatest length, one in hexadecimal has none. -/
def reference? (cs : List Char) : Except NumeralTooLong (Option (List Char × List Char)) :=
  match cs with
  | '#' :: rest =>
    let decimal := rest.takeWhile Token.isDigit
    if !decimal.isEmpty then
      (Token.readDigits decimal).map fun n => some (numericText n, dropSemicolon (rest.drop decimal.length))
    else match rest with
      | x :: rest =>
        let hex := rest.takeWhile isHexDigit
        if (x = 'x' || x = 'X') && !hex.isEmpty then
          .ok (some (numericText (hexNumber hex), dropSemicolon (rest.drop hex.length)))
        else .ok none
      | [] => .ok none
  | _ =>
    let name := (cs.take 32).takeWhile isNameChar
    if name.isEmpty then .ok none
    else match cs.drop name.length with
      | ';' :: rest => .ok (some (namedText (name ++ [';']), rest))
      | rest => .ok (some (namedText name, rest))

/-- Text with its references replaced; every step leaves less than `fuel` characters. -/
def unescapeFrom : Nat → List Char → Except NumeralTooLong (List Char)
  | 0, _ => .ok []
  | _, [] => .ok []
  | fuel + 1, c :: cs =>
    if c = '&' then do
      match ← reference? cs with
      | some (text, rest) => return text ++ (← unescapeFrom fuel rest)
      | none => return c :: (← unescapeFrom fuel cs)
    else (unescapeFrom fuel cs).map (c :: ·)

/-- Text with its character references replaced by what they stand for. -/
def unescape (cs : List Char) : Except NumeralTooLong (List Char) :=
  unescapeFrom (cs.length + 1) cs

end Overlay.Markup
