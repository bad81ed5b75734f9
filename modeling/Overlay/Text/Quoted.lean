/-
Quoted text for messages. Single quotes are used unless the text holds one and no double quote;
the quote in use, the backslash and the characters without a visible form are written as escapes,
the latter in the shortest of `\xNN`, `\uNNNN` and `\UNNNNNNNN` with lower-case digits.
-/
import Overlay.Text.Blank
import Overlay.Text.Hexadecimal
import Overlay.Text.InvisibleTable

namespace Overlay.Text

/-- Whether a character is written as it is. The plain space is; other blanks are not. -/
def isVisible (c : Char) : Bool := !inRanges invisibleRanges c.toNat

/-- One character of a text between `quote` characters. -/
def quoteChar (quote c : Char) : List Char :=
  if c = quote || c = '\\' then ['\\', c]
  else if c = '\n' then ['\\', 'n']
  else if c = '\r' then ['\\', 'r']
  else if c = '\t' then ['\\', 't']
  else if isVisible c then [c]
  else if c.toNat < 0x100 then '\\' :: 'x' :: hexDigits 2 c.toNat
  else if c.toNat < 0x10000 then '\\' :: 'u' :: hexDigits 4 c.toNat
  else '\\' :: 'U' :: hexDigits 8 c.toNat

/-- The quote that a text is put between. -/
def quoteFor (cs : List Char) : Char :=
  if '\'' ∈ cs && '"' ∉ cs then '"' else '\''

def quoted (s : String) : String :=
  let q := quoteFor s.toList
  String.ofList (q :: s.toList.flatMap (quoteChar q) ++ [q])

end Overlay.Text
