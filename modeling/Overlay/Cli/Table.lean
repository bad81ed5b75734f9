/-
Tables of two columns on a terminal: a centred title, a head in heavy lines, and rows in light ones.
A column is as wide as its widest cell, with a blank on either side; where that is wider than the
terminal, the second column takes what the first one leaves and its cells are broken into lines, in which a word
that is too long ends in an ellipsis.
-/
import Overlay.Terminal.Column

namespace Overlay.Cli

open Text Terminal

/-- A row: the cells of the two columns. -/
abbrev Row := String × String

def repeated (c : Char) (n : Nat) : String := String.ofList (List.replicate n c)

def padRight (width : Nat) (s : String) : String := s ++ repeated ' ' (width - columns s.toList)

/-- A line in the middle of a width; the odd blank goes to the right. -/
def centred (width : Nat) (s : String) : String :=
  padRight width (repeated ' ' ((width - columns s.toList) / 2) ++ s)

/-- A horizontal rule: its left end, its line, its crossing and its right end. -/
def rule (left line cross right : Char) (a b : Nat) : String :=
  String.singleton left ++ repeated line (a + 2) ++ String.singleton cross ++ repeated line (b + 2) ++
    String.singleton right

/-- The lines of a row, as many as its taller cell has. -/
def rowLines (bar : Char) (a b : Nat) (r : Row) : List String :=
  let bar := String.singleton bar
  let first := laidOut a .elide r.1
  let second := laidOut b .elide r.2
  (List.range (max first.length second.length)).map fun i =>
    bar ++ " " ++ padRight a (first.getD i "") ++ " " ++ bar ++ " " ++ padRight b (second.getD i "") ++
      " " ++ bar

/-- The characters that separate lines. -/
def isLineEnd (c : Char) : Bool := c = '\n' || (0x1C ≤ c.toNat && c.toNat ≤ 0x1E) || c.toNat ∈ [0x85, 0x2028, 0x2029]

/-- The columns of the longest line of a cell. -/
def cellWidth (s : String) : Nat := ((pieces isLineEnd s.toList).map columns).foldl max 0

/-- The lines of a table on a terminal of some width. -/
def tableLines (terminal : Nat) (title : String) (head : Row) (rows : List Row) : List String :=
  let widest (cell : Row → String) := ((head :: rows).map fun r => cellWidth (cell r)).foldl max 0
  let a := widest Prod.fst
  let b := min (widest Prod.snd) (terminal - a - 7)
  let width := a + b + 7
  (laidOut width .cut title).map (centred width ∘ trim) ++
    [rule '┏' '━' '┳' '┓' a b] ++ rowLines '┃' a b head ++ [rule '┡' '━' '╇' '┩' a b] ++
    rows.flatMap (rowLines '│' a b) ++ [rule '└' '─' '┴' '┘' a b]

end Overlay.Cli
