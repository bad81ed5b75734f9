/-
Text in the columns of a terminal. A line that is too wide is broken before a word that does not fit,
and a word that fits on no line is cut or elided; tabs reach to the next multiple of eight columns.
-/
import Overlay.Terminal.WidthTable
import Overlay.Text.Blank

namespace Overlay.Terminal

open Text

/-- The columns of a terminal. -/
def width : Nat := 4000

/-! ## Columns -/

/-- The columns that a character takes. -/
def columnsOf (c : Char) : Nat :=
  if inRanges zeroWidthRanges c.toNat then 0 else if inRanges wideRanges c.toNat then 2 else 1

def columns (cs : List Char) : Nat := cs.foldl (fun n c => n + columnsOf c) 0

/-- Tabs as blanks up to the next multiple of eight columns, given the column that the text begins in. -/
def expandTabs : Nat → List Char → List Char
  | _, [] => []
  | column, c :: cs =>
    if c = '\t' then
      let blanks := 8 - column % 8
      List.replicate blanks ' ' ++ expandTabs (column + blanks) cs
    else c :: expandTabs (column + columnsOf c) cs

/-! ## Lines -/

/-- Adds a character to the word that begins a list of words. -/
def growWord (c : Char) : List (List Char) → List (List Char)
  | [] => [[c]]
  | w :: ws => (c :: w) :: ws

/-- The words of a line with the blanks after them, if the line begins with a word. -/
def blankedWords : List Char → List (List Char)
  | [] => []
  | [c] => [[c]]
  | c :: d :: cs =>
    let ws := blankedWords (d :: cs)
    if isBlank c && !isBlank d then [c] :: ws else growWord c ws

/-- The words of a line with the blanks after them; the first has those before it too. -/
def lineWords (cs : List Char) : List (List Char) :=
  match blankedWords (cs.dropWhile isBlank) with
  | [] => [cs]
  | w :: ws => (cs.takeWhile isBlank ++ w) :: ws

/-- Cuts a word into pieces of at most so many columns, given the last piece so far, last character
first, and its columns. -/
def chop (limit : Nat) (piece : List Char) (used : Nat) : List Char → List (List Char)
  | [] => [piece.reverse]
  | c :: cs =>
    let n := columnsOf c
    if used + n > limit then piece.reverse :: chop limit [c] n cs else chop limit (c :: piece) (used + n) cs

/-- What becomes of a word that fits on no line: it goes on in the next line, or an ellipsis ends it. -/
inductive Overflow where
  | cut
  | elide
  deriving DecidableEq

/-- Words on lines of at most so many columns, given the line so far and its columns. A word that fits on
no line begins one, and is left whole if it is to be elided. -/
def fillLines (limit : Nat) (overflow : Overflow) (line : List Char) (used : Nat) :
    List (List Char) → List (List Char)
  | [] => [line]
  | w :: ws =>
    let needed := columns (dropEndWhile isBlank w)
    if used + needed ≤ limit then fillLines limit overflow (line ++ w) (used + columns w) ws
    else
      let started := if line.isEmpty then [] else [line]
      let parts := if overflow = .cut && needed > limit then chop limit [] 0 w else [w]
      let last := parts.getLast?.getD []
      started ++ parts.dropLast ++ fillLines limit overflow last (columns last) ws

/-- Drops blanks from the end of a line, given last character first, while it has characters in excess. -/
def dropExcess : Nat → List Char → List Char
  | excess + 1, c :: cs => if isBlank c then dropExcess excess cs else c :: cs
  | _, cs => cs

/-- The beginning of a text in exactly so many columns; a blank stands for half of a wide character. -/
def takeColumns : Nat → List Char → List Char
  | 0, _ => []
  | _, [] => []
  | limit, c :: cs => if columnsOf c ≤ limit then c :: takeColumns (limit - columnsOf c) cs else [' ']

/-- A line without the blanks in excess; what is still too wide is cut, or elided. -/
def fitLine (limit : Nat) (overflow : Overflow) (line : List Char) : List Char :=
  let line := (dropExcess (line.length - limit) line.reverse).reverse
  if columns line ≤ limit then line
  else match overflow with
    | .cut => takeColumns limit line
    | .elide => takeColumns (limit - 1) line ++ ['…']

/-- The lines of a text without line feeds. -/
def breakLine (limit : Nat) (overflow : Overflow) (cs : List Char) : List (List Char) :=
  (fillLines limit overflow [] 0 (lineWords cs)).map (fitLine limit overflow)

/-- The lines that show a text. -/
def laidOut (limit : Nat) (overflow : Overflow) (s : String) : List String :=
  ((pieces (· = '\n') s.toList).flatMap fun line =>
    breakLine limit overflow (expandTabs 0 line)).map String.ofList

end Overlay.Terminal
