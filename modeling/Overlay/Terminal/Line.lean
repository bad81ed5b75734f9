/-
Lines as a terminal without colours shows them. A line may hold style tags: `[name]` begins a style,
`[/name]` ends it and `[/]` ends the last one begun; a backslash in front keeps a tag as text. The tags
vanish. A line cannot be shown if it ends a style that it has not begun, or one whose handler cannot be
called, or if a style of it cannot be read.
-/
import Overlay.Terminal.Column
import Overlay.Terminal.Emoji
import Overlay.Terminal.Literal
import Overlay.Terminal.Style
import Overlay.Text.WordTable

namespace Overlay.Terminal

open Text

/-! ## Pieces -/

/-- A part of a line: text, or a tag with its name and what follows its first equals sign. -/
inductive Piece where
  | text (cs : List Char)
  | tag (name : List Char) (argument : List Char)
  deriving DecidableEq

/-- What a tag may begin with, after its bracket. -/
def beginsTag (c : Char) : Bool := ('a' ≤ c && c ≤ 'z') || c ∈ ['#', '/', '@']

/-- The inside of the tag that a text begins with, and the text after it. -/
def tagAt? : List Char → Option (List Char × List Char)
  | [] => none
  | c :: cs => if c = '[' && cs.head?.any beginsTag then (cutAt ']' cs).filter (!·.1.contains '[') else none

theorem length_tagAt? {cs inside rest : List Char} (h : tagAt? cs = some (inside, rest)) :
    rest.length < cs.length := by
  cases cs with
  | nil => simp [tagAt?] at h
  | cons c cs =>
    simp only [tagAt?, Option.ite_none_right_eq_some] at h
    exact Nat.lt_succ_of_lt (length_cutAt (Option.filter_eq_some_iff.1 h.2).1)

/-- Text as a piece, unless there is none. -/
def Piece.ofText (cs : List Char) : List Piece := if cs.isEmpty then [] else [.text cs]

def Piece.ofTag (inside : List Char) : Piece :=
  let (name, argument) := (cutAt '=' inside).getD (inside, [])
  .tag name argument

/-- The pieces of a line, given the text read since the last tag, last character first. In front of a
tag two backslashes stand for one, and one left over keeps the tag as text. -/
def piecesOf (read : List Char) (cs : List Char) : List Piece :=
  let slashes := cs.takeWhile (· = '\\')
  match h : cs.dropWhile (· = '\\') with
  | [] => Piece.ofText (slashes ++ read).reverse
  | c :: rest =>
    have hc : (c :: rest).length ≤ cs.length := h ▸ (List.dropWhile_sublist _).length_le
    match ht : tagAt? (c :: rest) with
    | none =>
      have := Nat.lt_of_succ_le hc
      piecesOf (c :: slashes ++ read) rest
    | some (inside, after) =>
      have := Nat.lt_of_lt_of_le (length_tagAt? ht) hc
      let tag := if slashes.length % 2 = 0 then Piece.ofTag inside else .text ('[' :: inside ++ [']'])
      Piece.ofText read.reverse ++ Piece.ofText (slashes.take (slashes.length / 2)) ++
        tag :: piecesOf [] after
termination_by cs.length

/-! ## Styles -/

/-- Why a line cannot be shown. -/
inductive Fault where
  | notBegun
  | notCallable
  | number (f : NumberFault)
  deriving DecidableEq

/-- A style that has begun: its normal name, its argument and the place in the shown text. -/
structure OpenTag where
  name : String
  argument : List Char
  start : Nat

/-- A part of the shown text and the name of its style. -/
structure Span where
  start : Nat
  stop : Nat
  style : String

/-- Whether a character may be in the name of a handler. -/
def isHandlerChar (c : Char) : Bool := c = '.' || inRanges wordRanges c.toNat

/-- Whether what follows the equals sign of a tag with an at sign can be called: it is the name of a
handler, or a name with literals in brackets on the same line, or a literal by itself. -/
def isCall (argument : List Char) : Bool :=
  let call := trimChars argument
  let literals := call.dropWhile isHandlerChar
  if literals.isEmpty then true
  else if literals.head? = some '(' && literals.getLast? = some ')' && !literals.contains '\n' then
    isLiteral literals
  else isLiteral call

/-- The style that a closing tag of a name ends, and those that stay begun. -/
def endStyle (name : String) (begun : List OpenTag) : Except Fault (OpenTag × List OpenTag) := do
  let (ended, left) ← if (trim name).isEmpty then pure (begun.head?, begun.tail)
    else do
      let name ← (normalName name).mapError .number
      pure (begun.find? (·.name = name), begun.eraseP (·.name = name))
  match ended with
  | none => throw .notBegun
  | some t => if t.name.startsWith "@" && !isCall t.argument then throw .notCallable else return (t, left)

/-- The part of the text that a style covers up to some place; a handler is no style. -/
def OpenTag.span (t : OpenTag) (stop : Nat) : Span where
  start := t.start
  stop
  style := if t.argument.isEmpty then t.name else t.name ++ " " ++ String.ofList t.argument

/-! ## Showing -/

/-- Control characters that a terminal acts on and that no line keeps. -/
def isDropped (c : Char) : Bool := c.toNat ∈ [7, 8, 11, 12, 13]

/-- A bracket after a backslash, without the backslash. -/
def dropEscapes : List Char → List Char
  | '\\' :: '[' :: cs => '[' :: dropEscapes cs
  | c :: cs => c :: dropEscapes cs
  | [] => []

/-- A piece of text as it is shown. -/
def showText (cs : List Char) : List Char := (showEmoji (dropEscapes cs)).filter (!isDropped ·)

/-- A text as it is shown, with the styles on it; of two that begin at one place, the one that ended
later comes first. -/
structure Shown where
  text : List Char
  spans : List Span

/-- Shows pieces after a text that is already shown, given the styles that have begun, the last one first. -/
def showPieces (before : Shown) : List OpenTag → List Piece → Except Fault Shown
  | begun, [] =>
    .ok { before with spans := (begun.map (·.span before.text.length)).reverse ++ before.spans }
  | begun, .text cs :: ps => showPieces { before with text := before.text ++ showText cs } begun ps
  | begun, .tag ('/' :: name) _ :: ps => do
    let (ended, begun) ← endStyle (String.ofList name) begun
    if ended.name.startsWith "@" then showPieces before begun ps
    else showPieces { before with spans := ended.span before.text.length :: before.spans } begun ps
  | begun, .tag name argument :: ps => do
    let name ← (normalName (String.ofList name)).mapError .number
    showPieces before (⟨name, argument, before.text.length⟩ :: begun) ps

/-- Whether a style is read when a text is laid out. A text in one line without tabs has all of its styles
read, any other those that cover more than ends of lines. -/
def Shown.reads (s : Shown) (isOneLine : Bool) (p : Span) : Bool :=
  (isOneLine && !s.text.contains '\t') || ((s.text.drop p.start).take (p.stop - p.start)).any (· ≠ '\n')

/-- Reads the styles of a text in their order. -/
def Shown.readStyles (s : Shown) (isOneLine : Bool) : Except Fault Unit :=
  ((s.spans.mergeSort fun a b => a.start ≤ b.start).filter (s.reads isOneLine)).forM fun p => do
    let _ ← (Style.ofName? p.style).mapError .number

/-- A text with style tags as it is shown. -/
def Shown.ofLine (line : String) : Except Fault Shown := showPieces ⟨[], []⟩ [] (piecesOf [] line.toList)

/-- The lines of a text with style tags. -/
def Shown.lines (s : Shown) (limit : Nat) (overflow : Overflow) : Except Fault (List String) := do
  let lines := laidOut limit overflow (String.ofList s.text)
  s.readStyles (lines.length = 1)
  return lines

/-- A text whose brackets are text as it is shown. -/
def plainShown (line : String) : String :=
  String.ofList ((showEmoji line.toList).filter (!isDropped ·))

end Overlay.Terminal
