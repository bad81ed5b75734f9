/-
Literals: numbers, quoted texts, the named constants, and tuples, sets and dictionaries of literals.
Only the question whether a text is a literal is answered; its value is not needed. A set and the keys
of a dictionary hold nothing that can change, and a text of bytes is not joined to one of characters.
-/
import Overlay.Number.Token
import Overlay.Text.Blank
import Overlay.Text.Hexadecimal

namespace Overlay.Terminal

open Text

namespace Literal

/-- What is known of a literal once it is read. -/
inductive Shape where
  /-- A number without sign or imaginary unit. -/
  | real
  /-- A number without sign, with imaginary unit. -/
  | imaginary
  /-- A number with a sign, without imaginary unit. -/
  | signed
  /-- The word `set`, which is a literal only when brackets follow. -/
  | setWord
  /-- Anything else, and whether it may be an element of a set. -/
  | other (fixed : Bool)
  deriving DecidableEq

def Shape.isFixed : Shape → Bool
  | .other fixed => fixed
  | _ => true

/-! ## Gaps -/

/-- Drops blanks, joined lines and comments; inside brackets the ends of lines too. The second flag says
that a comment has begun. -/
def skipGap (inside : Bool) : Bool → List Char → List Char
  | _, [] => []
  | true, c :: cs =>
    if c = '\n' then if inside then skipGap inside false cs else c :: cs
    else skipGap inside true cs
  | false, '\\' :: '\n' :: cs => skipGap inside false cs
  | false, c :: cs =>
    if c = '#' then skipGap inside true cs
    else if c ∈ [' ', '\t', '\x0c'] || (inside && c = '\n') then skipGap inside false cs
    else c :: cs

/-- The first line that is not blank, given the column in it and the column at which an earlier part of
it was joined; nothing if the line is indented. -/
def firstLine (column joined : Nat) : Bool → List Char → Option (List Char)
  | _, [] => some []
  | true, c :: cs => if c = '\n' then firstLine 0 0 false cs else firstLine column joined true cs
  | false, '\\' :: '\n' :: cs => firstLine column (if joined = 0 then column else joined) false cs
  | false, c :: cs =>
    if c = ' ' then firstLine (column + 1) joined false cs
    else if c = '\t' then firstLine (column / 8 * 8 + 8) joined false cs
    else if c = '\x0c' then firstLine 0 joined false cs
    else if c = '\n' then firstLine 0 0 false cs
    else if c = '#' then firstLine column joined true cs
    else if (if joined = 0 then column else joined) = 0 then some (c :: cs)
    else none

/-! ## Numbers -/

/-- The digits that a text begins with, single low lines between them left out, and what follows. -/
def digitRun (p : Char → Bool) : List Char → List Char × List Char
  | [] => ([], [])
  | c :: cs =>
    if p c then ((digitRun p cs).map (c :: ·) id)
    else if c = '_' && cs.head?.any p then digitRun p cs
    else ([], c :: cs)

/-- What may not follow a number at once. -/
def continuesWord (c : Char) : Bool := c.isAlphanum || c = '_' || c.toNat ≥ 0x80

/-- A number in another base, after its zero and the letter of the base. -/
def basedNumber? (letter : Char) (cs : List Char) : Option (List Char) :=
  let p? : Option (Char → Bool) :=
    if letter ∈ ['x', 'X'] then some isHexDigit
    else if letter ∈ ['o', 'O'] then some fun c => '0' ≤ c && c ≤ '7'
    else if letter ∈ ['b', 'B'] then some fun c => c = '0' || c = '1'
    else none
  p?.bind fun p =>
    let (ds, rest) := digitRun p cs
    if ds.isEmpty then none else some rest

/-- The text after an exponent, if there is one. -/
def exponentEnd? (cs : List Char) : Option (List Char) :=
  match cs with
  | e :: cs =>
    let digits := match cs with
      | '+' :: cs => cs
      | '-' :: cs => cs
      | _ => cs
    if e ∈ ['e', 'E'] && digits.head?.any Token.isDigit then some (digitRun Token.isDigit digits).2 else none
  | [] => none

/-- A decimal number; the text begins with a digit, or with a point and a digit. -/
def decimal? (cs : List Char) : Option (Shape × List Char) :=
  let (ds, afterDigits) := digitRun Token.isDigit cs
  let afterPoint? := match afterDigits with
    | '.' :: cs => some (if cs.head?.any Token.isDigit then (digitRun Token.isDigit cs).2 else cs)
    | _ => none
  let afterPoint := afterPoint?.getD afterDigits
  let afterExponent? := exponentEnd? afterPoint
  match afterExponent?.getD afterPoint with
  | 'j' :: rest => some (.imaginary, rest)
  | 'J' :: rest => some (.imaginary, rest)
  | rest =>
    let isWhole := afterPoint?.isNone && afterExponent?.isNone
    let isZero := ds.all (· = '0')
    if isWhole && !isZero && (ds.head? = some '0' || Token.digitLimit < ds.length) then none
    else some (.real, rest)

/-- A number; a word cannot follow it at once. -/
def number? (cs : List Char) : Option (Shape × List Char) := do
  let based := match cs with
    | '0' :: letter :: rest => basedNumber? letter rest
    | _ => none
  let (shape, rest) ← match based with
    | some rest => some (Shape.real, rest)
    | none => decimal? cs
  if rest.head?.any continuesWord then none else some (shape, rest)

/-! ## Quoted texts -/

/-- Whether a quoted text holds bytes, whether its backslashes are plain characters, and what follows
these marks. -/
def quoteMarks? (cs : List Char) : Option (Bool × Bool × List Char) :=
  let letters := (cs.takeWhile Char.isAlpha).map Char.toLower
  let rest := cs.dropWhile Char.isAlpha
  if rest.head?.any fun q => q = '\'' || q = '"' then
    if letters = [] || letters = ['u'] then some (false, false, rest)
    else if letters = ['r'] then some (false, true, rest)
    else if letters = ['b'] then some (true, false, rest)
    else if letters = ['b', 'r'] || letters = ['r', 'b'] then some (true, true, rest)
    else none
  else none

/-- What stands before the closing quote, and what follows it. -/
def quoteBody? (quote : Char) (tripled : Bool) : List Char → Option (List Char × List Char)
  | [] => none
  | '\\' :: c :: cs => (quoteBody? quote tripled cs).map fun r => ('\\' :: c :: r.1, r.2)
  | c :: cs =>
    if c = quote && (!tripled || cs.take 2 = [quote, quote]) then
      some ([], if tripled then cs.drop 2 else cs)
    else if c = '\n' && !tripled then none
    else (quoteBody? quote tripled cs).map fun r => (c :: r.1, r.2)

/-- Whether a text begins with so many hexadecimal digits, of a number up to a limit. -/
def hasHex (digits : Nat) (cs : List Char) : Bool :=
  let ds := cs.take digits
  ds.length = digits && ds.all isHexDigit && hexNumber ds ≤ 0x10FFFF

/-- Whether a text begins with the name of a character in braces. Names are not looked up. -/
def hasCharacterName (cs : List Char) : Bool :=
  match after? ['\x7b'] cs with
  | none => false
  | some cs =>
    let name := cs.takeWhile fun c => c.isAlphanum || c = ' ' || c = '-'
    !name.isEmpty && (cs.drop name.length).head? = some '\x7d'

/-- Whether every escape in a text is complete. -/
def escapesComplete (bytes : Bool) : List Char → Bool
  | '\\' :: c :: cs =>
    (if c = 'x' then hasHex 2 cs
      else if bytes then true
      else if c = 'u' then hasHex 4 cs
      else if c = 'U' then hasHex 8 cs
      else if c = 'N' then hasCharacterName cs
      else true) && escapesComplete bytes cs
  | _ :: cs => escapesComplete bytes cs
  | [] => true

/-- Whether a quoted text holds bytes, and what follows it. -/
def quoted? (cs : List Char) : Option (Bool × List Char) := do
  let (bytes, raw, cs) ← quoteMarks? cs
  let quote := cs.headD '"'
  let tripled := cs.take 3 = [quote, quote, quote]
  let (body, rest) ← quoteBody? quote tripled (cs.drop (if tripled then 3 else 1))
  if (bytes && body.any fun c => c.toNat ≥ 0x80) || !(raw || escapesComplete bytes body) then none
  else some (bytes, rest)

/-- What follows quoted texts side by side, all of one sort; each leaves less than `fuel` characters. -/
def quotedRun (inside : Bool) (bytes : Bool) : Nat → List Char → Option (List Char)
  | 0, _ => none
  | fuel + 1, cs =>
    let next := skipGap inside false cs
    if (quoteMarks? next).isNone then some cs
    else do
      let (bytes', rest) ← quoted? next
      if bytes' = bytes then quotedRun inside bytes fuel rest else none

/-! ## Words -/

/-- The letters that may stand for a small letter in a word: forms of it that differ in shape only. -/
def formsOf (c : Char) : List Nat :=
  let mathematical := (List.range 13).map fun k => 0x1D41A + 52 * k + (c.toNat - 'a'.toNat)
  c.toNat :: (0xFF41 + (c.toNat - 'a'.toNat)) ::
    (if c = 's' then [0x17F, 0x2E2, 0x209B] else if c = 'e' then [0x1D49, 0x2091, 0x212F, 0x2147]
      else if c = 't' then [0x1D57, 0x209C] else []) ++
    mathematical.filter (· ≠ 0x1D4BA)

def isSetWord (word : List Char) : Bool :=
  word.length = 3 && (word.zip ['s', 'e', 't']).all fun p => p.1.toNat ∈ formsOf p.2

def word? (cs : List Char) : Option (Shape × List Char) :=
  let word := cs.takeWhile continuesWord
  let rest := cs.dropWhile continuesWord
  if String.ofList word ∈ ["True", "False", "None"] then some (.other true, rest)
  else if isSetWord word then some (.setWord, rest)
  else none

/-! ## Expressions -/

/-- The most brackets that may be open at once. -/
def depthLimit : Nat := 200

/-- A sign, if the text begins with one, and what follows it. -/
def signed? : List Char → Option (List Char)
  | '+' :: cs => some cs
  | '-' :: cs => some cs
  | _ => none

/-- What separates and ends the elements of a list, given the text after an element: whether there is a
next element, and what follows. Outside of brackets the end of a line closes the list. -/
def closing? (close : Option Char) (cs : List Char) : Option (List Char) :=
  match close, cs with
  | none, [] => some []
  | none, '\n' :: cs => some ('\n' :: cs)
  | none, _ => none
  | some close, c :: cs => if c = close then some cs else none
  | some _, [] => none

mutual

/-- A number, text, word or bracketed literal, and the brackets that call the word `set`. -/
def primary? : Nat → Nat → List Char → Option (Shape × List Char)
  | 0, _, _ => none
  | fuel + 1, depth, cs => do
    let inside := depth > 0
    let (shape, rest) ← match cs with
      | '(' :: cs => if depth < depthLimit then group? fuel (depth + 1) (skipGap true false cs) else none
      | '\x7b' :: cs => if depth < depthLimit then braces? fuel (depth + 1) (skipGap true false cs) else none
      | '.' :: '.' :: '.' :: cs => some (.other true, cs)
      | c :: _ =>
        if Token.isDigit c || (c = '.' && cs.tail.head?.any Token.isDigit) then number? cs
        else if (quoteMarks? cs).isSome then do
          let (bytes, rest) ← quoted? cs
          pure (Shape.other true, ← quotedRun inside bytes (rest.length + 1) rest)
        else word? cs
      | [] => none
    match skipGap inside false rest with
    | '(' :: cs =>
      if shape = .setWord && depth < depthLimit then
        match skipGap true false cs with
        | ')' :: cs =>
          let after := skipGap inside false cs
          if after.head? = some '(' then none else some (.other false, after)
        | _ => none
      else none
    | rest => some (shape, rest)

/-- A literal: a primary one with or without a sign, or the sum of a real and an imaginary number. -/
def expression? : Nat → Nat → List Char → Option (Shape × List Char)
  | 0, _, _ => none
  | fuel + 1, depth, cs => do
    let gap := skipGap (depth > 0) false
    let (first, rest) ← match signed? cs with
      | none => primary? fuel depth cs
      | some cs => do
        let (shape, rest) ← primary? fuel depth (gap cs)
        match shape with
        | .real => some (Shape.signed, rest)
        | .imaginary => some (Shape.other true, rest)
        | _ => none
    match signed? rest with
    | none => some (first, rest)
    | some cs => do
      let (second, rest) ← primary? fuel depth (gap cs)
      if (first = .real || first = .signed) && second = .imaginary then some (.other true, rest) else none

/-- The elements of a list up to its end, and whether there is a comma among them. -/
def elements? : Nat → Nat → Option Char → List Char → Option (List Shape × Bool × List Char)
  | 0, _, _, _ => none
  | fuel + 1, depth, close, cs => do
    let (shape, rest) ← expression? fuel depth cs
    moreElements? fuel depth close shape rest

/-- The elements of a list up to its end, given the first one and what follows it. -/
def moreElements? : Nat → Nat → Option Char → Shape → List Char → Option (List Shape × Bool × List Char)
  | 0, _, _, _, _ => none
  | fuel + 1, depth, close, shape, rest =>
    match closing? close rest, rest with
    | some rest, _ => some ([shape], false, rest)
    | none, ',' :: rest =>
      let rest := skipGap (depth > 0) false rest
      match closing? close rest with
      | some rest => some ([shape], true, rest)
      | none => do
        let (shapes, _, rest) ← elements? fuel depth close rest
        return (shape :: shapes, true, rest)
    | none, _ => none

/-- What round brackets hold: nothing, one literal, or the elements of a tuple. -/
def group? : Nat → Nat → List Char → Option (Shape × List Char)
  | 0, _, _ => none
  | fuel + 1, depth, cs =>
    match cs with
    | ')' :: rest => some (.other true, rest)
    | _ => do
      let (shapes, hasComma, rest) ← elements? fuel depth (some ')') cs
      match shapes, hasComma with
      | [shape], false => some (shape, rest)
      | shapes, _ =>
        if shapes.contains .setWord then none else some (.other (shapes.all Shape.isFixed), rest)

/-- What braces hold: nothing, the entries of a dictionary, or the elements of a set. -/
def braces? : Nat → Nat → List Char → Option (Shape × List Char)
  | 0, _, _ => none
  | fuel + 1, depth, cs =>
    match cs with
    | '\x7d' :: rest => some (.other false, rest)
    | _ => do
      let (first, rest) ← expression? fuel depth cs
      match rest with
      | ':' :: rest => return (.other false, ← moreEntries? fuel depth first rest)
      | _ =>
        let (shapes, _, rest) ← moreElements? fuel depth (some '\x7d') first rest
        if shapes.contains .setWord || !shapes.all Shape.isFixed then none else some (.other false, rest)

/-- What follows the entries of a dictionary, given the key of the first one and what follows its colon. -/
def moreEntries? : Nat → Nat → Shape → List Char → Option (List Char)
  | 0, _, _, _ => none
  | fuel + 1, depth, key, cs => do
    let gap := skipGap true false
    let (value, rest) ← expression? fuel depth (gap cs)
    if key = .setWord || !key.isFixed || value = .setWord then none
    else match rest with
      | '\x7d' :: rest => some rest
      | ',' :: rest =>
        match gap rest with
        | '\x7d' :: rest => some rest
        | rest => do
          let (key, rest) ← expression? fuel depth rest
          moreEntries? fuel depth key (← after? [':'] rest)
      | _ => none

end

end Literal

open Literal in
/-- Whether a text is a literal, or literals with commas between them, on a line of their own among blank
lines and comments. -/
def isLiteral (text : List Char) : Bool :=
  let cs := unifyLineEnds (text.dropWhile fun c => c = ' ' || c = '\t')
  !cs.contains '\x00' && (firstLine 0 0 false cs).any fun line =>
    match elements? (8 * line.length + 8) 0 none line with
    | some (shapes, _, rest) => !shapes.contains .setWord && (skipGap true false rest).isEmpty
    | none => false

end Overlay.Terminal
