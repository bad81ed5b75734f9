/-
Scanning markup into steps. Nothing is refused but marked sections without a known name; a tag or a
comment that never ends is taken as text up to its next `>`, and the content of a script or style
element is text up to its closing tag.
-/
import Overlay.Markup.Reference
import Overlay.Markup.Tree
import Overlay.Text.Case

namespace Overlay.Markup

open Text

/-! ## Delimiters -/

/-- What follows units in order, with blanks allowed between them. -/
def afterUnits : List (List Char) → List Char → Option (List Char)
  | [], cs => some cs
  | u :: us, cs => (after? u (cs.dropWhile isBlank)).bind (afterUnits us)

/-- What follows the first place where the units come; the first unit starts right there. -/
def searchUnits (first : List Char) (rest : List (List Char)) : List Char → Option (List Char)
  | [] => none
  | c :: cs =>
    match (after? first (c :: cs)).bind (afterUnits rest) with
    | some r => some r
    | none => searchUnits first rest cs

/-- What follows the first `>`. -/
def pastAngle (cs : List Char) : Option (List Char) := (cutAt '>' cs).map Prod.snd

/-! ## Names and attributes -/

/-- The end of a tag's name. -/
def endsTagName (c : Char) : Bool := c ∈ ['\t', '\n', '\r', '\x0c', ' ', '/', '>', '\x00']

def isQuote (c : Char) : Bool := c = '\'' || c = '"'

/-- What may stand before an attribute's name. -/
def bringsAttribute (c : Char) : Bool := isQuote c || c = '/' || isBlank c

/-- Drops blanks, and slashes unless a `>` follows; also gives the last character that came before
what is left. -/
def dropGap (last : Char) : List Char → Char × List Char
  | [] => (last, [])
  | c :: cs =>
    if c = '/' then (if cs.head? = some '>' then (last, c :: cs) else dropGap c cs)
    else if isBlank c then dropGap c cs
    else (last, c :: cs)

/-- A value between quotes, if its closing quote comes. -/
def quotedValue? : List Char → Option (List Char × List Char)
  | [] => none
  | q :: cs => if isQuote q then cutAt q cs else none

/-- A value up to a blank or `>`. -/
def bareValue (cs : List Char) : List Char × List Char :=
  (cs.takeWhile fun c => c ≠ '>' && !isBlank c, cs.dropWhile fun c => c ≠ '>' && !isBlank c)

/-- A value after an attribute's name, with the last character before what is left. A quote that is
never closed starts no value: the blanks or the equals sign before it are given back. -/
def attributeValue? (cs : List Char) : Option (List Char × Char × List Char) :=
  let signs := cs.dropWhile isBlank
  let equals := signs.takeWhile (· = '=')
  if equals.isEmpty then none
  else
    let blanks := (signs.drop equals.length).takeWhile isBlank
    let body := signs.drop (equals.length + blanks.length)
    match quotedValue? body with
    | some (value, rest) => some (value, body.headD '"', rest)
    | none =>
      if !(body.head?.any isQuote) then
        let (value, rest) := bareValue body
        some (value, (value.getLast?.getD (blanks.getLast?.getD '=')), rest)
      else if !blanks.isEmpty then some ([], ' ', body)
      else if equals.length < 2 then none
      else
        let (value, rest) := bareValue ('=' :: body)
        some (value, value.getLast?.getD '=', rest)

/-- The attributes of a tag in the form in which they stand, and what follows them. -/
def attributesFrom : Nat → Char → List Char → List (List Char × Option (List Char)) × List Char
  | 0, _, cs => ([], cs)
  | fuel + 1, last, cs =>
    match cs with
    | [] => ([], [])
    | c :: rest =>
      if !bringsAttribute last || isBlank c || c = '/' || c = '>' then ([], cs)
      else
        let stops (d : Char) := isBlank d || d = '/' || d = '=' || d = '>'
        let name := c :: rest.takeWhile fun d => !stops d
        let after := rest.dropWhile fun d => !stops d
        let (value, last, after) := match attributeValue? after with
          | some (v, last, r) => (some v, last, r)
          | none => (none, name.getLast?.getD c, after)
        let (last, after) := dropGap last after
        let (more, after) := attributesFrom fuel last after
        ((name, value) :: more, after)

/-- An attribute with its name in lower case and the references in its value replaced. -/
def readAttribute (a : List Char × Option (List Char)) : Except NumeralTooLong (String × Option String) :=
  match a.2 with
  | none => .ok (String.ofList (lowerChars a.1), none)
  | some v => (unescape v).map fun v => (String.ofList (lowerChars a.1), some (String.ofList v))

/-! ## Pieces -/

/-- What one piece of markup comes to. -/
inductive Piece where
  /-- Steps, and what follows. -/
  | steps (s : List Step) (rest : List Char)
  /-- A tag after which text is raw up to its closing tag. -/
  | rawText (s : List Step) (tag : List Char) (rest : List Char)
  /-- The end of the piece never comes. -/
  | unfinished

abbrev Scan (α : Type) := Except Failure α

def readText (cs : List Char) : Scan (List Char) := (unescape cs).mapError .numeral

def dataStep (cs : List Char) : List Step := if cs.isEmpty then [] else [.data (String.ofList cs)]

/-- Tags whose content is raw text. -/
def rawTags : List (List Char) := ["script".toList, "style".toList]

def isTagStart (c : Char) : Bool := ('a' ≤ c && c ≤ 'z') || ('A' ≤ c && c ≤ 'Z')

/-- A start tag; `cs` begins with its name. -/
def startTag (cs : List Char) : Scan Piece := do
  let name := cs.takeWhile fun c => !endsTagName c
  let afterName := cs.dropWhile fun c => !endsTagName c
  let (last, afterGap) := dropGap (name.getLast?.getD '<') afterName
  let (attributes, rest) := attributesFrom (cs.length + 1) last afterGap
  let tag := lowerChars name
  match rest with
  | '>' :: rest =>
    let read ← (attributes.mapM readAttribute).mapError .numeral
    let s := [Step.opening (String.ofList tag) read]
    return if tag ∈ rawTags then .rawText s tag rest else .steps s rest
  | '/' :: '>' :: rest =>
    let read ← (attributes.mapM readAttribute).mapError .numeral
    return .steps [.alone (String.ofList tag) read] rest
  | [] => return .unfinished
  | c :: _ =>
    if isTagStart c || c = '=' || c = '/' then return .unfinished
    else
      let _ ← (attributes.mapM readAttribute).mapError .numeral
      return .steps (dataStep ('<' :: cs.take (cs.length - rest.length))) rest

/-- The name of a closing tag of plain form and what follows its `>`. -/
def plainClosing? (cs : List Char) : Option (List Char × List Char) :=
  match cs.dropWhile isBlank with
  | [] => none
  | c :: rest =>
    if isTagStart c then
      let isPart (d : Char) := isTagStart d || Token.isDigit d || d ∈ ['-', '.', ':', '_']
      match (rest.dropWhile isPart).dropWhile isBlank with
      | '>' :: after => some (c :: rest.takeWhile isPart, after)
      | _ => none
    else none

/-- A closing tag; `cs` follows its `</`. -/
def closingTag (cs : List Char) : Piece :=
  match pastAngle cs with
  | none => .unfinished
  | some rest =>
    match plainClosing? cs with
    | some (name, rest) => .steps [.closing (String.ofList (lowerChars name))] rest
    | none =>
      if cs.head?.any isTagStart then
        .steps [.closing (String.ofList (lowerChars (cs.takeWhile fun c => !endsTagName c)))] rest
      else .steps [] rest

def skipTo (rest : Option (List Char)) : Piece :=
  match rest with
  | none => .unfinished
  | some rest => .steps [] rest

/-- A marked section; `cs` follows its `<![`. -/
def markedSection (cs : List Char) : Scan Piece :=
  match cs with
  | [] => .ok .unfinished
  | c :: rest =>
    if isTagStart c then
      let isPart (d : Char) := isTagStart d || Token.isDigit d || d ∈ ['-', '_', '.']
      let name := c :: rest.takeWhile isPart
      let blanks := (rest.dropWhile isPart).takeWhile isBlank
      let word := String.ofList (lowerChars name)
      if name.length + blanks.length = cs.length then .ok .unfinished
      else if word ∈ ["temp", "cdata", "ignore", "include", "rcdata"] then
        .ok (skipTo (searchUnits [']'] [[']'], ['>']] cs))
      else if word ∈ ["if", "else", "endif"] then .ok (skipTo (searchUnits [']'] [['>']] cs))
      else .error (.markup (.unknownSection (String.ofList (name ++ blanks))))
    else .error (.markup (.noSectionName (String.ofList ('<' :: '!' :: '[' :: cs.take 17))))

/-- A piece of markup; `cs` follows its `<`. `none` is a `<` that is text. -/
def piece? (cs : List Char) : Scan (Option Piece) :=
  match cs with
  | '/' :: cs => .ok (some (closingTag cs))
  | '!' :: '-' :: '-' :: cs => .ok (some (skipTo (searchUnits ['-', '-'] [['>']] cs)))
  | '?' :: cs => .ok (some (skipTo (pastAngle cs)))
  | '!' :: '[' :: cs => (markedSection cs).map some
  | '!' :: cs => .ok (some (skipTo (pastAngle cs)))
  | c :: _ => if isTagStart c then (startTag cs).map some else .ok none
  | [] => .ok none

/-- Where a piece that never ends stops being markup: after its next `>`, else before the next `<`,
else after its first character. `cs` follows the `<`. -/
def unfinishedText (cs : List Char) : List Char × List Char :=
  match cutAt '>' cs with
  | some (before, after) => ('<' :: before ++ ['>'], after)
  | none => if '<' ∈ cs then ('<' :: cs.takeWhile (· ≠ '<'), cs.dropWhile (· ≠ '<')) else (['<'], cs)

/-! ## Raw text -/

/-- Whether a character counts as a letter of a raw tag's name, which is in lower case. -/
def sameLetter (letter c : Char) : Bool :=
  c.toLower = letter || (letter = 's' && c = 'ſ') || (letter = 'i' && (c = 'ı' || c = 'İ'))

/-- What follows a name in any case. -/
def afterName : List Char → List Char → Option (List Char)
  | [], cs => some cs
  | _ :: _, [] => none
  | a :: as, c :: cs => if sameLetter a c then afterName as cs else none

/-- Whether a text begins with what may close raw text of a tag. -/
def closesRaw (tag : List Char) (cs : List Char) : Bool :=
  match after? ['<', '/'] cs with
  | none => false
  | some rest => match afterName tag (rest.dropWhile isBlank) with
    | none => false
    | some rest => (rest.dropWhile isBlank).head? = some '>'

/-- The text before the first place that may close raw text, and the text from there on. -/
def cutRaw (tag : List Char) : List Char → Option (List Char × List Char)
  | [] => none
  | c :: cs =>
    if closesRaw tag (c :: cs) then some ([], c :: cs)
    else (cutRaw tag cs).map fun p => (c :: p.1, p.2)

/-- The steps of raw text up to its closing tag and what follows; raw text that is never closed is
dropped with all that it holds. -/
def rawSteps (tag : List Char) : Nat → List Char → List Step × List Char
  | 0, _ => ([], [])
  | fuel + 1, cs =>
    match cutRaw tag cs with
    | none => ([], [])
    | some (before, at_) =>
      match plainClosing? (at_.drop 2) with
      | some (name, rest) => (dataStep before ++ [.closing (String.ofList (lowerChars name))], rest)
      | none =>
        let shown := at_.takeWhile (· ≠ '>') ++ ['>']
        let (more, rest) := rawSteps tag fuel (at_.drop shown.length)
        (dataStep before ++ dataStep shown ++ more, rest)

/-! ## The scan -/

/-- The steps of markup; every round leaves less than `fuel` characters. -/
def scanFrom : Nat → List Char → Scan (List Step)
  | 0, _ => .ok []
  | fuel + 1, cs => do
    let plain ← readText (cs.takeWhile (· ≠ '<'))
    match cs.dropWhile (· ≠ '<') with
    | [] => return dataStep plain
    | _ :: rest =>
      let more (s : List Step) (rest : List Char) : Scan (List Step) := do
        return dataStep plain ++ s ++ (← scanFrom fuel rest)
      match ← piece? rest with
      | none => more (dataStep ['<']) rest
      | some (.steps s rest) => more s rest
      | some (.rawText s tag rest) =>
        let (raw, rest) := rawSteps tag (rest.length + 1) rest
        more (s ++ raw) rest
      | some .unfinished =>
        let (text, rest) := unfinishedText rest
        more (dataStep (← readText text)) rest

def scan (markup : String) : Scan (List Step) :=
  let cs := markup.toList
  scanFrom (cs.length + 1) cs

/-- The tree of a markup text. -/
def Element.ofMarkup (markup : String) : Scan Element := (scan markup).map Element.ofSteps

end Overlay.Markup
