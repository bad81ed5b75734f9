/-
Full case mapping: a character may become several, and a capital sigma becomes the final form at
the end of a word. A sigma ends a word when, passing over the characters that case ignores, a
letter with case stands before it and none after it.
-/
import Overlay.Text.Blank
import Overlay.Text.CaseTable

namespace Overlay.Text

/-- The image of a code point under the rows and sequences of a mapping; others stay. -/
def mapCase (rows : List CaseRow) (sequences : List (Nat × List Nat)) (c : Char) : List Char :=
  match rows.find? (·.covers c.toNat) with
  | some r => [Char.ofNat (c.toNat + r.shift).toNat]
  | none => match sequences.find? (·.1 == c.toNat) with
    | some s => s.2.map Char.ofNat
    | none => [c]

/-! ## Lower case -/

/-- Whether the first character that case does not ignore is a letter with case. -/
def meetsCased (cs : List Char) : Bool :=
  match cs.dropWhile fun c => inRanges caseIgnorableRanges c.toNat with
  | [] => false
  | c :: _ => inRanges casedRanges c.toNat

/-- Lower case of a text, given what precedes it in reverse. -/
def lowerAfter : List Char → List Char → List Char
  | _, [] => []
  | before, c :: cs =>
    (if c = 'Σ' then [if meetsCased before && !meetsCased cs then 'ς' else 'σ']
      else mapCase lowerRows lowerSequences c) ++ lowerAfter (c :: before) cs

def lowerChars (cs : List Char) : List Char := lowerAfter [] cs

def lower (s : String) : String := String.ofList (lowerChars s.toList)

/-! ## Upper case -/

def upperChar (c : Char) : List Char := mapCase upperRows upperSequences c

def upper (s : String) : String := String.ofList (s.toList.flatMap upperChar)

end Overlay.Text
