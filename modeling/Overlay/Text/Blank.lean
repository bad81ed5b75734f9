/-
White space and cutting. Blanks are the characters that trimming removes and that separate words;
`pieces` cuts a text at every character of a kind, and `words` keeps the runs between blanks.
Everything works on lists of characters, so lengths and positions count code points.
-/
namespace Overlay.Text

/-- Whether a code point lies in one of the ranges, both ends included. -/
def inRanges (ranges : List (Nat × Nat)) (n : Nat) : Bool :=
  ranges.any fun r => r.1 ≤ n && n ≤ r.2

/-! ## Blanks -/

/-- The white space of Unicode together with the four information separators. -/
def blankRanges : List (Nat × Nat) := [
  (0x9, 0xD), (0x1C, 0x20), (0x85, 0x85), (0xA0, 0xA0), (0x1680, 0x1680), (0x2000, 0x200A),
  (0x2028, 0x2029), (0x202F, 0x202F), (0x205F, 0x205F), (0x3000, 0x3000)]

def isBlank (c : Char) : Bool := inRanges blankRanges c.toNat

/-- Drops the characters of a kind from the end. -/
def dropEndWhile (p : Char → Bool) (cs : List Char) : List Char :=
  (cs.reverse.dropWhile p).reverse

/-- Drops the blanks at both ends. -/
def trimChars (cs : List Char) : List Char := dropEndWhile isBlank (cs.dropWhile isBlank)

/-- A text without the blanks at its ends. -/
def trim (s : String) : String := String.ofList (trimChars s.toList)

/-! ## Cutting -/

/-- The pieces between the characters that satisfy `p`: one more piece than there are such
characters, empty ones included. -/
def pieces (p : Char → Bool) : List Char → List (List Char)
  | [] => [[]]
  | c :: cs =>
    if p c then [] :: pieces p cs
    else match pieces p cs with
      | [] => [[c]]
      | w :: ws => (c :: w) :: ws

/-- The runs of characters between blanks. -/
def words (cs : List Char) : List (List Char) := (pieces isBlank cs).filter (· ≠ [])

/-- The part before the first `mark` and the part after it, if there is one. -/
def cutAt (mark : Char) : List Char → Option (List Char × List Char)
  | [] => none
  | c :: cs => if c = mark then some ([], cs) else (cutAt mark cs).map fun p => (c :: p.1, p.2)

/-- What follows the mark is shorter than the whole. -/
theorem length_cutAt {mark : Char} {cs before rest : List Char} (h : cutAt mark cs = some (before, rest)) :
    rest.length < cs.length := by
  induction cs generalizing before with
  | nil => simp [cutAt] at h
  | cons c cs ih =>
    unfold cutAt at h
    split at h
    · cases h; simp
    · obtain ⟨q, hq, hp⟩ := Option.map_eq_some_iff.1 h
      cases hp
      exact Nat.lt_succ_of_lt (ih hq)

/-- What follows `start`, if the text begins with it. -/
def after? : List Char → List Char → Option (List Char)
  | [], cs => some cs
  | _ :: _, [] => none
  | a :: as, c :: cs => if a = c then after? as cs else none

/-- A text has something after its beginning exactly if it is made of the two. -/
theorem after?_eq_some_iff {start cs rest : List Char} : after? start cs = some rest ↔ cs = start ++ rest := by
  induction start generalizing cs with
  | nil => exact Option.some_inj
  | cons a start ih =>
    rcases cs with _ | ⟨c, cs⟩
    · simp [after?]
    · by_cases hc : a = c
      · simp [after?, hc, ih]
      · simp [after?, hc, Ne.symm hc]

/-! ## Lines -/

/-- A text with line feeds for all line ends. -/
def unifyLineEnds : List Char → List Char
  | [] => []
  | '\r' :: '\n' :: cs => '\n' :: unifyLineEnds cs
  | '\r' :: cs => '\n' :: unifyLineEnds cs
  | c :: cs => c :: unifyLineEnds cs

end Overlay.Text
