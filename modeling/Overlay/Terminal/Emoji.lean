/-
Emoji codes in text: a name between two colons stands for the emoji of that name. A name may end in
`-text` or `-emoji`, which asks for the plain or the coloured variant.
-/
import Overlay.Terminal.EmojiTable
import Overlay.Text.Case
import Overlay.Text.Hexadecimal

namespace Overlay.Terminal

open Text

/-! ## Names -/

/-- The names and code points of entries, given the name before them. -/
def emojiEntries (before : List Char) : List (List Char) → List (List Char × List Char)
  | [] => []
  | entry :: rest =>
    match cutAt ':' entry with
    | none => emojiEntries before rest
    | some (shared, entry) =>
      match cutAt '=' entry with
      | none => emojiEntries before rest
      | some (ending, codes) =>
        let shared := shared.foldl (fun n c => 10 * n + (c.toNat - '0'.toNat)) 0
        let name := before.take shared ++ ending
        (name, (pieces (· = ',') codes).map fun h => Char.ofNat (hexNumber h)) :: emojiEntries name rest

/-- The emoji of a name in small letters. -/
def emoji? (name : List Char) : Option (List Char) :=
  (emojiEntries [] (words emojiTable.toList)).lookup name

/-- The endings that choose a variant of an emoji, with the character that selects it. -/
def variants : List (List Char × Char) := [("-emoji".toList, '\uFE0F'), ("-text".toList, '\uFE0E')]

/-- What stands between the colons of a code, split into the name and the variant. -/
def variantOf (inside : List Char) : List Char × List Char :=
  match variants.find? fun v => v.1.isSuffixOf inside with
  | some (ending, selector) => (inside.take (inside.length - ending.length), [selector])
  | none => (inside, [])

/-- What a code shows; one with an unknown name shows itself. -/
def showCode (inside : List Char) : List Char :=
  let (name, variant) := variantOf inside
  match emoji? (lowerChars name) with
  | some emoji => emoji ++ variant
  | none => ':' :: inside ++ [':']

/-! ## Text -/

/-- The inside of a code whose first colon is already read, and the text after it. -/
def codeAt? (cs : List Char) : Option (List Char × List Char) :=
  (cutAt ':' cs).filter fun p => !p.1.any isBlank

theorem length_codeAt? {cs inside rest : List Char} (h : codeAt? cs = some (inside, rest)) :
    rest.length < cs.length :=
  length_cutAt (Option.filter_eq_some_iff.1 h).1

/-- A text with its codes shown. -/
def showEmoji : List Char → List Char
  | [] => []
  | c :: cs =>
    if c = ':' then
      match h : codeAt? cs with
      | some (inside, rest) =>
        have := length_codeAt? h
        showCode inside ++ showEmoji rest
      | none => c :: showEmoji cs
    else c :: showEmoji cs
termination_by cs => cs.length

end Overlay.Terminal
