/-
Style names of terminal lines: attributes such as `bold`, a colour, a background after `on` and a target
after `link`, in any order and any case. Names that mean one style have one normal form. A colour may be
a triple of numbers, and a name with such a number that cannot be read is an error.
-/
import Overlay.Bag
import Overlay.Number.Token
import Overlay.Text.Case
import Overlay.Text.Digit
import Overlay.Text.Hexadecimal

namespace Overlay.Terminal

open Text

/-! ## Words -/

/-- The attributes in the order of the normal form, each with its other names. -/
def attributeNames : List (String × List String) := [
  ("bold", ["b"]), ("dim", ["d"]), ("italic", ["i"]), ("underline", ["u"]), ("blink", []),
  ("blink2", []), ("reverse", ["r"]), ("conceal", ["c"]), ("strike", ["s"]), ("underline2", ["uu"]),
  ("frame", []), ("encircle", []), ("overline", ["o"])]

/-- The attribute that a word names. -/
def attribute? (word : String) : Option String :=
  (attributeNames.find? fun a => a.1 = word || word ∈ a.2).map Prod.fst

/-- The named colours. -/
def colorNames : String := "
  default
  black red green yellow blue magenta cyan white bright_black bright_red bright_green bright_yellow
  bright_blue bright_magenta bright_cyan bright_white grey0 gray0 navy_blue dark_blue blue3 blue1
  dark_green deep_sky_blue4 dodger_blue3 dodger_blue2 green4 spring_green4 turquoise4 deep_sky_blue3
  dodger_blue1 green3 spring_green3 dark_cyan light_sea_green deep_sky_blue2 deep_sky_blue1
  spring_green2 cyan3 dark_turquoise turquoise2 green1 spring_green1 medium_spring_green cyan2 cyan1
  dark_red deep_pink4 purple4 purple3 blue_violet orange4 grey37 gray37 medium_purple4 slate_blue3
  royal_blue1 chartreuse4 dark_sea_green4 pale_turquoise4 steel_blue steel_blue3 cornflower_blue
  chartreuse3 cadet_blue sky_blue3 steel_blue1 pale_green3 sea_green3 aquamarine3 medium_turquoise
  chartreuse2 sea_green2 sea_green1 aquamarine1 dark_slate_gray2 dark_magenta dark_violet purple
  light_pink4 plum4 medium_purple3 slate_blue1 yellow4 wheat4 grey53 gray53 light_slate_grey
  light_slate_gray medium_purple light_slate_blue dark_olive_green3 dark_sea_green light_sky_blue3
  sky_blue2 dark_sea_green3 dark_slate_gray3 sky_blue1 chartreuse1 light_green pale_green1
  dark_slate_gray1 red3 medium_violet_red magenta3 dark_orange3 indian_red hot_pink3 medium_orchid3
  medium_orchid medium_purple2 dark_goldenrod light_salmon3 rosy_brown grey63 gray63 medium_purple1
  gold3 dark_khaki navajo_white3 grey69 gray69 light_steel_blue3 light_steel_blue yellow3
  dark_sea_green2 light_cyan3 light_sky_blue1 green_yellow dark_olive_green2 dark_sea_green1
  pale_turquoise1 deep_pink3 magenta2 hot_pink2 orchid medium_orchid1 orange3 light_pink3 pink3
  plum3 violet light_goldenrod3 tan misty_rose3 thistle3 plum2 khaki3 light_goldenrod2 light_yellow3
  grey84 gray84 light_steel_blue1 yellow2 dark_olive_green1 honeydew2 light_cyan1 red1 deep_pink2
  deep_pink1 magenta1 orange_red1 indian_red1 hot_pink dark_orange salmon1 light_coral
  pale_violet_red1 orchid2 orchid1 orange1 sandy_brown light_salmon1 light_pink1 pink1 plum1 gold1
  navajo_white1 misty_rose1 thistle1 yellow1 light_goldenrod1 khaki1 wheat1 cornsilk1 grey100
  gray100 grey3 gray3 grey7 gray7 grey11 gray11 grey15 gray15 grey19 gray19 grey23 gray23 grey27
  gray27 grey30 gray30 grey35 gray35 grey39 gray39 grey42 gray42 grey46 gray46 grey50 gray50 grey54
  gray54 grey58 gray58 grey62 gray62 grey66 gray66 grey70 gray70 grey74 gray74 grey78 gray78 grey82
  gray82 grey85 gray85 grey89 gray89 grey93 gray93"

/-- A number in the name of a colour that cannot be read. -/
inductive NumberFault where
  | empty
  | tooLong (n : NumeralTooLong)
  deriving DecidableEq

/-- The number that digits denote. -/
def readNumber (ds : List Char) : Except NumberFault Nat :=
  if ds.isEmpty then .error .empty
  else if Token.digitLimit < ds.length then .error (.tooLong ⟨ds.length⟩)
  else .ok (decimalNumber ds)

/-- What stands in brackets after a name. -/
def inBrackets? (name word : List Char) : Option (List Char) := do
  let inside ← after? (name ++ ['(']) word
  if inside.getLast? = some ')' then some inside.dropLast else none

/-- Whether a word is a colour by its number in the palette: up to three digits, at most 255. -/
def isPaletteColor (word : List Char) : Bool :=
  (inBrackets? "color".toList word).any fun ds =>
    Token.isDigits ds && ds.length ≤ 3 && Token.digitsValue ds ≤ 255

/-- Whether a word is a colour by its parts: three numbers of at most 255. -/
def isColorTriple (word : List Char) : Except NumberFault Bool :=
  match inBrackets? "rgb".toList word with
  | none => .ok false
  | some inside =>
    let parts := pieces (· = ',') inside
    if inside.isEmpty || !(inside.all fun c => isDecimal c || c = ',') || parts.length ≠ 3 then .ok false
    else (parts.mapM readNumber).map (·.all (· ≤ 255))

/-- Whether a word in small letters is a colour: a name, six hexadecimal digits, a number or a triple. -/
def isColor (word : String) : Except NumberFault Bool :=
  let cs := word.toList
  if (words colorNames.toList).any (· = cs) || isPaletteColor cs ||
      (after? ['#'] cs).any fun digits => digits.length = 6 && digits.all isHexDigit then .ok true
  else isColorTriple cs

/-! ## Styles -/

/-- What a style name asks for. -/
structure Style where
  attributes : Bag String Bool := ∅
  color : Option String := none
  background : Option String := none
  link : Option String := none

namespace Style

/-- Adds words to a style, if they name one; of two words on the same subject, the later counts. -/
def ofWords? (s : Style) : List String → Except NumberFault (Option Style)
  | [] => .ok (some s)
  | word :: rest =>
    match lower word, rest with
    | "on", color :: rest => do
      if ← isColor (lower color) then ofWords? { s with background := some (lower color) } rest
      else return none
    | "not", word :: rest =>
      match attribute? word with
      | some a => ofWords? { s with attributes := s.attributes.put a false } rest
      | none => .ok none
    | "link", target :: rest => ofWords? { s with link := some target } rest
    | word, rest =>
      match attribute? word with
      | some a => ofWords? { s with attributes := s.attributes.put a true } rest
      | none => do if ← isColor word then ofWords? { s with color := some word } rest else return none

/-- The style that a name means, if it means one. -/
def ofName? (name : String) : Except NumberFault (Option Style) :=
  ofWords? {} ((Text.words name.toList).map String.ofList)

/-- The words of a style in normal order. -/
def words (s : Style) : List String :=
  (attributeNames.flatMap fun a => match s.attributes.get? a.1 with
    | none => []
    | some true => [a.1]
    | some false => ["not", a.1]) ++
    s.color.toList ++ (s.background.map (["on", ·])).getD [] ++ (s.link.map (["link", ·])).getD []

end Style

/-- The normal form of a style name; a name that means no style is only trimmed and put in small letters. -/
def normalName (name : String) : Except NumberFault String := do
  match ← Style.ofName? name with
  | some s => return " ".intercalate s.words
  | none => return lower (trim name)

end Overlay.Terminal
