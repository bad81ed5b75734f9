/-
Number tokens: an integer is an optional sign and decimal digits; a decimal may also have a point
and an exponent. Only ASCII digits count. An integer token is read exactly, up to a limit on its
length; a decimal token is read as the nearest double.
-/
import Overlay.Text.Blank
import Overlay.Number.Double

namespace Overlay

/-- A numeral of more digits than are read. -/
structure NumeralTooLong where
  digits : Nat
  deriving DecidableEq

namespace Token

/-- The most digits of an integer that is read; leading zeros count and the sign does not. -/
def digitLimit : Nat := 4300

/-! ## Digits -/

def isDigit (c : Char) : Bool := '0' ≤ c && c ≤ '9'

/-- The number that decimal digits denote. -/
def digitsValue (ds : List Char) : Nat := ds.foldl (fun n c => 10 * n + (c.toNat - '0'.toNat)) 0

/-- Whether a token has a minus sign, and the token without its sign. -/
def splitSign : List Char → Bool × List Char
  | '-' :: cs => (true, cs)
  | '+' :: cs => (false, cs)
  | cs => (false, cs)

def isDigits (cs : List Char) : Bool := !cs.isEmpty && cs.all isDigit

/-! ## Integers -/

/-- An optional sign and at least one digit. -/
def isInteger (token : List Char) : Bool := isDigits (splitSign token).2

/-- The number of a sequence of digits, if it is short enough to be read. -/
def readDigits (ds : List Char) : Except NumeralTooLong Nat :=
  if digitLimit < ds.length then .error ⟨ds.length⟩ else .ok (digitsValue ds)

/-- The integer of an integer token. -/
def readInteger (token : List Char) : Except NumeralTooLong Int :=
  let (negative, ds) := splitSign token
  (readDigits ds).map (Double.withSign negative)

/-- The integer of a token that is one, and nothing of any other text. -/
def integer? (token : List Char) : Except NumeralTooLong (Option Int) :=
  if isInteger token then (readInteger token).map some else .ok none

/-! ## Decimals -/

/-- The exponent that ends a decimal token: nothing, or `e`, an optional sign and digits. -/
def exponent? : List Char → Option Int
  | [] => some 0
  | c :: cs =>
    if c = 'e' || c = 'E' then
      let (negative, ds) := splitSign cs
      if isDigits ds then some (Double.withSign negative (digitsValue ds)) else none
    else none

/-- Sign, digits and power of ten of a decimal token: digits with at most one point among or
around them, then an exponent. -/
def decimal? (token : List Char) : Option (Bool × Nat × Int) :=
  let (negative, cs) := splitSign token
  let whole := cs.takeWhile isDigit
  let (fraction, rest) := match cs.dropWhile isDigit with
    | '.' :: ds => (ds.takeWhile isDigit, ds.dropWhile isDigit)
    | ds => ([], ds)
  if whole.isEmpty && fraction.isEmpty then none
  else (exponent? rest).map fun power =>
    (negative, digitsValue (whole ++ fraction), power - fraction.length)

/-- The double nearest to a decimal token. -/
def double? (token : List Char) : Option Double :=
  (decimal? token).map fun (negative, digits, power) => Double.ofDecimal negative digits power

end Token

end Overlay
