/-
Double-precision numbers as exact values: a finite double is `± significand · 2^exponent`, and the
nearest double to a ratio is found in `Nat` arithmetic, with ties to the even significand and
overflow to infinity.
-/
namespace Overlay

/-- A double-precision number. The finite ones built here have a significand below `2^53` and an
exponent from `-1074` to `971`, with a significand of at least `2^52` unless the exponent is `-1074`. -/
inductive Double where
  | finite (negative : Bool) (significand : Nat) (exponent : Int)
  | infinite (negative : Bool)
  | notANumber
  deriving DecidableEq, Inhabited

namespace Double

/-! ## Rounding -/

/-- The natural nearest to `n / d`; a half goes to the even neighbour. -/
def roundDiv (n d : Nat) : Nat :=
  let q := n / d
  let r := n % d
  if 2 * r < d || (2 * r == d && q % 2 == 0) then q else q + 1

/-- The power of two, which is one where the exponent is negative. -/
def twoTo (e : Int) : Nat := Nat.pow 2 e.toNat

/-- The power of ten, which is one where the exponent is negative. -/
def tenTo (p : Int) : Nat := Nat.pow 10 p.toNat

/-- `n / d · 2^(-e)` as a ratio. -/
def scale (n d : Nat) (e : Int) : Nat × Nat :=
  if 0 ≤ e then (n, d * twoTo e) else (n * twoTo (-e), d)

def leastExponent : Int := -1074

def greatestExponent : Int := 971

/-- The exponent of the doubles around `n / d`: the one that leaves a quotient of 53 bits, or the
least one. -/
def exponentOf (n d : Nat) : Int :=
  let e := max ((n.log2 : Int) - d.log2 - 52) leastExponent
  let s := scale n d e
  if s.1 / s.2 < twoTo 52 && leastExponent < e then e - 1 else e

/-- The double nearest to `n / d`, with a sign. -/
def ofRatio (negative : Bool) (n d : Nat) : Double :=
  if n = 0 then finite negative 0 leastExponent
  else
    let e := exponentOf n d
    let s := scale n d e
    let m := roundDiv s.1 s.2
    let (m, e) := if m = twoTo 53 then (twoTo 52, e + 1) else (m, e)
    if greatestExponent < e then infinite negative else finite negative m e

/-- The number of decimal digits of a positive number; zero has none. -/
def digitCount (n : Nat) : Nat := if n = 0 then 0 else (Nat.toDigits 10 n).length

/-- The double nearest to `digits · 10^power`, with a sign. Powers that are out of reach of any
double are settled by the number of digits, without computing them. -/
def ofDecimal (negative : Bool) (digits : Nat) (power : Int) : Double :=
  let places := digitCount digits + power
  if digits = 0 || places < -400 then finite negative 0 leastExponent
  else if 400 < places then infinite negative
  else if 0 ≤ power then ofRatio negative (digits * tenTo power) 1
  else ofRatio negative digits (tenTo (-power))

/-! ## Integral values -/

def isFinite : Double → Bool
  | finite .. => true
  | _ => false

def withSign (negative : Bool) (n : Nat) : Int := if negative then -(n : Int) else n

/-- The integer that a double equals, if it is one. -/
def toInt? : Double → Option Int
  | finite negative m e =>
    if 0 ≤ e then some (withSign negative (m * twoTo e))
    else if m % twoTo (-e) = 0 then some (withSign negative (m / twoTo (-e)))
    else none
  | _ => none

end Double

end Overlay
