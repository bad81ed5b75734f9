/-
The text of a double: the fewest digits that read back as the same double and, among those, the
ones nearest to it. The search runs over grids of 1, 2, … 17 digits; on each grid only the two
neighbours of the value can lie in the interval of the reals that round to it.
-/
import Overlay.Number.Double

namespace Overlay

namespace Double

/-! ## Choosing the digits -/

/-- A decimal `digits · 10^power`. -/
structure Decimal where
  digits : Nat
  power : Int
  deriving DecidableEq

/-- Compares `a · 10^p` with `b · 2^e`. -/
def compareDecimal (a : Nat) (p : Int) (b : Nat) (e : Int) : Ordering :=
  compare (a * tenTo p * twoTo (-e)) (b * twoTo e * tenTo (-p))

/-- Whether `a · 10^p` rounds to `m · 2^e`. The interval reaches half way to the neighbours, its
ends included when `m` is even; below a power of two the lower neighbour is half as far. -/
def roundsTo (m : Nat) (e : Int) (a : Nat) (p : Int) : Bool :=
  let low := if m = twoTo 52 && leastExponent < e then 4 * m - 1 else 4 * m - 2
  let high := 4 * m + 2
  let ends := m % 2 == 0
  (match compareDecimal a p low (e - 2) with | .lt => false | .eq => ends | .gt => true) &&
    (match compareDecimal a p high (e - 2) with | .lt => true | .eq => ends | .gt => false)

/-- The power of ten of the first digit of `m · 2^e`, for a positive `m`. -/
def leadingPower (m : Nat) (e : Int) : Int :=
  let n := m * twoTo e
  let d := twoTo (-e)
  if d ≤ n then (digitCount (n / d) : Int) - 1 else -(digitCount ((d + n - 1) / n - 1) : Int)

/-- The better neighbour of `m · 2^e` on the grid of multiples of `10^p`, if one rounds to it: the
nearer one, or the even one when both are equally near. -/
def onGrid (m : Nat) (e p : Int) : Option Decimal :=
  let n := m * twoTo e * tenTo (-p)
  let d := twoTo (-e) * tenTo p
  let below := n / d
  match roundsTo m e below p, roundsTo m e (below + 1) p with
  | true, true => some ⟨roundDiv n d, p⟩
  | true, false => some ⟨below, p⟩
  | false, true => some ⟨below + 1, p⟩
  | false, false => none

/-- Drops the zeros at the end of the digits. -/
def Decimal.reduce : Nat → Decimal → Decimal
  | 0, x => x
  | fuel + 1, x =>
    if x.digits % 10 = 0 && x.digits ≠ 0 then Decimal.reduce fuel ⟨x.digits / 10, x.power + 1⟩ else x

/-- The shortest decimal that rounds to `m · 2^e`, for a positive `m`. -/
def shortest (m : Nat) (e : Int) : Decimal :=
  let lead := leadingPower m e
  let found := (List.range 17).findSome? fun (k : Nat) => onGrid m e (lead - k)
  (found.getD ⟨m, e⟩).reduce 20

/-! ## Laying them out -/

/-- The decisions of a number format: which powers of the first digit are written positionally,
whether a whole number keeps a zero after the point, how many digits an exponent has at least, and
the words for the values that are not finite. -/
structure Layout where
  leastPower : Int
  greatestPower : Int
  wholeSuffix : String
  exponentDigits : Nat
  infinity : String
  notANumber : String

/-- Digits with a point before the `places`-th one; zeros fill the gaps. -/
def positional (f : Layout) (ds : String) (power : Int) : String :=
  let n : Int := ds.length
  if 0 ≤ power then ds ++ String.ofList (List.replicate power.toNat '0') ++ f.wholeSuffix
  else if 0 < n + power then
    (ds.take (n + power).toNat).toString ++ "." ++ (ds.drop (n + power).toNat).toString
  else "0." ++ String.ofList (List.replicate (-(n + power)).toNat '0') ++ ds

/-- One digit before the point, and an exponent with its sign. -/
def scientific (f : Layout) (ds : String) (lead : Int) : String :=
  let shown := toString lead.natAbs
  let zeros := String.ofList (List.replicate (f.exponentDigits - shown.length) '0')
  let tail := (ds.drop 1).toString
  (ds.take 1).toString ++ (if tail.isEmpty then "" else "." ++ tail) ++
    "e" ++ (if lead < 0 then "-" else "+") ++ zeros ++ shown

def Layout.render (f : Layout) : Double → String
  | .notANumber => f.notANumber
  | .infinite negative => (if negative then "-" else "") ++ f.infinity
  | .finite negative m e =>
    let sign := if negative then "-" else ""
    if m = 0 then sign ++ "0" ++ f.wholeSuffix
    else
      let x := shortest m e
      let ds := toString x.digits
      let lead := x.power + ds.length - 1
      sign ++ (if f.leastPower ≤ lead && lead ≤ f.greatestPower
        then positional f ds x.power else scientific f ds lead)

end Double

end Overlay
