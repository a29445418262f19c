import StyledMarkup.Decimal.Double

/-!
# The shortest decimals of doubles

A decimal reads back as a double if it lies in the interval of the numbers that round to it. The
shortest decimal of a double is the one with the fewest digits that lies there, and of two such
the nearer one. If any decimal of a given number of digits lies in the interval, so does one of
the two neighbours of the double on that grid, so only these are tried.
-/

namespace StyledMarkup

/-- The number `digits * 10 ^ exponent`. -/
structure Decimal where
  digits : Nat
  exponent : Int
deriving DecidableEq, Inhabited

namespace Decimal

/-- The two sides of the comparison of `digits * 10 ^ exponent` with `quarters` quarters of
`2 ^ binary`, both as naturals. -/
def sides (digits : Nat) (exponent : Int) (quarters : Nat) (binary : Int) : Nat × Nat :=
  let unit := binary - 2
  (digits * tenTo exponent.toNat * twoTo (-unit).toNat,
    quarters * twoTo unit.toNat * tenTo (-exponent).toNat)

/-- The interval of the numbers that round to a double, in quarters of its unit: the ends lie half
way to its neighbours, and the lower neighbour of a power of two is only half as far. -/
def interval (d : Double) : Nat × Nat :=
  let m := d.significand
  let lower :=
    if m = twoTo (Double.precision - 1) ∧ d.exponent > Double.minExponent then 4 * m - 1
    else 4 * m - 2
  (lower, 4 * m + 2)

/-- Whether the decimal rounds to the double; the ends of the interval do if the significand is
even. -/
def readsBack (d : Double) (digits : Nat) (exponent : Int) : Bool :=
  let (lower, upper) := interval d
  let (a, low) := sides digits exponent lower d.exponent
  let (b, high) := sides digits exponent upper d.exponent
  if d.significand % 2 = 0 then low ≤ a && b ≤ high else low < a && b < high

/-- The greatest multiple of `10 ^ exponent` that is not above the double. -/
def floorAt (d : Double) (exponent : Int) : Nat :=
  let (ten, value) := sides 1 exponent (4 * d.significand) d.exponent
  value / ten

/-- Whether the double lies nearer to the greater of the two neighbours `below` and `below + 1`;
half way the even one counts as nearer. -/
def nearerAbove (d : Double) (below : Nat) (exponent : Int) : Bool :=
  let (middle, value) := sides (2 * below + 1) exponent (8 * d.significand) d.exponent
  middle < value || (middle == value && below % 2 == 1)

/-- The decimal with its trailing zeros moved to the exponent. -/
def trimmed (digits : Nat) (exponent : Int) : Decimal :=
  if digits ≠ 0 ∧ digits % 10 = 0 then trimmed (digits / 10) (exponent + 1)
  else ⟨digits, exponent⟩
termination_by digits
decreasing_by omega

/-- The exponent of the first decimal digit of a double that is not zero. -/
def leadingExponent (d : Double) : Int :=
  let guess := ((d.significand.log2 : Int) + d.exponent) * 30103 / 100000
  if floorAt d guess = 0 then guess - 1
  else if floorAt d (guess + 1) = 0 then guess
  else guess + 1

/-- The neighbour on the grid of `10 ^ exponent` that reads back, the nearer one of two. -/
def onGrid? (d : Double) (exponent : Int) : Option Decimal :=
  let below := floorAt d exponent
  match readsBack d below exponent, readsBack d (below + 1) exponent with
  | true, true =>
    some (trimmed (if nearerAbove d below exponent then below + 1 else below) exponent)
  | true, false => some (trimmed below exponent)
  | false, true => some (trimmed (below + 1) exponent)
  | false, false => none

/-- The shortest decimal of the magnitude of a double. -/
def shortest (d : Double) : Decimal :=
  if d.isZero then ⟨0, 0⟩
  else
    let leading := leadingExponent d
    ((List.range 17).findSome? fun (n : Nat) => onGrid? d (leading - (n : Int))).getD
      ⟨d.significand, 0⟩

end Decimal
end StyledMarkup
