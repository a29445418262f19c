/-!
# Doubles

The finite binary floating point numbers of 64 bits: a significand of at most 53 bits times a
power of two, with a sign, which zero has too. Arithmetic is done on exact ratios of naturals and
rounded once, to the nearest double, and to the even significand from half way between two.
-/

namespace StyledMarkup

/-- The power of two with an exponent. -/
def twoTo (exponent : Nat) : Nat := Nat.pow 2 exponent

/-- The power of ten with an exponent. -/
def tenTo (exponent : Nat) : Nat := Nat.pow 10 exponent

/-- The number `significand * 2 ^ exponent`, negated if `negative`. -/
structure Double where
  negative : Bool
  significand : Nat
  exponent : Int
deriving DecidableEq, Inhabited

namespace Double

/-- The least exponent. -/
def minExponent : Int := -1074

/-- The greatest exponent. -/
def maxExponent : Int := 971

/-- The bits of a full significand. -/
def precision : Nat := 53

/-- Zero with a sign. -/
def zero (negative : Bool) : Double := ⟨negative, 0, minExponent⟩

/-- Whether the number is a zero. -/
def isZero (d : Double) : Bool := d.significand == 0

/-- The natural nearest to a quotient, and the even one from half way between two. -/
def roundQuotient (num den : Nat) : Nat :=
  let whole := num / den
  let twice := 2 * (num % den)
  if twice > den ∨ (twice = den ∧ whole % 2 = 1) then whole + 1 else whole

/-- The ratio `num / den` divided by a power of two, as a ratio. -/
def scale (num den : Nat) (exponent : Int) : Nat × Nat :=
  match exponent with
  | .ofNat k => (num, den * twoTo k)
  | .negSucc k => (num * twoTo (k + 1), den)

/-- The exponent at which the significand of a positive ratio is full, or the least exponent. -/
def exponentOf (num den : Nat) : Int :=
  let guess : Int := (num.log2 : Int) - den.log2 - (precision - 1)
  let (n, d) := scale num den guess
  max minExponent (if n < d * twoTo (precision - 1) then guess - 1 else guess)

/-- The double nearest to the ratio `num / den`; `none` if it lies beyond the greatest one. -/
def ofRatio? (negative : Bool) (num den : Nat) : Option Double :=
  if num = 0 then some (zero negative)
  else
    let exponent := exponentOf num den
    let (n, d) := scale num den exponent
    let significand := roundQuotient n d
    let (significand, exponent) :=
      if significand = twoTo precision then (twoTo (precision - 1), exponent + 1)
      else (significand, exponent)
    if exponent > maxExponent then none else some ⟨negative, significand, exponent⟩

/-- The magnitude of the number as a ratio. -/
def ratio (d : Double) : Nat × Nat :=
  scale d.significand 1 (-d.exponent)

/-- The double nearest to the product. -/
def mul? (a b : Double) : Option Double :=
  let (n, m) := a.ratio
  let (k, l) := b.ratio
  ofRatio? (a.negative != b.negative) (n * k) (m * l)

/-- The double nearest to the quotient by a number that is not zero. -/
def div? (a b : Double) : Option Double :=
  let (n, m) := a.ratio
  let (k, l) := b.ratio
  ofRatio? (a.negative != b.negative) (n * l) (m * k)

/-- The double nearest to `digits * 10 ^ exponent`; `none` if it lies beyond the greatest one.
Exponents far outside the range of doubles are decided without the power of ten. -/
def ofDecimal? (negative : Bool) (digits : Nat) (exponent : Int) : Option Double :=
  if digits = 0 then some (zero negative)
  else
    let leading : Int := exponent + (Nat.toDigits 10 digits).length
    if leading > 310 then none
    else if leading < -330 then some (zero negative)
    else match exponent with
      | .ofNat k => ofRatio? negative (digits * tenTo k) 1
      | .negSucc k => ofRatio? negative digits (tenTo (k + 1))

end Double
end StyledMarkup
