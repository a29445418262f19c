import StyledMarkup.Json.Value
import StyledMarkup.Text.Digit

/-!
# Reading numbers of documents

A number without fraction and exponent is an integer if it fits 64 bits, signed or not. Every
other number is a double, and so is a negative zero. The double is found from the leading digits
that fit 64 bits: they are rounded, and then multiplied or divided by the rounded power of ten,
with one more rounding. A number beyond the greatest double is refused.
-/

namespace StyledMarkup
namespace Json

/-- The spelling of a number in its parts; the fraction and the exponent may be missing. -/
structure NumberParts where
  negative : Bool
  whole : Text
  fraction : Option Text
  exponent : Option (Bool × Text)

/-- The leading run of decimal digits, and the rest. -/
def digitRun (t : Text) : Text × Text :=
  (t.takeWhile Char.isDigit, t.dropWhile Char.isDigit)

/-- The digits after a decimal point, which must not be missing. -/
def readFraction? : Text → Option (Option Text × Text)
  | '.' :: rest =>
    let (digits, rest) := digitRun rest
    if digits.isEmpty then none else some (some digits, rest)
  | rest => some (none, rest)

/-- The sign of an exponent, and the rest; `true` stands for minus. -/
def exponentSign : Text → Bool × Text
  | '+' :: rest => (false, rest)
  | '-' :: rest => (true, rest)
  | rest => (false, rest)

/-- The exponent, whose digits must not be missing and must end the text. -/
def readExponent? : Text → Option (Option (Bool × Text))
  | [] => some none
  | mark :: rest =>
    let (negative, digits) := exponentSign rest
    if (mark = 'e' ∨ mark = 'E') ∧ digits ≠ [] ∧ digits.all Char.isDigit then
      some (some (negative, digits))
    else none

/-- The parts of a number: digits without a leading zero, except for zero itself. -/
def readParts? (t : Text) : Option NumberParts := do
  let (negative, rest) := match t with
    | '-' :: rest => (true, rest)
    | rest => (false, rest)
  let (whole, rest) := digitRun rest
  if whole.isEmpty || (whole.head? == some '0' && whole.length != 1) then none
  else
    let (fraction, rest) ← readFraction? rest
    let exponent ← readExponent? rest
    some ⟨negative, whole, fraction, exponent⟩

/-- The value of a run of decimal digits. -/
def digitsValue (digits : Text) : Nat :=
  digits.foldl (fun sum c => sum * 10 + (c.toNat - '0'.toNat)) 0

/-- What the leading digits that fit 64 bits have in common with all the digits: their value, and
the number of digits that were left out. -/
def leadingDigits (sum : Nat) : Text → Nat × Nat
  | [] => (sum, 0)
  | c :: rest =>
    let next := sum * 10 + (c.toNat - '0'.toNat)
    if next < twoTo 64 then leadingDigits next rest else (sum, rest.length + 1)

/-- The greatest power of ten below the greatest double. -/
def greatestPower : Nat := 308

/-- The double nearest to a power of ten. -/
def powerOfTen? (power : Nat) : Option Double :=
  Double.ofRatio? false (tenTo power) 1

/-- A double divided by a power of ten, of which no more than the greatest one is taken at a
time. -/
def divideByPower (d : Double) (power : Nat) : Option Double :=
  if power ≤ greatestPower then do d.div? (← powerOfTen? power)
  else if d.isZero then some d
  else do divideByPower (← d.div? (← powerOfTen? greatestPower)) (power - greatestPower)
termination_by power
decreasing_by simp only [greatestPower] at *; omega

/-- A double times a power of ten with a negative or other exponent. -/
def timesPower (d : Double) : Int → Option Double
  | .ofNat power =>
    if d.isZero then some d
    else if power ≤ greatestPower then do d.mul? (← powerOfTen? power)
    else none
  | .negSucc power => divideByPower d (power + 1)

/-- The value of a number that is no integer. -/
def readFloat? (parts : NumberParts) : Option Double := do
  let (whole, dropped) := leadingDigits 0 parts.whole
  let fraction := parts.fraction.getD []
  let (significand, unread) := leadingDigits whole fraction
  let places : Int := dropped - (fraction.length - unread : Nat)
  let exponent : Int := match parts.exponent with
    | none => 0
    | some (true, digits) => -digitsValue digits
    | some (false, digits) => digitsValue digits
  timesPower (← Double.ofRatio? parts.negative significand 1) (places + exponent)

/-- Reads a number. -/
def readNumber? (t : Text) : Option Json := do
  let parts ← readParts? t
  let n := digitsValue parts.whole
  let isWhole := parts.fraction.isNone && parts.exponent.isNone
  if isWhole && !parts.negative && n < twoTo 64 then some (int n)
  else if isWhole && parts.negative && 0 < n && n ≤ twoTo 63 then some (int (-n))
  else some (float (← readFloat? parts))

end Json
end StyledMarkup
