import StyledMarkup.Text.Basic

/-!
# Digits

Hexadecimal digits in both directions, decimal numbers, and counts: a count is a decimal number
of at most 64 bits, and its spelling may start with a plus sign and with zeros.
-/

namespace StyledMarkup
namespace Text

/-- The value of a hexadecimal digit of either case, of the ASCII digits only. -/
def hexValue? (c : Char) : Option Nat :=
  if '0' ≤ c ∧ c ≤ '9' then some (c.toNat - '0'.toNat)
  else if 'a' ≤ c ∧ c ≤ 'f' then some (c.toNat - 'a'.toNat + 10)
  else if 'A' ≤ c ∧ c ≤ 'F' then some (c.toNat - 'A'.toNat + 10)
  else none

/-- Whether the character is a hexadecimal digit of either case. -/
def isHexDigit (c : Char) : Bool :=
  (hexValue? c).isSome

/-- The lowercase hexadecimal digit of a value below sixteen. -/
def hexDigit (n : Nat) : Char :=
  if n < 10 then Char.ofNat ('0'.toNat + n) else Char.ofNat ('a'.toNat + (n - 10))

/-- The value of a decimal digit, of the ASCII digits only. -/
def decimalValue? (c : Char) : Option Nat :=
  if '0' ≤ c ∧ c ≤ '9' then some (c.toNat - '0'.toNat) else none

/-- The value of a non-empty run of digits in a radix of at most sixteen; `none` for the empty
text and for a text with any other character. -/
def readRadix? (radix : Nat) (digits : Text) : Option Nat :=
  if digits.isEmpty then none
  else digits.foldl
    (fun sum c => do
      let total ← sum
      let value ← hexValue? c
      if value < radix then some (total * radix + value) else none)
    (some 0)

/-- The number in decimal, with no leading zero. -/
def ofNat (n : Nat) : Text :=
  Nat.toDigits 10 n

/-- The number in decimal, with a leading minus sign if it is negative. -/
def ofInt : Int → Text
  | .ofNat n => ofNat n
  | .negSucc n => '-' :: ofNat (n + 1)

/-- The number in lowercase hexadecimal, with no leading zero. -/
def ofNatHex (n : Nat) : Text :=
  Nat.toDigits 16 n

/-- One more than the greatest count. -/
def countLimit : Nat := 0x10000000000000000

/-- Reads a count: digits, after a plus sign if there is one, of a value below `countLimit`. -/
def readCount? (t : Text) : Option Nat := do
  let digits := (after? ['+'] t).getD t
  let n ← readRadix? 10 digits
  if n < countLimit then some n else none

end Text
end StyledMarkup
