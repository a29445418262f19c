import StyledMarkup.Text.Digit

/-!
# Colors by their components

A color of three components of eight bits each, its two spellings in hexadecimal, and the entry of
a terminal's palette that stands for it. The palette has sixteen colors of the terminal's own,
then a cube of six levels for each component, then a ramp of twenty-four grays.
-/

namespace StyledMarkup

/-- Red, green and blue, from 0 to 255 each. -/
structure Rgb where
  red : UInt8
  green : UInt8
  blue : UInt8
deriving DecidableEq, Inhabited

namespace Rgb

/-- The color of three components given as numbers. -/
def ofNats (red green blue : Nat) : Rgb :=
  ⟨.ofNat red, .ofNat green, .ofNat blue⟩

/-- The color of the values of its hexadecimal digits: one digit for each component counts as that
digit twice, two digits for each component are its value. -/
def ofDigitValues? : List Nat → Option Rgb
  | [r, g, b] => some (ofNats (17 * r) (17 * g) (17 * b))
  | [r₁, r₂, g₁, g₂, b₁, b₂] => some (ofNats (16 * r₁ + r₂) (16 * g₁ + g₂) (16 * b₁ + b₂))
  | _ => none

/-- Reads three or six hexadecimal digits of either case, after a color sign if there is one. -/
def ofHex? (t : Text) : Option Rgb := do
  let digits := (Text.after? ['#'] t).getD t
  let values ← digits.mapM Text.hexValue?
  ofDigitValues? values

/-- The two hexadecimal digits of a component. -/
def componentDigits (c : UInt8) : Text :=
  [Text.hexDigit (c.toNat / 16), Text.hexDigit (c.toNat % 16)]

/-- The six hexadecimal digits of the color, in lowercase. -/
def hexDigits (color : Rgb) : Text :=
  componentDigits color.red ++ componentDigits color.green ++ componentDigits color.blue

/-- The color sign and the six digits. -/
def toText (color : Rgb) : Text :=
  '#' :: color.hexDigits

/-- Where the cube of the palette starts. -/
def cubeBase : UInt8 := 16

/-- The white corner of the cube. -/
def cubeWhite : UInt8 := 231

/-- Where the gray ramp of the palette starts. -/
def grayBase : UInt8 := 232

/-- The level of a component on the scale of the cube, from 0 to 5. -/
def cubeLevel (component : UInt8) : UInt8 :=
  (component.toUInt16 * 5 / 255).toUInt8

/-- The entry of the palette for a color: a gray goes to the ramp, or to a corner of the cube at
either end of the scale, and any other color goes to the cube. -/
def paletteIndex (color : Rgb) : UInt8 :=
  if color.red = color.green ∧ color.green = color.blue then
    if color.red ≤ 7 then cubeBase
    else if 249 ≤ color.red then cubeWhite
    else grayBase + ((color.red.toUInt16 - 8) * 24 / 247).toUInt8
  else
    cubeBase + 36 * cubeLevel color.red + 6 * cubeLevel color.green + cubeLevel color.blue

end Rgb
end StyledMarkup
