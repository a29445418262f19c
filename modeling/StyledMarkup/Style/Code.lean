import StyledMarkup.Style.Color

/-!
# Codes and their section-sign form

A short code names a color, a format or the reset. Chat clients know the codes by the section sign
before them; a color by its components is written there as an `x` and its six digits, with a
section sign before each.
-/

namespace StyledMarkup

/-- The sign before every code in the text that chat clients read. -/
def sectionSign : Char := '§'

/-- The formats of a style, in the order of their codes. -/
inductive Format where
  | obfuscated | bold | strikethrough | underlined | italic
deriving DecidableEq, Inhabited

namespace Format

/-- The formats in the order of their codes. -/
def all : List Format :=
  [obfuscated, bold, strikethrough, underlined, italic]

/-- The code of the format. -/
def code : Format → Char
  | obfuscated => 'k'
  | bold => 'l'
  | strikethrough => 'm'
  | underlined => 'n'
  | italic => 'o'

/-- The format of a code. -/
def ofCode? (c : Char) : Option Format :=
  all.find? fun format => format.code == c

end Format

/-- What a short code stands for. -/
inductive ShortCode where
  | color (color : NamedColor)
  | format (format : Format)
  | reset
deriving DecidableEq, Inhabited

namespace ShortCode

/-- The code of a character of either case. -/
def ofChar? (c : Char) : Option ShortCode :=
  if c.toLower = 'r' then some reset
  else match Format.ofCode? c.toLower with
    | some f => some (format f)
    | none => (NamedColor.ofCode? c.toLower).map color

/-- The character of the code. -/
def symbol : ShortCode → Char
  | color c => c.code
  | format f => f.code
  | reset => 'r'

/-- The code with the section sign. -/
def toSection (code : ShortCode) : Text :=
  [sectionSign, code.symbol]

end ShortCode

/-- The color with section signs: the code of a named color, or `x` and six digits. -/
def Color.toSection : Color → Text
  | named color => [sectionSign, color.code]
  | rgb color => sectionSign :: 'x' :: color.hexDigits.flatMap fun digit => [sectionSign, digit]

end StyledMarkup
