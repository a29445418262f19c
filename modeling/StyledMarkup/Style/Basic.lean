import StyledMarkup.Style.Code

/-!
# Styles

A style is a color, or none, and five format flags. A color code keeps the flags, a format code
switches its flag on, and the reset clears everything.
-/

namespace StyledMarkup

/-- A color and the format flags. -/
structure Style where
  color : Option Color := none
  bold : Bool := false
  italic : Bool := false
  underlined : Bool := false
  strikethrough : Bool := false
  obfuscated : Bool := false
deriving DecidableEq, Inhabited

namespace Style

/-- The style without color and formats. -/
def plain : Style := {}

/-- Whether the style is the plain one. -/
def isPlain (style : Style) : Bool :=
  style == plain

/-- Whether the flag of the format is on. -/
def has (style : Style) : Format → Bool
  | .obfuscated => style.obfuscated
  | .bold => style.bold
  | .strikethrough => style.strikethrough
  | .underlined => style.underlined
  | .italic => style.italic

/-- Switches the flag of the format on or off. -/
def set (style : Style) (format : Format) (on : Bool) : Style :=
  match format with
  | .obfuscated => { style with obfuscated := on }
  | .bold => { style with bold := on }
  | .strikethrough => { style with strikethrough := on }
  | .underlined => { style with underlined := on }
  | .italic => { style with italic := on }

/-- The formats that are on, in the order of their codes. -/
def formats (style : Style) : List Format :=
  Format.all.filter style.has

/-- The style after a code. -/
def apply (style : Style) : ShortCode → Style
  | .color color => { style with color := some (.named color) }
  | .format format => style.set format true
  | .reset => plain

end Style
end StyledMarkup
