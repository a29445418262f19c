import StyledMarkup.Style.Rgb
import StyledMarkup.Text.Case

/-!
# Named colors

The sixteen named colors have a code of one hexadecimal digit, a name, components and one of the
first sixteen entries of the palette. A color is a named one or one given by its components; the
two are kept apart even where the components agree.
-/

namespace StyledMarkup

/-- The colors that have a code, in the order of their codes. -/
inductive NamedColor where
  | black | darkBlue | darkGreen | darkAqua | darkRed | darkPurple | gold | gray
  | darkGray | blue | green | aqua | red | lightPurple | yellow | white
deriving DecidableEq, Inhabited

namespace NamedColor

/-- The named colors in the order of their codes. -/
def all : List NamedColor :=
  [black, darkBlue, darkGreen, darkAqua, darkRed, darkPurple, gold, gray,
   darkGray, blue, green, aqua, red, lightPurple, yellow, white]

/-- The code of the color. -/
def code : NamedColor → Char
  | black => '0'
  | darkBlue => '1'
  | darkGreen => '2'
  | darkAqua => '3'
  | darkRed => '4'
  | darkPurple => '5'
  | gold => '6'
  | gray => '7'
  | darkGray => '8'
  | blue => '9'
  | green => 'a'
  | aqua => 'b'
  | red => 'c'
  | lightPurple => 'd'
  | yellow => 'e'
  | white => 'f'

/-- The name of the color. -/
def name : NamedColor → Text
  | black => "black".toList
  | darkBlue => "dark_blue".toList
  | darkGreen => "dark_green".toList
  | darkAqua => "dark_aqua".toList
  | darkRed => "dark_red".toList
  | darkPurple => "dark_purple".toList
  | gold => "gold".toList
  | gray => "gray".toList
  | darkGray => "dark_gray".toList
  | blue => "blue".toList
  | green => "green".toList
  | aqua => "aqua".toList
  | red => "red".toList
  | lightPurple => "light_purple".toList
  | yellow => "yellow".toList
  | white => "white".toList

/-- The components of the color. -/
def rgb : NamedColor → Rgb
  | black => ⟨0x00, 0x00, 0x00⟩
  | darkBlue => ⟨0x00, 0x00, 0xaa⟩
  | darkGreen => ⟨0x00, 0xaa, 0x00⟩
  | darkAqua => ⟨0x00, 0xaa, 0xaa⟩
  | darkRed => ⟨0xaa, 0x00, 0x00⟩
  | darkPurple => ⟨0xaa, 0x00, 0xaa⟩
  | gold => ⟨0xff, 0xaa, 0x00⟩
  | gray => ⟨0xaa, 0xaa, 0xaa⟩
  | darkGray => ⟨0x55, 0x55, 0x55⟩
  | blue => ⟨0x55, 0x55, 0xff⟩
  | green => ⟨0x55, 0xff, 0x55⟩
  | aqua => ⟨0x55, 0xff, 0xff⟩
  | red => ⟨0xff, 0x55, 0x55⟩
  | lightPurple => ⟨0xff, 0x55, 0xff⟩
  | yellow => ⟨0xff, 0xff, 0x55⟩
  | white => ⟨0xff, 0xff, 0xff⟩

/-- The entry of the palette that shows the color: terminals number their dark colors first, and
red before blue. -/
def paletteIndex : NamedColor → UInt8
  | black => 0
  | darkRed => 1
  | darkGreen => 2
  | gold => 3
  | darkBlue => 4
  | darkPurple => 5
  | darkAqua => 6
  | gray => 7
  | darkGray => 8
  | red => 9
  | green => 10
  | yellow => 11
  | blue => 12
  | lightPurple => 13
  | aqua => 14
  | white => 15

/-- The color of a code, of either case. -/
def ofCode? (c : Char) : Option NamedColor :=
  all.find? fun color => color.code == c.toLower

/-- The color of a name, of any case and with blanks at either end. -/
def ofName? (name : Text) : Option NamedColor :=
  all.find? fun color => color.name == name.trim.lower

end NamedColor

/-- A color of a style. -/
inductive Color where
  | named (color : NamedColor)
  | rgb (color : Rgb)
deriving DecidableEq, Inhabited

namespace Color

/-- The components of the color. -/
def toRgb : Color → Rgb
  | named color => color.rgb
  | rgb color => color

/-- The color in a component document: its name, or the color sign and six digits. -/
def label : Color → Text
  | named color => color.name
  | rgb color => color.toText

/-- The entry of the palette for the color. -/
def paletteIndex : Color → UInt8
  | named color => color.paletteIndex
  | rgb color => color.paletteIndex

/-- Reads a color: components after a color sign, else a name. -/
def ofText? (t : Text) : Option Color :=
  if t.head? = some '#' then (Rgb.ofHex? t).map rgb else (NamedColor.ofName? t).map named

end Color
end StyledMarkup
