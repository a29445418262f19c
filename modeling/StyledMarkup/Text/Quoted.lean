import StyledMarkup.Text.Digit
import StyledMarkup.Text.Unicode.Extender
import StyledMarkup.Text.Unicode.Invisible

/-!
# Quoted texts

The form in which messages show a text: between quotes, with a backslash before the quote and the
backslash itself, short escapes for the tab, the line ends and the null character, and the code
point in braces for every character that would not show or would show on its neighbour.
-/

namespace StyledMarkup
namespace Text

/-- A character as it stands between two characters `quote`. -/
def quotedChar (quote c : Char) : Text :=
  if c = quote ∨ c = '\\' then ['\\', c]
  else if c = '\t' then ['\\', 't']
  else if c = '\r' then ['\\', 'r']
  else if c = '\n' then ['\\', 'n']
  else if c.toNat = 0 then ['\\', '0']
  else if 0x20 ≤ c.toNat ∧ c.toNat < 0x7f then [c]
  else if Unicode.isExtender c || Unicode.isInvisible c then
    "\\u\x7b".toList ++ ofNatHex c.toNat ++ ['}']
  else [c]

/-- The text in double quotes. -/
def quoted (t : Text) : Text :=
  '"' :: t.flatMap (quotedChar '"') ++ ['"']

/-- The character in single quotes. -/
def quotedAlone (c : Char) : Text :=
  '\'' :: quotedChar '\'' c ++ ['\'']

end Text
end StyledMarkup
