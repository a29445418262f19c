import StyledMarkup.Text.Quoted

/-!
# Tokens of the markup

A source is read as a list of tokens: plain text, references in braces, the short codes that set a
color or a format, colors in hexadecimal, and links.
-/

namespace StyledMarkup

/-- The codes that may follow the escape character: sixteen colors, five formats and the reset. -/
def shortCodes : List Char :=
  "0123456789abcdefklmnor".toList

/-- Whether the character is a short code; the codes are lowercase. -/
def isShortCode (c : Char) : Bool :=
  shortCodes.contains c

/-- What a stretch of a source stands for. -/
inductive Token where
  /-- Text that stands for itself. -/
  | text (content : Text)
  /-- The body of a pair of braces: the name of a value, or a call. -/
  | reference (body : Text)
  /-- The code that sets a color or a format. -/
  | code (symbol : Char)
  /-- The digits of a color. -/
  | hex (digits : Text)
  /-- A link, up to the blank that ends it. -/
  | link (address : Text)
deriving DecidableEq, Inhabited

namespace Token

/-- Whether the token is plain text. -/
def isText : Token → Bool
  | text _ => true
  | _ => false

/-- The token as a listing shows it: its kind, and its content in quotes. -/
def describe : Token → Text
  | text content => "Text(".toList ++ content.quoted ++ [')']
  | reference body => "Variable(".toList ++ body.quoted ++ [')']
  | code symbol => "LegacyColor(".toList ++ Text.quotedAlone symbol ++ [')']
  | hex digits => "HexColor(".toList ++ digits.quoted ++ [')']
  | link address => "Url(".toList ++ address.quoted ++ [')']

end Token
end StyledMarkup
