import StyledMarkup.Markup.Token
import StyledMarkup.Markup.Mark
import StyledMarkup.Text.Digit

/-!
# Scanning one unit of markup

A unit is either one character of plain text or one token. It is found from the place where it
starts and from what follows there to the end of the source; only the closing brace of a
reference has been found beforehand. A sign that starts nothing is plain text.
-/

namespace StyledMarkup

/-- What one unit stands for. -/
inductive Lexeme where
  /-- A character of plain text. -/
  | char (c : Char)
  /-- A token, never a text. -/
  | token (t : Token)
deriving DecidableEq, Inhabited

/-- A unit and the number of characters that it takes after its first. -/
structure Scan where
  extra : Nat
  lexeme : Lexeme
deriving DecidableEq, Inhabited

namespace Scan

/-- A unit of one character that stands for itself or for another one. -/
def single (c : Char) : Scan :=
  ⟨0, .char c⟩

/-- The text that a body of braces spells: an escape character before a brace gives the brace, and
two of them before a brace give one. The closing brace follows the body, so two escape characters
at the end of a body are one. -/
def unescape : Text → Text
  | '&' :: '{' :: rest => '{' :: unescape rest
  | '&' :: '}' :: rest => '}' :: unescape rest
  | '&' :: '&' :: '{' :: rest => '&' :: '{' :: unescape rest
  | '&' :: '&' :: '}' :: rest => '&' :: '}' :: unescape rest
  | ['&', '&'] => ['&']
  | c :: rest => c :: unescape rest
  | [] => []

/-- The unit at an opening brace, whose body has `span` characters if the brace is closed. -/
def reference (span : Option Nat) (rest : List Mark) : Scan :=
  match span with
  | none => single '{'
  | some n => ⟨n + 1, .token (.reference (unescape (Mark.chars (rest.take n))).trim)⟩

/-- The unit at an escape character: an escaped sign, a short code of either case, or the escape
character alone. -/
def escaped : List Mark → Scan
  | [] => single Mark.escape
  | next :: _ =>
    let sign := next.char.toLower
    if Mark.isBrace sign || sign == '#' || sign == Mark.escape then ⟨1, .char sign⟩
    else if isShortCode sign then ⟨1, .token (.code sign)⟩
    else single Mark.escape

/-- The digits each written twice. -/
def doubled (digits : Text) : Text :=
  digits.flatMap fun c => [c, c]

/-- The unit at a color sign: six digits are a color, three to five digits give a color by the
first three of them, each written twice, and fewer digits give none. -/
def color (rest : List Mark) : Scan :=
  let digits := ((Mark.chars (rest.take 6)).takeWhile Text.isHexDigit).map Char.toLower
  if digits.length < 3 then single '#'
  else if digits.length = 6 then ⟨6, .token (.hex digits)⟩
  else ⟨3, .token (.hex (doubled (digits.take 3)))⟩

/-- The unit that starts with the mark `m` and is followed by the marks `rest`. -/
def unit (m : Mark) (rest : List Mark) : Scan :=
  if m.char = '{' then reference m.span rest
  else if m.char = Mark.escape then escaped rest
  else if m.char = '#' then color rest
  else single m.char

end Scan
end StyledMarkup
