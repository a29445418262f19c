/-!
# Texts and blanks

A text is its characters in order, one for each code point, and everything in this library counts
and cuts by character. A blank is a character with the Unicode property White_Space: the tab to
the carriage return, the space, and twelve more above ASCII. The control characters U+001C to
U+001F, the zero width space and the byte-order mark are not blanks.
-/

namespace StyledMarkup

/-- A text is its characters in order. -/
abbrev Text := List Char

/-- Whether the character lies in one of the ranges of code points, both ends included. Unicode
properties are kept as such ranges, which ascend. -/
def Unicode.inRanges (ranges : List (Nat × Nat)) (c : Char) : Bool :=
  ranges.any fun (first, last) => first ≤ c.toNat && c.toNat ≤ last

namespace Text

/-- The characters with the Unicode property White_Space. -/
def isBlank (c : Char) : Bool :=
  let n := c.toNat
  (0x09 ≤ n && n ≤ 0x0d) || n == 0x20 || n == 0x85 || n == 0xa0 || n == 0x1680 ||
    (0x2000 ≤ n && n ≤ 0x200a) || n == 0x2028 || n == 0x2029 || n == 0x202f || n == 0x205f ||
    n == 0x3000

/-- The text without its leading blanks. -/
def trimStart (t : Text) : Text :=
  t.dropWhile isBlank

/-- The text without its trailing blanks. -/
def trimEnd (t : Text) : Text :=
  (t.reverse.dropWhile isBlank).reverse

/-- The text without the blanks at either end. -/
def trim (t : Text) : Text :=
  t.trimStart.trimEnd

/-- The texts in order, with `separator` between each two. -/
def join (separator : Text) : List Text → Text
  | [] => []
  | [t] => t
  | t :: next :: rest => t ++ separator ++ join separator (next :: rest)

/-- The stretches of the text between the characters that are `separator`: always one more than
there are separators. -/
def splitAt (separator : Char) : Text → List Text
  | [] => [[]]
  | c :: rest =>
    if c = separator then [] :: splitAt separator rest
    else match splitAt separator rest with
      | [] => [[c]]
      | first :: others => (c :: first) :: others

/-- The text cut at the first character that is `separator`, which belongs to neither part;
`none` if there is no such character. -/
def cutAt? (separator : Char) : Text → Option (Text × Text)
  | [] => none
  | c :: rest =>
    if c = separator then some ([], rest)
    else (cutAt? separator rest).map fun (before, after) => (c :: before, after)

/-- What follows `start` in the text, or `none` if the text does not start so. -/
def after? (start : Text) (t : Text) : Option Text :=
  if start.isPrefixOf t then some (t.drop start.length) else none

end Text

end StyledMarkup
