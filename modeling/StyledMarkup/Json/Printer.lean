import StyledMarkup.Json.Value
import StyledMarkup.Decimal.Shortest
import StyledMarkup.Text.Digit

/-!
# Writing documents

A document is written compactly, without any blank, or spread out with one item on a line and two
more blanks at each depth. Fields are written in the order in which they stand. Only quotes,
backslashes and the control characters below the space are escaped. Doubles are written by their
shortest decimals.
-/

namespace StyledMarkup
namespace Json

/-- How a character stands in a quoted text. -/
def escapedChar (c : Char) : Text :=
  if c = '"' ∨ c = '\\' then ['\\', c]
  else if c.toNat = 0x08 then ['\\', 'b']
  else if c.toNat = 0x0c then ['\\', 'f']
  else if c = '\n' then ['\\', 'n']
  else if c = '\r' then ['\\', 'r']
  else if c = '\t' then ['\\', 't']
  else if c.toNat < 0x20 then
    "\\u00".toList ++ [Text.hexDigit (c.toNat / 16), Text.hexDigit (c.toNat % 16)]
  else [c]

/-- A text in quotes. -/
def quote (t : Text) : Text :=
  '"' :: t.flatMap escapedChar ++ ['"']

/-- How doubles are laid out. -/
structure FloatLayout where
  /-- The least exponent of the first digit that is written without an exponent. -/
  leastPlain : Int
  /-- The first exponent of the first digit that is written with an exponent again. -/
  firstScientific : Int

/-- Doubles from `0.00001` up to below `10 ^ 16` are written plainly. -/
def floatLayout : FloatLayout := ⟨-5, 16⟩

/-- Digits with the decimal point so that the first one has the given exponent, and with at least
one digit on both sides of the point. -/
def plainText (digits : Text) (leading : Int) : Text :=
  match leading with
  | .negSucc k => '0' :: '.' :: List.replicate k '0' ++ digits
  | .ofNat k =>
    if digits.length ≤ k + 1 then digits ++ List.replicate (k + 1 - digits.length) '0' ++ ['.', '0']
    else digits.take (k + 1) ++ '.' :: digits.drop (k + 1)

/-- Digits with the point after the first of them, and the exponent with its sign. -/
def scientificText (digits : Text) (leading : Int) : Text :=
  let fraction := match digits.drop 1 with
    | [] => []
    | more => '.' :: more
  let sign := if leading < 0 then '-' else '+'
  digits.take 1 ++ fraction ++ 'e' :: sign :: Text.ofNat leading.natAbs

/-- A double as its shortest decimal. -/
def floatText (layout : FloatLayout) (d : Double) : Text :=
  let sign : Text := if d.negative then ['-'] else []
  let decimal := Decimal.shortest d
  let digits := Text.ofNat decimal.digits
  let leading := decimal.exponent + digits.length - 1
  if layout.leastPlain ≤ leading ∧ leading < layout.firstScientific then
    sign ++ plainText digits leading
  else sign ++ scientificText digits leading

/-- A truth value. -/
def boolText (b : Bool) : Text :=
  if b then "true".toList else "false".toList

mutual

/-- The document without any blank. -/
def compact : Json → Text
  | null => "null".toList
  | bool b => boolText b
  | int n => Text.ofInt n
  | float d => floatText floatLayout d
  | text t => quote t
  | list items => '[' :: compactItems items ++ [']']
  | object fields => '{' :: compactFields fields ++ ['}']

/-- The items with commas between them. -/
def compactItems : List Json → Text
  | [] => []
  | [item] => compact item
  | item :: next :: rest => compact item ++ ',' :: compactItems (next :: rest)

/-- The fields with commas between them. -/
def compactFields : List (Text × Json) → Text
  | [] => []
  | [(name, value)] => quote name ++ ':' :: compact value
  | (name, value) :: next :: rest =>
    quote name ++ ':' :: compact value ++ ',' :: compactFields (next :: rest)

end

/-- A line end and the blanks of a depth. -/
def newline (depth : Nat) : Text :=
  '\n' :: List.replicate (2 * depth) ' '

mutual

/-- The document spread over lines, from a given depth on. -/
def spread (depth : Nat) : Json → Text
  | list [] => ['[', ']']
  | list (item :: rest) =>
    '[' :: spreadItems (depth + 1) (item :: rest) ++ newline depth ++ [']']
  | object [] => ['{', '}']
  | object (entry :: rest) =>
    '{' :: spreadFields (depth + 1) (entry :: rest) ++ newline depth ++ ['}']
  | null => compact null
  | bool b => compact (bool b)
  | int n => compact (int n)
  | float d => compact (float d)
  | text t => compact (text t)

/-- The items, each on a line of its own. -/
def spreadItems (depth : Nat) : List Json → Text
  | [] => []
  | [item] => newline depth ++ spread depth item
  | item :: next :: rest =>
    newline depth ++ spread depth item ++ ',' :: spreadItems depth (next :: rest)

/-- The fields, each on a line of its own. -/
def spreadFields (depth : Nat) : List (Text × Json) → Text
  | [] => []
  | [(name, value)] => newline depth ++ quote name ++ ':' :: ' ' :: spread depth value
  | (name, value) :: next :: rest =>
    newline depth ++ quote name ++ ':' :: ' ' :: spread depth value ++
      ',' :: spreadFields depth (next :: rest)

end

/-- The document spread over lines. -/
def pretty (document : Json) : Text :=
  spread 0 document

mutual

/-- The document with the fields of all its objects in ascending order. -/
def sorted : Json → Json
  | list items => list (sortedItems items)
  | object fields => ofFields (sortedFields fields)
  | null => null
  | bool b => bool b
  | int n => int n
  | float d => float d
  | text t => text t

/-- The items with their fields in ascending order. -/
def sortedItems : List Json → List Json
  | [] => []
  | item :: rest => sorted item :: sortedItems rest

/-- The fields with the fields inside them in ascending order. -/
def sortedFields : List (Text × Json) → List (Text × Json)
  | [] => []
  | (name, value) :: rest => (name, sorted value) :: sortedFields rest

end

end Json
end StyledMarkup
