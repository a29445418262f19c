import StyledMarkup.Text.Basic

/-!
# Reading with a place in mind

The layout of a YAML text depends on columns, so it is read through a cursor that knows where it
stands. Line ends are made equal beforehand; the line and paragraph separators end lines too and
stay what they are.
-/

namespace StyledMarkup
namespace Yaml

/-- Whether the character may stand in a text at all. -/
def isAllowed (c : Char) : Bool :=
  let n := c.toNat
  n == 0x09 || n == 0x0a || n == 0x0d || (0x20 ≤ n && n ≤ 0x7e) || n == 0x85 ||
    (0xa0 ≤ n && n ≤ 0xd7ff) || (0xe000 ≤ n && n ≤ 0xfffd) || 0x10000 ≤ n

/-- The text with one line feed for every way to end a line. -/
def unifyLines : Text → Text
  | '\r' :: '\n' :: rest => '\n' :: unifyLines rest
  | c :: rest => (if c = '\r' ∨ c.toNat = 0x85 then '\n' else c) :: unifyLines rest
  | [] => []

/-- Whether the character is a space or a tab. -/
def isSpace (c : Char) : Bool :=
  c == ' ' || c == '\t'

/-- Whether the character ends a line. -/
def isBreak (c : Char) : Bool :=
  c == '\n' || c.toNat == 0x2028 || c.toNat == 0x2029

/-- Whether nothing, a space, a tab or a line end comes first. -/
def atGap (t : Text) : Bool :=
  match t with
  | [] => true
  | c :: _ => isSpace c || isBreak c

/-- Whether nothing or a line end comes first. -/
def atLineEnd (t : Text) : Bool :=
  match t with
  | [] => true
  | c :: _ => isBreak c

/-- Whether the character may stand in the name of an anchor. -/
def isNameChar (c : Char) : Bool :=
  c.isAlphanum || c == '_' || c == '-'

/-- What is still to be read, and the place where it starts. -/
structure Cursor where
  rest : Text
  index : Nat
  line : Nat
  column : Nat

namespace Cursor

/-- The cursor at the start of a text; a byte-order mark there is passed over. -/
def start (t : Text) : Cursor :=
  match unifyLines t with
  | c :: rest => if c.toNat = 0xfeff then ⟨rest, 1, 0, 1⟩ else ⟨c :: rest, 0, 0, 0⟩
  | [] => ⟨[], 0, 0, 0⟩

/-- The cursor after the next character. -/
def next (cursor : Cursor) : Cursor :=
  match cursor.rest with
  | [] => cursor
  | c :: rest =>
    if isBreak c then ⟨rest, cursor.index + 1, cursor.line + 1, 0⟩
    else ⟨rest, cursor.index + 1, cursor.line, cursor.column + 1⟩

/-- The cursor after some more characters. -/
def advance (cursor : Cursor) : Nat → Cursor
  | 0 => cursor
  | n + 1 => cursor.next.advance n

/-- The next character but `n`. -/
def peek? (cursor : Cursor) (n : Nat) : Option Char :=
  cursor.rest[n]?

/-- Whether a line starts here with three signs that stand alone. -/
def atMarker (cursor : Cursor) (marker : String) : Bool :=
  cursor.column == 0 && marker.toList.isPrefixOf cursor.rest && atGap (cursor.rest.drop 3)

/-- Whether a document starts or ends here. -/
def atDocumentMarker (cursor : Cursor) : Bool :=
  cursor.atMarker "---" || cursor.atMarker "..."

/-- Passes over the characters that satisfy a condition. -/
def skipWhile (cursor : Cursor) (p : Char → Bool) : Cursor :=
  cursor.advance (cursor.rest.takeWhile p).length

theorem length_rest_next {cursor : Cursor} {c : Char} {rest : Text} (h : cursor.rest = c :: rest) :
    cursor.next.rest.length < cursor.rest.length := by
  unfold next
  split
  · rename_i hnil
    simp [h] at hnil
  · rename_i hcons
    split <;> simp [hcons]

end Cursor
end Yaml
end StyledMarkup
