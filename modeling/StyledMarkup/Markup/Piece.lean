import StyledMarkup.Markup.Mark

/-!
# Cutting a source around its links

Links may hold escape characters and color signs, so a source is cut into links and the markup
between them before the markup is read. A link starts with its scheme and goes to the next blank.
A scheme inside a closed pair of braces starts no link, and an escaped brace or an escaped escape
character opens nothing.
-/

namespace StyledMarkup

/-- A stretch of a source with the number of its characters. -/
inductive Piece where
  | markup (length : Nat)
  | link (length : Nat)
deriving DecidableEq, Inhabited

namespace Piece

/-- The number of characters of the piece. -/
def length : Piece → Nat
  | markup n => n
  | link n => n

/-- How links start. -/
def schemes : List Text :=
  ["http://".toList, "https://".toList]

/-- Whether a link starts at the head of the marks. -/
def startsLink (marks : List Mark) : Bool :=
  schemes.any fun scheme => Mark.chars (marks.take scheme.length) == scheme

/-- The markup that has been passed, unless it is empty. -/
def markup? : Nat → List Piece
  | 0 => []
  | n + 1 => [markup (n + 1)]

/-- Whether the mark after an escape character makes a pair with it that hides a brace or an
escape character. -/
def hidesNext : List Mark → Bool
  | [] => false
  | m :: _ => Mark.isBrace m.char || m.char == Mark.escape

/-- The pieces of the marks, when `passed` characters of markup stand before them. -/
def cutAfter (passed : Nat) : List Mark → List Piece
  | [] => markup? passed
  | m :: rest =>
    if m.char = Mark.escape ∧ hidesNext rest then cutAfter (passed + 2) (rest.drop 1)
    else if m.char = '{' then
      match m.span with
      | some n => cutAfter (passed + n + 2) (rest.drop (n + 1))
      | none => cutAfter (passed + 1) rest
    else if startsLink (m :: rest) then
      let tail := (rest.takeWhile fun r => !Text.isBlank r.char).length
      markup? passed ++ link (tail + 1) :: cutAfter 0 (rest.drop tail)
    else cutAfter (passed + 1) rest
termination_by marks => marks.length
decreasing_by all_goals simp only [List.length_drop, List.length_cons]; omega

/-- The pieces of a source, in order. -/
def cut (marks : List Mark) : List Piece :=
  cutAfter 0 marks

end Piece
end StyledMarkup
