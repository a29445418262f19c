import StyledMarkup.Markup.Piece
import StyledMarkup.Markup.Scan

/-!
# Reading a source into tokens

A source never fails to read: what starts nothing is plain text. The markup between the links is
scanned unit by unit, a link is one token, and each longest run of plain characters becomes one
text, also across a failed sign. `tokenize` does this for the whole source at once; a `Tokenizer`
hands out the same tokens one at a time and needs only the text that it is in the middle of and
one token that has to wait for that text.
-/

namespace StyledMarkup

/-- The lexemes of the first `left` marks, which are scanned with all the marks in view. -/
def lexemesOfMarkup (left : Nat) (marks : List Mark) : List Lexeme :=
  match left, marks with
  | 0, _ => []
  | _, [] => []
  | left + 1, m :: rest =>
    let scan := Scan.unit m rest
    scan.lexeme :: lexemesOfMarkup (left - scan.extra) (rest.drop scan.extra)
termination_by left
decreasing_by omega

/-- The lexemes of the pieces in order, the first of which starts with the marks. -/
def lexemes : List Piece → List Mark → List Lexeme
  | [], _ => []
  | .markup n :: pieces, marks => lexemesOfMarkup n marks ++ lexemes pieces (marks.drop n)
  | .link n :: pieces, marks =>
    .token (.link (Mark.chars (marks.take n))) :: lexemes pieces (marks.drop n)

/-- Puts a lexeme before tokens; a character joins the text that they start with. -/
def Lexeme.push (lexeme : Lexeme) (tokens : List Token) : List Token :=
  match lexeme, tokens with
  | .char c, .text content :: rest => .text (c :: content) :: rest
  | .char c, rest => .text [c] :: rest
  | .token t, rest => t :: rest

/-- The tokens of a source. -/
def tokenize (source : Text) : List Token :=
  let marks := Mark.ofText source
  (lexemes (Piece.cut marks) marks).foldr Lexeme.push []

/-- A reader that hands out tokens one at a time. -/
structure Tokenizer where
  /-- The marks that are not yet read. -/
  rest : List Mark
  /-- How many of them belong to the markup that is being scanned. -/
  left : Nat
  /-- The pieces after that markup. -/
  pieces : List Piece
  /-- The text that has been read and not handed out, last character first. -/
  pending : Text
  /-- The token that the pending text has just been handed out before. -/
  queued : Option Token

namespace Tokenizer

/-- The reader at the start of a source. -/
def ofText (source : Text) : Tokenizer :=
  let marks := Mark.ofText source
  { rest := marks, left := 0, pieces := Piece.cut marks, pending := [], queued := none }

/-- Hands out a token, or the pending text with the token queued behind it. -/
def emit (r : Tokenizer) (token : Token) : Option Token × Tokenizer :=
  match r.pending with
  | [] => (some token, r)
  | pending => (some (.text pending.reverse), { r with pending := [], queued := some token })

/-- Reads on to the next token, with nothing queued. -/
def advance (r : Tokenizer) : Option Token × Tokenizer :=
  match hl : r.left, r.rest with
  | left + 1, m :: rest =>
    let scan := Scan.unit m rest
    let r' := { r with rest := rest.drop scan.extra, left := left - scan.extra }
    match scan.lexeme with
    | .char c => advance { r' with pending := c :: r'.pending }
    | .token t => r'.emit t
  | _, rest =>
    match _hp : r.pieces with
    | .markup n :: pieces => advance { r with left := n, pieces }
    | .link n :: pieces =>
      { r with rest := rest.drop n, left := 0, pieces }.emit (.link (Mark.chars (rest.take n)))
    | [] =>
      match r.pending with
      | [] => (none, r)
      | pending => (some (.text pending.reverse), { r with left := 0, pending := [] })
termination_by (r.pieces.length, r.left)
decreasing_by
  · simp only [hl]
    exact Prod.Lex.right _ (by omega)
  · simp only [_hp, List.length_cons]
    exact Prod.Lex.left _ _ (by omega)

/-- The next token, and the reader after it; `none` at the end and ever after. -/
def next (r : Tokenizer) : Option Token × Tokenizer :=
  match r.queued with
  | some token => (some token, { r with queued := none })
  | none => r.advance

end Tokenizer
end StyledMarkup
