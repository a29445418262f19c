import StyledMarkup.Text.Basic

/-!
# Matching braces

A brace counts as structural unless exactly one escape character stands right before it. Every
structural opening brace is closed by the first later structural closing brace that is not taken
by an opening brace between the two; a closing brace that closes nothing is plain text.

The matching is read off from the right: what follows a character leaves some closing braces
open, nearest first, and an opening brace takes the nearest of them.
-/

namespace StyledMarkup

/-- A character of a source. An opening brace that is closed carries the number of characters
that stand between it and its closing brace. -/
structure Mark where
  char : Char
  span : Option Nat
deriving DecidableEq, Inhabited

namespace Mark

/-- The character that takes the meaning from a brace and starts the short codes. -/
def escape : Char := '&'

/-- Whether the character is a brace of either kind. -/
def isBrace (c : Char) : Bool :=
  c == '{' || c == '}'

/-- Whether a character that follows a run of `escapes` escape characters is a structural
brace. -/
def isStructural (escapes : Nat) (c : Char) : Bool :=
  isBrace c && escapes != 1

/-- The length of the run of escape characters that ends with `c`, if the run before `c` has
`escapes` of them. -/
def runAfter (escapes : Nat) (c : Char) : Nat :=
  if c = escape then escapes + 1 else 0

/-- The marks of a text that follows a run of `escapes` escape characters, and the places of its
closing braces that no brace of the text takes, nearest first. -/
def matched (escapes : Nat) : Text → List Mark × List Nat
  | [] => ([], [])
  | c :: rest =>
    let (marks, closers) := matched (runAfter escapes c) rest
    if isStructural escapes c then
      if c = '{' then
        match closers with
        | [] => (⟨c, none⟩ :: marks, [])
        | nearest :: outer => (⟨c, some nearest⟩ :: marks, outer.map (· + 1))
      else (⟨c, none⟩ :: marks, 0 :: closers.map (· + 1))
    else (⟨c, none⟩ :: marks, closers.map (· + 1))

/-- The marks of a whole source. -/
def ofText (source : Text) : List Mark :=
  (matched 0 source).1

/-- The characters of the marks. -/
def chars (marks : List Mark) : Text :=
  marks.map Mark.char

end Mark
end StyledMarkup
