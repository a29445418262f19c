import StyledMarkup.Text.Basic
import StyledMarkup.Text.Unicode.CaseMap
import StyledMarkup.Text.Unicode.Cased

/-!
# Changing the case of a text

Every character is mapped on its own, with one exception: the capital sigma becomes the final
sigma at the end of a word, that is, with a letter somewhere before it and none after it, where
characters such as apostrophes and accents are looked through on both sides.
-/

namespace StyledMarkup
namespace Text

/-- The text in uppercase. -/
def upper (t : Text) : Text :=
  t.flatMap Unicode.upper

/-- Whether the first character that is not looked through is a letter. -/
def startsWithLetter (t : Text) : Bool :=
  match t.dropWhile Unicode.isCaseIgnorable with
  | [] => false
  | c :: _ => Unicode.isCased c

/-- The lowercase of the text that follows the characters of `before`, which are given last
first. -/
def lowerAfter (before : Text) : Text → Text
  | [] => []
  | c :: rest =>
    let low :=
      if c = 'Σ' then
        if startsWithLetter before && !startsWithLetter rest then ['ς'] else ['σ']
      else Unicode.lower c
    low ++ lowerAfter (c :: before) rest

/-- The text in lowercase. -/
def lower (t : Text) : Text :=
  lowerAfter [] t

end Text
end StyledMarkup
