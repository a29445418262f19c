import StyledMarkup.Style.Segment

/-!
# Plain text and text with section signs

Both leave out clicks, hovers and insertions. In text with section signs a change of style is
written as the codes of what has changed, with a reset before them where something has to be
switched off; segments without text are passed over.
-/

namespace StyledMarkup
namespace Output

/-- The text of the segments alone. -/
def plain (segments : List Segment) : Text :=
  segments.flatMap Segment.text

/-- Whether only a reset leads from one style to the next: a color or a format has to go. -/
def needsReset (current next : Style) : Bool :=
  next.color.isNone || current.formats.any fun format => !next.has format

/-- The codes that lead from one style to the next. -/
def styleChange (current next : Style) : Text :=
  let reset :=
    if needsReset current next && !current.isPlain then ShortCode.reset.toSection else []
  let color := (next.color.map Color.toSection).getD []
  reset ++ color ++ next.formats.flatMap fun format => (ShortCode.format format).toSection

/-- The segments with section signs, after text in the style `current`. -/
def sectionsFrom (current : Style) : List Segment → Text
  | [] => []
  | segment :: rest =>
    if segment.text.isEmpty then sectionsFrom current rest
    else
      let change := if segment.style = current then [] else styleChange current segment.style
      change ++ segment.text ++ sectionsFrom segment.style rest

/-- The segments with section signs. -/
def sections (segments : List Segment) : Text :=
  sectionsFrom .plain segments

end Output
end StyledMarkup
