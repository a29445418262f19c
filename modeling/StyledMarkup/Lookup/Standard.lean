import StyledMarkup.Style.Segment
import StyledMarkup.Text.Case
import StyledMarkup.Text.Digit

/-!
# The standard functions

Four functions give text: `upper` and `lower` change the case of their arguments put together,
`repeat` writes a text a number of times, and `join` puts a text between others. Five more make
segments that react to a click or to the pointer; they take the text to show first, and without a
second argument that text is their value too.
-/

namespace StyledMarkup
namespace Standard

/-- The greatest number of times that a text is repeated. -/
def repeatLimit : Nat := 256

/-- The first argument as often as the second one tells, which counts as zero if it is no count. -/
def repeated (args : List Text) : Text :=
  let count := (args[1]?.bind fun n => Text.readCount? n.trim).getD 0
  (List.replicate (min count repeatLimit) (args.head?.getD [])).flatten

/-- The arguments after the first, with the first between each two. -/
def joined : List Text → Text
  | [] => []
  | separator :: items => Text.join separator items

/-- The functions that give text, by name. -/
def textFunctions : List (Text × (List Text → Text)) :=
  [("upper".toList, fun args => Text.upper args.flatten),
   ("lower".toList, fun args => Text.lower args.flatten),
   ("repeat".toList, repeated),
   ("join".toList, joined)]

/-- The text to show. -/
def shownText (args : List Text) : Text :=
  args.head?.getD []

/-- The value that goes with the text to show. -/
def attachedValue (args : List Text) : Text :=
  args[1]?.getD (shownText args)

/-- Shows a text that does something with the value on a click. -/
def clickable (kind : ClickKind) (args : List Text) (segment : Segment) : Segment :=
  { segment.append (shownText args) with click := some ⟨kind, attachedValue args⟩ }

/-- Shows a text that shows the value when the pointer rests on it. -/
def hovering (args : List Text) (segment : Segment) : Segment :=
  { segment.append (shownText args) with hover := some (attachedValue args) }

/-- The functions that make segments, by name. -/
def segmentFunctions : List (Text × (List Text → Segment → Segment)) :=
  [("link".toList, clickable .openUrl),
   ("command".toList, clickable .runCommand),
   ("suggest".toList, clickable .suggestCommand),
   ("copy".toList, clickable .copyToClipboard),
   ("hover".toList, hovering)]

end Standard
end StyledMarkup
