import StyledMarkup.Json.Printer
import StyledMarkup.Style.Segment

/-!
# Chat components

The segments as a document for chat clients: an empty root component with one component for each
segment. A component has a field only for what the segment has; the fields of `document` stand in
the order of the format, and those of `sortedDocument` ascend by name.
-/

namespace StyledMarkup
namespace Output

/-- A field that stands only if there is a value for it. -/
def optionalField (name : String) (value : Option Json) : List (Text × Json) :=
  match value with
  | some document => [(name.toList, document)]
  | none => []

/-- A field that stands only if its flag is on. -/
def flagField (name : String) (flag : Bool) : List (Text × Json) :=
  if flag then [(name.toList, .bool true)] else []

/-- The component of a click. -/
def clickComponent (click : ClickAction) : Json :=
  .object [("action".toList, .text click.kind.name), ("value".toList, .text click.value)]

/-- The component of a hover. -/
def hoverComponent (shown : Text) : Json :=
  .object [("action".toList, .text "show_text".toList), ("contents".toList, .text shown)]

/-- The component of a segment. -/
def component (segment : Segment) : Json :=
  let style := segment.style
  .object <|
    ("text".toList, .text segment.text) ::
    optionalField "color" (style.color.map fun color => .text color.label) ++
    flagField "bold" style.bold ++
    flagField "italic" style.italic ++
    flagField "underlined" style.underlined ++
    flagField "strikethrough" style.strikethrough ++
    flagField "obfuscated" style.obfuscated ++
    optionalField "clickEvent" (segment.click.map clickComponent) ++
    optionalField "hoverEvent" (segment.hover.map hoverComponent) ++
    optionalField "insertion" (segment.insertion.map Json.text)

/-- The document of the segments. -/
def document (segments : List Segment) : Json :=
  .object <|
    ("text".toList, .text []) ::
    match segments with
    | [] => []
    | segments => [("extra".toList, .list (segments.map component))]

/-- The document of the segments with ascending fields. -/
def sortedDocument (segments : List Segment) : Json :=
  (document segments).sorted

end Output
end StyledMarkup
