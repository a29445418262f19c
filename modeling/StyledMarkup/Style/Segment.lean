import StyledMarkup.Style.Basic

/-!
# Segments

The result of styled rendering is a list of segments: a text in one style, with what a click on it
does, the text that shows when the pointer rests on it, and the text that it inserts.
-/

namespace StyledMarkup

/-- What a click can do with its value. -/
inductive ClickKind where
  | openUrl | runCommand | suggestCommand | copyToClipboard
deriving DecidableEq, Inhabited

/-- The name of the action in a component document. -/
def ClickKind.name : ClickKind → Text
  | openUrl => "open_url".toList
  | runCommand => "run_command".toList
  | suggestCommand => "suggest_command".toList
  | copyToClipboard => "copy_to_clipboard".toList

/-- The action of a name. -/
def ClickKind.ofName? (name : Text) : Option ClickKind :=
  [openUrl, runCommand, suggestCommand, copyToClipboard].find? fun kind => kind.name == name

/-- An action and the address, command or text that it works on. -/
structure ClickAction where
  kind : ClickKind
  value : Text
deriving DecidableEq, Inhabited

/-- A text in one style, with its interactions. -/
structure Segment where
  text : Text
  style : Style := .plain
  click : Option ClickAction := none
  hover : Option Text := none
  insertion : Option Text := none
deriving DecidableEq, Inhabited

/-- Whether the segment has any interaction. -/
def Segment.isInteractive (segment : Segment) : Bool :=
  segment.click.isSome || segment.hover.isSome || segment.insertion.isSome

/-- The segment with more text at its end. -/
def Segment.append (segment : Segment) (more : Text) : Segment :=
  { segment with text := segment.text ++ more }

end StyledMarkup
