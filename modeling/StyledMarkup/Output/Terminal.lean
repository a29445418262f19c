import StyledMarkup.Style.Segment

/-!
# Terminal text

A segment with a style is written as the sequences that switch its color and formats on, its text,
and the sequence that resets the terminal. Obfuscated text blinks. A plain segment is its text.
-/

namespace StyledMarkup

/-- When the sequences are written. -/
inductive ColorChoice where
  | auto | always | never
deriving DecidableEq, Inhabited

/-- Whether the sequences are written; `detected` is what is known of the terminal. -/
def ColorChoice.isEnabled (detected : Bool) : ColorChoice → Bool
  | auto => detected
  | always => true
  | never => false

namespace Output

/-- The sequence with the given parameters. -/
def escapeSequence (parameters : Text) : Text :=
  '\x1b' :: '[' :: parameters ++ ['m']

/-- The formats with the parameters that switch them on, in the order in which they are
written. -/
def formatParameters : List (Format × Text) :=
  [(.bold, ['1']), (.italic, ['3']), (.underlined, ['4']), (.obfuscated, ['5']),
   (.strikethrough, ['9'])]

/-- The sequences that switch a style on. -/
def styleSequences (style : Style) : Text :=
  let color := match style.color with
    | none => []
    | some color => escapeSequence ("38;5;".toList ++ Text.ofNat color.paletteIndex.toNat)
  color ++ (formatParameters.filter fun (format, _) => style.has format).flatMap
    fun (_, parameter) => escapeSequence parameter

/-- A text in a style. -/
def styledText (style : Style) (t : Text) : Text :=
  if style.isPlain then t else styleSequences style ++ t ++ escapeSequence ['0']

/-- The segments for a terminal. -/
def terminal (isEnabled : Bool) (segments : List Segment) : Text :=
  (segments.filter fun segment => !segment.text.isEmpty).flatMap fun segment =>
    if isEnabled then styledText segment.style segment.text else segment.text

end Output
end StyledMarkup
