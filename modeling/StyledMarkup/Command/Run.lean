import StyledMarkup.Command.Source
import StyledMarkup.Lookup.Styled
import StyledMarkup.Lookup.Variables
import StyledMarkup.Output.Component
import StyledMarkup.Output.Section
import StyledMarkup.Template.Flat
import StyledMarkup.Template.Styled

/-!
# Running a render

A run loads the template, then the values, renders, and writes the result with one line end. If
anything fails before that, nothing is written.
-/

namespace StyledMarkup
namespace Command

/-- The segments of a source with values and the standard functions. -/
def renderSegments (source : Text) (values : Table Text) : List Segment :=
  let vars : StyledVariables Unit := StyledVariables.empty.setAll values.entries
  let template := StyledTemplate.compile source
  (template.render vars.lookup StyledFunctions.standard.lookup (Context.fresh ())).1

/-- The flat text of a source with values and the standard functions. -/
def renderText (source : Text) (values : Table Text) : Text :=
  let vars : Variables Unit := Variables.standard.setAll values.entries
  ((Template.compile source).render vars.bindings (Context.fresh ())).1

/-- Renders a source in a format. -/
def render (source : Text) (values : Table Text) (output : OutputFormat) (withColors : Bool) :
    Text :=
  match output with
  | .text => renderText source values
  | .plain => Output.plain (renderSegments source values)
  | .terminal => Output.terminal withColors (renderSegments source values)
  | .sections => Output.sections (renderSegments source values)
  | .components => (Output.document (renderSegments source values)).pretty
  | .tokens => Text.join ['\n'] ((tokenize source).map Token.describe)

/-- What has been written, and why the run failed, if it did. -/
structure Outcome where
  written : Text
  failure : Option Failure
deriving DecidableEq, Inhabited

/-- The rendered template. -/
def prepare (readers : Readers) (surroundings : Surroundings) (arguments : RenderArguments) :
    Except Failure Text := do
  let source ← loadTemplate surroundings arguments
  let values ← loadValues readers surroundings arguments
  return render source values arguments.output
    (arguments.color.isEnabled surroundings.hasColors)

/-- Renders and writes. -/
def run (readers : Readers) (surroundings : Surroundings) (arguments : RenderArguments) : Outcome :=
  match prepare readers surroundings arguments, surroundings.outputFailure with
  | .error failure, _ => ⟨[], some failure⟩
  | .ok _, some cause => ⟨[], some (.output cause)⟩
  | .ok rendered, none => ⟨rendered ++ ['\n'], none⟩

end Command
end StyledMarkup
