import StyledMarkup.Lookup.Basic
import StyledMarkup.Markup.Tokenizer

/-!
# Styled templates

A styled template is rendered to segments, node by node. Codes and colors change the style that
runs, and every text, link and reference gives one segment in this style. A reference that is not
bound leaves its placeholder in the style that runs, whatever the lookup did to the segment.

Without references the segments are made when the template is compiled, with nothing bound.
-/

namespace StyledMarkup

variable {σ : Type}

/-- A compiled styled template without its source. -/
inductive StyledBody where
  /-- Segments that need no lookup. -/
  | fixed (segments : List Segment)
  /-- Nodes with at least one reference among them. -/
  | dynamic (nodes : List Node)
deriving DecidableEq, Inhabited

namespace StyledBody

/-- The nodes of the tokens in a styled template. -/
def nodesOf (tokens : List Token) : List Node :=
  (tokens.map Token.node).foldr Node.push []

/-- The style that runs, and the segments so far. -/
structure Progress where
  style : Style := .plain
  segments : List Segment := []

/-- Puts a segment behind those so far. -/
def Progress.push (progress : Progress) (segment : Segment) : Progress :=
  { progress with segments := progress.segments ++ [segment] }

/-- Renders a node behind those so far. -/
def renderNode (vars : VariableLookup σ) (functions : FunctionLookup σ) (progress : Progress) :
    Node → Render σ Progress
  | .text content => return progress.push { text := content, style := progress.style }
  | .link address =>
    return progress.push
      { text := address, style := progress.style, click := some ⟨.openUrl, address⟩ }
  | .code code => return { progress with style := progress.style.apply code }
  | .color color =>
    return { progress with style := { progress.style with color := some (.rgb color) } }
  | .reference name => do
    let answer ← vars name { text := [], style := progress.style }
    return progress.push (if answer.bound then answer.result
      else { text := Node.namePlaceholder name, style := progress.style })
  | .call call => do
    let answer ← functions call.name call.args { text := [], style := progress.style }
    return progress.push (if answer.bound then answer.result
      else { text := Node.callPlaceholder call, style := progress.style })

/-- Renders nodes. -/
def renderNodes (vars : VariableLookup σ) (functions : FunctionLookup σ) (nodes : List Node) :
    Render σ (List Segment) := do
  return (← nodes.foldlM (renderNode vars functions) {}).segments

/-- Compiles tokens. -/
def ofTokens (tokens : List Token) : StyledBody :=
  let nodes := nodesOf tokens
  if nodes.any Node.isBinding then dynamic nodes
  else fixed (renderNodes .none .none nodes (Context.fresh ())).1

/-- Whether the template needs no lookup. -/
def isFixed : StyledBody → Bool
  | fixed _ => true
  | dynamic _ => false

/-- What is recorded when the tokens are compiled. -/
def events (tokens : List Token) : List Event :=
  (tokens.filterMap Token.fallback?).map Event.fellBack ++
    [.compiledStyled (ofTokens tokens).isFixed]

/-- Renders the template. -/
def render (body : StyledBody) (vars : VariableLookup σ) (functions : FunctionLookup σ) :
    Render σ (List Segment) :=
  match body with
  | fixed segments => pure segments
  | dynamic nodes => renderNodes vars functions nodes

end StyledBody

/-- A styled template with its source. -/
structure StyledTemplate where
  source : Text
  body : StyledBody
deriving DecidableEq, Inhabited

namespace StyledTemplate

/-- Compiles a source. -/
def compile (source : Text) : StyledTemplate :=
  ⟨source, .ofTokens (tokenize source)⟩

/-- Compiles a source and records how. -/
def compileNoted (source : Text) : Render σ StyledTemplate := do
  Render.note (StyledBody.events (tokenize source))
  return compile source

/-- Renders the template. -/
def render (template : StyledTemplate) (vars : VariableLookup σ)
    (functions : FunctionLookup σ) : Render σ (List Segment) :=
  template.body.render vars functions

end StyledTemplate
end StyledMarkup
