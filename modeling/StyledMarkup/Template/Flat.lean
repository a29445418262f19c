import StyledMarkup.Lookup.Basic
import StyledMarkup.Markup.Tokenizer

/-!
# Flat templates

A flat template is compiled once from a source and rendered to a text any number of times. Colors,
codes and links are text already when it is compiled, so without references it is one fixed text.
A reference that is not bound leaves its placeholder.

The outermost render writes into the shared buffer; a render that starts while the buffer is lent
out writes into a new text and says so in the log.
-/

namespace StyledMarkup

variable {σ : Type}

/-- A compiled flat template without its source. -/
inductive FlatBody where
  /-- A text that needs no lookup. -/
  | fixed (content : Text)
  /-- Nodes with at least one reference among them. -/
  | dynamic (nodes : List Node)
deriving DecidableEq, Inhabited

namespace FlatBody

/-- The nodes of the tokens in a flat template. -/
def nodesOf (tokens : List Token) : List Node :=
  (tokens.map fun token => token.node.flat).foldr Node.push []

/-- Compiles tokens. Without references the nodes are one text at most, which is the last one. -/
def ofTokens (tokens : List Token) : FlatBody :=
  let nodes := nodesOf tokens
  if nodes.any fun node => !node.isText then dynamic nodes
  else match nodes.getLast? with
    | some (.text content) => fixed content
    | _ => fixed []

/-- Whether the template needs no lookup. -/
def isFixed : FlatBody → Bool
  | fixed _ => true
  | dynamic _ => false

/-- The text of a template that needs no lookup. -/
def fixed? : FlatBody → Option Text
  | fixed content => some content
  | dynamic _ => none

/-- The number of nodes; a fixed text counts as one. -/
def nodeCount : FlatBody → Nat
  | fixed _ => 1
  | dynamic nodes => nodes.length

/-- What is recorded when the tokens are compiled. -/
def events (tokens : List Token) : List Event :=
  let body := ofTokens tokens
  (tokens.filterMap Token.fallback?).map Event.fellBack ++
    [.compiledFlat body.isFixed body.nodeCount]

/-- Writes a node after the text written so far. -/
def writeNode (bindings : Bindings σ) (out : Text) : Node → Render σ Text
  | .text content => pure (out ++ content)
  | .link address => pure (out ++ address)
  | .code code => pure (out ++ code.toSection)
  | .color color => pure (out ++ (Color.rgb color).toSection)
  | .reference name => do
    let answer ← bindings.variableText name out
    return if answer.bound then answer.result else answer.result ++ Node.namePlaceholder name
  | .call call => do
    let answer ← bindings.functionText call.name call.args out
    return if answer.bound then answer.result else answer.result ++ Node.callPlaceholder call

/-- Writes nodes in order after the text written so far. -/
def writeNodes (bindings : Bindings σ) (out : Text) (nodes : List Node) : Render σ Text :=
  nodes.foldlM (writeNode bindings) out

/-- Renders nodes into the shared buffer, or into a new text if the buffer is lent out. -/
def renderNodes (bindings : Bindings σ) (nodes : List Node) : Render σ Text := do
  match (← get).buffer with
  | .free leftover =>
    Render.setBuffer .lent
    let written ← writeNodes bindings (Buffer.emptied leftover) nodes
    Render.setBuffer (.free (Buffer.kept written))
    return written
  | .lent =>
    Render.note [.bufferInUse]
    writeNodes bindings [] nodes

/-- Renders the template. -/
def render (body : FlatBody) (bindings : Bindings σ) : Render σ Text :=
  match body with
  | fixed content => pure content
  | dynamic nodes => renderNodes bindings nodes

end FlatBody

/-- A flat template with its source. -/
structure Template where
  source : Text
  body : FlatBody
deriving DecidableEq, Inhabited

namespace Template

/-- Compiles a source. -/
def compile (source : Text) : Template :=
  ⟨source, .ofTokens (tokenize source)⟩

/-- Compiles a source and records how. -/
def compileNoted (source : Text) : Render σ Template := do
  Render.note (FlatBody.events (tokenize source))
  return compile source

/-- Renders the template. -/
def render (template : Template) (bindings : Bindings σ) : Render σ Text :=
  template.body.render bindings

end Template
end StyledMarkup
