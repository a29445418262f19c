import StyledMarkup.Markup.Call
import StyledMarkup.Markup.Mark
import StyledMarkup.Markup.Token
import StyledMarkup.Style.Segment

/-!
# Nodes of templates

Each token stands for one node. A code that is none and digits that are no color stay text, with
the sign that stood before them, and a body with an opening parenthesis that is no call is a name;
tokens that are read from a source hold none of these. Nodes are put into a sequence in which no
text is empty and no two texts are neighbours.
-/

namespace StyledMarkup

/-- What a template is made of. -/
inductive Node where
  | text (content : Text)
  | reference (name : Text)
  | call (call : Call)
  | code (code : ShortCode)
  | color (color : Rgb)
  | link (address : Text)
deriving DecidableEq, Inhabited

/-- Why a token does not stand for what its kind tells. -/
inductive Fallback where
  /-- The symbol has no meaning. -/
  | unknownCode (symbol : Char)
  /-- The digits are no color. -/
  | malformedHex (digits : Text)
  /-- The body has an opening parenthesis, but is no call. -/
  | malformedCall (body : Text) (cause : NotACall)
deriving DecidableEq, Inhabited

/-- The node that takes the place: the text that stays, with the sign before it, or a name. -/
def Fallback.node : Fallback → Node
  | unknownCode symbol => .text [Mark.escape, symbol]
  | malformedHex digits => .text ('#' :: digits)
  | malformedCall body _ => .reference body

namespace Token

/-- The node that the body of a reference stands for: a name, or a call if it has an opening
parenthesis. -/
def resolveReference (body : Text) : Except Fallback Node :=
  if body.contains '(' then
    match Call.parse body with
    | .ok call => .ok (.call call)
    | .error cause => .error (.malformedCall body cause)
  else .ok (.reference body)

/-- The node that the token stands for, or why it stands for another one. -/
def resolve : Token → Except Fallback Node
  | text content => .ok (.text content)
  | reference body => resolveReference body
  | code symbol =>
    match ShortCode.ofChar? symbol with
    | some meaning => .ok (.code meaning)
    | none => .error (.unknownCode symbol)
  | hex digits =>
    match Rgb.ofHex? digits with
    | some color => .ok (.color color)
    | none => .error (.malformedHex digits)
  | link address => .ok (.link address)

/-- The node of the token, or the one that takes its place. -/
def node (token : Token) : Node :=
  match token.resolve with
  | .ok node => node
  | .error fallback => fallback.node

/-- Why another node takes the place of the token's, if one does. -/
def fallback? (token : Token) : Option Fallback :=
  match token.resolve with
  | .ok _ => none
  | .error fallback => some fallback

end Token

namespace Node

/-- Whether the node is text. -/
def isText : Node → Bool
  | text _ => true
  | _ => false

/-- Whether the node is looked up when the template is rendered. -/
def isBinding : Node → Bool
  | reference _ => true
  | call _ => true
  | _ => false

/-- Puts a node before others; an empty text is left out, and a text joins the text that the others
start with. -/
def push (node : Node) (nodes : List Node) : List Node :=
  match node, nodes with
  | text [], rest => rest
  | text content, text next :: rest => text (content ++ next) :: rest
  | node, rest => node :: rest

/-- The node in a flat template, where codes and colors are text with section signs and links are
text. -/
def flat : Node → Node
  | code c => text c.toSection
  | color c => text (Color.rgb c).toSection
  | link address => text address
  | node => node

/-- What stands for a name that is not bound. -/
def namePlaceholder (name : Text) : Text :=
  '{' :: name ++ ['}']

/-- What stands for a call that is not bound. -/
def callPlaceholder (call : Call) : Text :=
  '{' :: call.toText ++ ['}']

end Node
end StyledMarkup
