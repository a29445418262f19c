import StyledMarkup.Text.Basic

/-!
# Tokens of YAML

The signs, names and scalars of a YAML text, together with the starts and ends of blocks that its
layout implies.
-/

namespace StyledMarkup
namespace Yaml

/-- The tag of a node. -/
inductive Tag where
  /-- A type of the standard schema, such as `str`. -/
  | standard (name : Text)
  /-- No type at all. -/
  | unspecific
  /-- A type of an application. -/
  | local
  /-- Any other type. -/
  | foreign
deriving DecidableEq, Inhabited

/-- What a YAML text is made of. -/
inductive Token where
  | directive | documentStart | documentEnd
  | blockList | blockMapping | blockEnd | blockEntry
  | flowList | flowListEnd | flowMapping | flowMappingEnd | flowEntry
  | key | value
  | alias (name : Text)
  | anchor (name : Text)
  | tag (tag : Tag)
  | scalar (content : Text) (isPlain : Bool)
deriving DecidableEq, Inhabited

end Yaml
end StyledMarkup
