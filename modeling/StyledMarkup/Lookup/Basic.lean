import StyledMarkup.Template.Context

/-!
# Lookups

A template owns no values: every render is given lookups. A flat lookup is given the text written
so far, and a styled lookup a segment that has the current style and nothing else; each answers
whether the name is bound and what it has made of what it was given. A lookup that does not bind
the name is meant to change nothing, and one that does to put its text at the end.
-/

namespace StyledMarkup

variable {σ : Type}

/-- Whether a name is bound, and what the lookup has made of what it was given. -/
structure Answer (α : Type) where
  bound : Bool
  result : α
deriving DecidableEq

namespace Answer

/-- The answer of a lookup that binds the name. -/
def found {α : Type} (result : α) : Answer α := ⟨true, result⟩

/-- The answer of a lookup that does not bind the name and leaves everything as it was. -/
def unbound {α : Type} (given : α) : Answer α := ⟨false, given⟩

end Answer

/-- The lookups of a flat render: of a name, and of a name with arguments. -/
structure Bindings (σ : Type) where
  variableText : Text → Text → Render σ (Answer Text)
  functionText : Text → List Text → Text → Render σ (Answer Text)

/-- The lookup of a name in a styled render. -/
abbrev VariableLookup (σ : Type) := Text → Segment → Render σ (Answer Segment)

/-- The lookup of a name with arguments in a styled render. -/
abbrev FunctionLookup (σ : Type) := Text → List Text → Segment → Render σ (Answer Segment)

/-- The lookup that binds no name. -/
def VariableLookup.none : VariableLookup σ :=
  fun _ segment => pure (.unbound segment)

/-- The lookup that binds no call. -/
def FunctionLookup.none : FunctionLookup σ :=
  fun _ _ segment => pure (.unbound segment)

namespace Bindings

/-- The lookup that binds no call. -/
def noFunction : Text → List Text → Text → Render σ (Answer Text) :=
  fun _ _ out => pure (.unbound out)

/-- The flat lookup of names for styled renders; it writes into the text of the segment. -/
def plainVariables (bindings : Bindings σ) : VariableLookup σ := fun name segment => do
  let answer ← bindings.variableText name segment.text
  return ⟨answer.bound, { segment with text := answer.result }⟩

/-- The flat lookup of calls for styled renders; it writes into the text of the segment. -/
def plainFunctions (bindings : Bindings σ) : FunctionLookup σ := fun name args segment => do
  let answer ← bindings.functionText name args segment.text
  return ⟨answer.bound, { segment with text := answer.result }⟩

end Bindings
end StyledMarkup
