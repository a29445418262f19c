import StyledMarkup.Json.Path
import StyledMarkup.Lookup.Basic
import StyledMarkup.Lookup.Standard

/-!
# Tables of variables

A table of variables binds names to values and, apart from these, to functions. A value is a text
or a supplier, which is called anew for every reference. Tables of plain texts and whole documents
serve as lookups too; they bind no functions.
-/

namespace StyledMarkup

variable {σ : Type}

/-- What a name is bound to. -/
inductive Value (σ : Type) where
  | text (content : Text)
  | supplied (supplier : Render σ Text)

namespace Value

/-- The text of the value; a supplier is called. -/
def resolve : Value σ → Render σ Text
  | text content => pure content
  | supplied supplier => supplier

/-- The value as messages show it. -/
def describe : Value σ → Text
  | text content => "Text(".toList ++ content.quoted ++ [')']
  | supplied _ => "Lazy(..)".toList

end Value

/-- Named values and named functions of argument lists. -/
structure Variables (σ : Type) where
  values : Table (Value σ)
  functions : Table (List Text → Render σ Text)

namespace Variables

/-- The table that binds nothing. -/
def empty : Variables σ := ⟨.empty, .empty⟩

/-- The table with the standard functions that give text. -/
def standard : Variables σ :=
  ⟨.empty, .ofList (Standard.textFunctions.map fun (name, f) => (name, fun args => pure (f args)))⟩

/-- Binds a name to a text. -/
def set (vars : Variables σ) (name content : Text) : Variables σ :=
  { vars with values := vars.values.insert name (.text content) }

/-- Binds a name to a supplier. -/
def setSupplied (vars : Variables σ) (name : Text) (supplier : Render σ Text) : Variables σ :=
  { vars with values := vars.values.insert name (.supplied supplier) }

/-- Binds a name to a function. -/
def setFunction (vars : Variables σ) (name : Text) (function : List Text → Render σ Text) :
    Variables σ :=
  { vars with functions := vars.functions.insert name function }

/-- Binds names to texts in order. -/
def setAll (vars : Variables σ) (entries : List (Text × Text)) : Variables σ :=
  entries.foldl (fun v entry => v.set entry.1 entry.2) vars

/-- The named parts of a document, and no functions. -/
def ofDocument (document : Json) : Variables σ :=
  empty.setAll document.flatten.entries

/-- The table with all the bindings of another one over its own. -/
def merge (vars other : Variables σ) : Variables σ :=
  ⟨vars.values.merge other.values, vars.functions.merge other.functions⟩

/-- The value of a name. -/
def get? (vars : Variables σ) (name : Text) : Option (Value σ) :=
  vars.values.get? name

/-- Whether a function has the name. -/
def hasFunction (vars : Variables σ) (name : Text) : Bool :=
  vars.functions.contains name

/-- The number of values. -/
def size (vars : Variables σ) : Nat :=
  vars.values.size

/-- The table as messages show it: its values, and the names of its functions. -/
def describe (vars : Variables σ) : Text :=
  let values := vars.values.entries.map fun (name, value) =>
    name.quoted ++ ": ".toList ++ value.describe
  let names := vars.functions.names.map Text.quoted
  "Variables \x7b values: \x7b".toList ++ Text.join ", ".toList values ++
    "\x7d, functions: [".toList ++ Text.join ", ".toList names ++ "] \x7d".toList

/-- The table as a lookup. -/
def bindings (vars : Variables σ) : Bindings σ where
  variableText name out :=
    match vars.values.get? name with
    | some value => do return .found (out ++ (← value.resolve))
    | none => pure (.unbound out)
  functionText name args out :=
    match vars.functions.get? name with
    | some function => do return .found (out ++ (← function args))
    | none => pure (.unbound out)

end Variables

namespace Bindings

/-- A table of texts as a lookup without functions. -/
def ofTable (table : Table Text) : Bindings σ where
  variableText name out :=
    match table.get? name with
    | some content => pure (.found (out ++ content))
    | none => pure (.unbound out)
  functionText := noFunction

/-- A document as a lookup of its parts without functions. -/
def ofDocument (document : Json) : Bindings σ where
  variableText name out :=
    match document.atPath? name with
    | some part => pure (.found (out ++ part.content))
    | none => pure (.unbound out)
  functionText := noFunction

end Bindings
end StyledMarkup
