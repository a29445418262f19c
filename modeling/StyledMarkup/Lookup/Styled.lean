import StyledMarkup.Json.Path
import StyledMarkup.Lookup.Basic
import StyledMarkup.Lookup.Standard

/-!
# Tables for styled renders

A styled value is a text, a supplier of text, or a change to the whole segment; texts go to the
end of the segment. A styled function changes the segment by its arguments.
-/

namespace StyledMarkup

variable {σ : Type}

/-- What a name is bound to in styled renders. -/
inductive SegmentValue (σ : Type) where
  | text (content : Text)
  | supplied (supplier : Render σ Text)
  | change (change : Segment → Render σ Segment)

/-- The value as messages show it. -/
def SegmentValue.describe : SegmentValue σ → Text
  | text content => "Text(".toList ++ content.quoted ++ [')']
  | supplied _ => "Lazy(..)".toList
  | change _ => "Segment(..)".toList

/-- Puts the value into a segment. -/
def SegmentValue.apply (segment : Segment) : SegmentValue σ → Render σ Segment
  | text content => pure (segment.append content)
  | supplied supplier => do return segment.append (← supplier)
  | change f => f segment

/-- Named styled values. -/
structure StyledVariables (σ : Type) where
  values : Table (SegmentValue σ)

namespace StyledVariables

/-- The table that binds nothing. -/
def empty : StyledVariables σ := ⟨.empty⟩

/-- Binds a name to a text. -/
def set (vars : StyledVariables σ) (name content : Text) : StyledVariables σ :=
  ⟨vars.values.insert name (.text content)⟩

/-- Binds a name to a supplier. -/
def setSupplied (vars : StyledVariables σ) (name : Text) (supplier : Render σ Text) :
    StyledVariables σ :=
  ⟨vars.values.insert name (.supplied supplier)⟩

/-- Binds a name to a change of the segment. -/
def setChange (vars : StyledVariables σ) (name : Text)
    (change : Segment → Render σ Segment) : StyledVariables σ :=
  ⟨vars.values.insert name (.change change)⟩

/-- Binds names to texts in order. -/
def setAll (vars : StyledVariables σ) (entries : List (Text × Text)) : StyledVariables σ :=
  entries.foldl (fun v entry => v.set entry.1 entry.2) vars

/-- The named parts of a document. -/
def ofDocument (document : Json) : StyledVariables σ :=
  empty.setAll document.flatten.entries

/-- The value of a name. -/
def get? (vars : StyledVariables σ) (name : Text) : Option (SegmentValue σ) :=
  vars.values.get? name

/-- The number of values. -/
def size (vars : StyledVariables σ) : Nat :=
  vars.values.size

/-- The table as messages show it. -/
def describe (vars : StyledVariables σ) : Text :=
  let values := vars.values.entries.map fun (name, value) =>
    name.quoted ++ ": ".toList ++ value.describe
  "StyledVariables \x7b values: \x7b".toList ++ Text.join ", ".toList values ++ "\x7d \x7d".toList

/-- The table as a lookup. -/
def lookup (vars : StyledVariables σ) : VariableLookup σ := fun name segment =>
  match vars.values.get? name with
  | some value => do return .found (← value.apply segment)
  | none => pure (.unbound segment)

end StyledVariables

/-- Named functions that change a segment by their arguments. -/
structure StyledFunctions (σ : Type) where
  functions : Table (List Text → Segment → Render σ Segment)

namespace StyledFunctions

/-- The table that binds nothing. -/
def empty : StyledFunctions σ := ⟨.empty⟩

/-- Binds a name to a function. -/
def setFunction (table : StyledFunctions σ) (name : Text)
    (function : List Text → Segment → Render σ Segment) : StyledFunctions σ :=
  ⟨table.functions.insert name function⟩

/-- Binds a name to a function that gives text, which goes to the end of the segment. -/
def setTextFunction (table : StyledFunctions σ) (name : Text)
    (function : List Text → Render σ Text) : StyledFunctions σ :=
  table.setFunction name fun args segment => do return segment.append (← function args)

/-- The table with all the standard functions. -/
def standard : StyledFunctions σ :=
  let texts := Standard.textFunctions.foldl
    (fun table (name, f) => table.setTextFunction name fun args => pure (f args)) empty
  Standard.segmentFunctions.foldl
    (fun table (name, f) => table.setFunction name fun args segment => pure (f args segment)) texts

/-- Whether a function has the name. -/
def contains (table : StyledFunctions σ) (name : Text) : Bool :=
  table.functions.contains name

/-- The table as messages show it. -/
def describe (table : StyledFunctions σ) : Text :=
  "StyledFunctions([".toList ++ Text.join ", ".toList (table.functions.names.map Text.quoted) ++
    "])".toList

/-- The table as a lookup. -/
def lookup (table : StyledFunctions σ) : FunctionLookup σ := fun name args segment =>
  match table.functions.get? name with
  | some function => do return .found (← function args segment)
  | none => pure (.unbound segment)

end StyledFunctions
end StyledMarkup
