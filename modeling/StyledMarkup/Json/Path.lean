import StyledMarkup.Json.Printer

/-!
# Naming the parts of a document

A part of a document is named by the field names and list indices that lead to it, joined by dots.
`atPath?` follows such a name through a document. `flatten` binds every part that is not null to
its text under its name; where two parts have the same name, the one visited last wins. A
container is visited before what it holds, and fields and items in order.
-/

namespace StyledMarkup
namespace Json

/-- The text that a part is bound to: texts stand for themselves, null is empty, and all else is
written compactly. -/
def content : Json → Text
  | text t => t
  | null => []
  | document => document.compact

/-- One step along a path: a field by its name, or an item by its index, which is a count. -/
def child? (document : Json) (part : Text) : Option Json :=
  match document with
  | object fields => fields.lookup part
  | list items => do items[← Text.readCount? part]?
  | _ => none

/-- The part of a document at a path whose steps are joined by dots. -/
def atPath? (document : Json) (path : Text) : Option Json :=
  (Text.splitAt '.' path).foldlM child? document

/-- The name of a part inside the part of a given name; the whole document has the empty name. -/
def childName (name step : Text) : Text :=
  if name.isEmpty then step else name ++ '.' :: step

/-- The visit of a container itself, which is none for the whole document. -/
def visitsOfContainer (name : Text) (container : Json) : List (Text × Text) :=
  if name.isEmpty then [] else [(name, container.compact)]

/-- The visit of a part that holds no parts. -/
def visitsOfScalar (name : Text) (scalar : Json) : List (Text × Text) :=
  [(if name.isEmpty then "value".toList else name, scalar.content)]

mutual

/-- The names of the parts that are not null, with their texts, in the order of the visit. A whole
document that holds no parts has the name `value`. -/
def visits (name : Text) : Json → List (Text × Text)
  | null => []
  | object fields => visitsOfContainer name (object fields) ++ visitsOfFields name fields
  | list items => visitsOfContainer name (list items) ++ visitsOfItems name 0 items
  | bool b => visitsOfScalar name (bool b)
  | int n => visitsOfScalar name (int n)
  | float d => visitsOfScalar name (float d)
  | text t => visitsOfScalar name (text t)

/-- The visits of the fields of an object. -/
def visitsOfFields (name : Text) : List (Text × Json) → List (Text × Text)
  | [] => []
  | (step, value) :: rest => visits (childName name step) value ++ visitsOfFields name rest

/-- The visits of the items of a list from an index on. -/
def visitsOfItems (name : Text) (index : Nat) : List Json → List (Text × Text)
  | [] => []
  | item :: rest =>
    visits (childName name (Text.ofNat index)) item ++ visitsOfItems name (index + 1) rest

end

/-- Every named part of the document, bound to its text. -/
def flatten (document : Json) : Table Text :=
  Table.ofList (visits [] document)

end Json
end StyledMarkup
