import StyledMarkup.Table
import StyledMarkup.Decimal.Double

/-!
# Documents

A document is null, a truth value, a number, a text, a list, or an object whose fields ascend by
name. Numbers are integers of at most 64 bits, signed or not, and doubles.
-/

namespace StyledMarkup

/-- A document. -/
inductive Json where
  | null
  | bool (value : Bool)
  | int (value : Int)
  | float (value : Double)
  | text (content : Text)
  | list (items : List Json)
  | object (fields : List (Text × Json))
deriving Inhabited

namespace Json

/-- Whether the document is an object. -/
def isObject : Json → Bool
  | object _ => true
  | _ => false

/-- The object of the fields, later ones in place of earlier ones of the same name. -/
def ofFields (fields : List (Text × Json)) : Json :=
  object (Table.ofList fields).entries

/-- The field of a name, if the document is an object that has it. -/
def field? (name : Text) : Json → Option Json
  | object fields => fields.lookup name
  | _ => none

end Json
end StyledMarkup
