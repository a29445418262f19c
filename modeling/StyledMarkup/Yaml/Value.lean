import StyledMarkup.Json.Value
import StyledMarkup.Text.Digit
import StyledMarkup.Yaml.Node

/-!
# From YAML to documents

A plain scalar is null, a truth value, a number or a text by its spelling, a quoted one is a text,
and a tag of the standard schema asks for a type. Numbers are decimal, or have the sign `0x`, `0o`
or `0b` of their radix; digits after a leading zero make a text, and so do digits with anything
between them. Integers of more than 64 bits are refused, and beyond 128 bits they are doubles.
-/

namespace StyledMarkup
namespace Yaml

/-- What may come of a scalar: a document, or a refusal of the whole text. -/
abbrev Resolved := Option Json

/-- The sign of a number, and the rest; `true` stands for minus. -/
def signOf : Text → Option Bool × Text
  | '+' :: rest => (some false, rest)
  | '-' :: rest => (some true, rest)
  | rest => (none, rest)

/-- Whether the text is all digits, more than one of them, the first of which is a zero; a sign may
stand before them. -/
def hasIdleZero (t : Text) : Bool :=
  let digits := (signOf t).2
  digits.length > 1 && digits.head? == some '0' && digits.all Char.isDigit

/-- The natural of a spelling without sign. -/
def natural? (t : Text) : Option Nat :=
  match t with
  | '0' :: 'x' :: digits => Text.readRadix? 16 digits
  | '0' :: 'o' :: digits => Text.readRadix? 8 digits
  | '0' :: 'b' :: digits => Text.readRadix? 2 digits
  | digits => Text.readRadix? 10 digits

/-- The integer of a spelling. -/
def integer? (t : Text) : Option Int :=
  if hasIdleZero t then none
  else
    let (sign, digits) := signOf t
    (natural? digits).map fun n => if sign = some true then -(n : Int) else n

/-- Whether an integer fits 64 bits, with a sign or without. -/
def fitsWord (n : Int) : Bool :=
  -(twoTo 63 : Int) ≤ n && n < (twoTo 64 : Int)

/-- Whether an integer fits 128 bits, with a sign or without. -/
def fitsDoubleWord (n : Int) : Bool :=
  -(twoTo 127 : Int) ≤ n && n < (twoTo 128 : Int)

/-- The digits before and after the point, and the rest. -/
def mantissaOf (t : Text) : Text × Text × Text :=
  let whole := t.takeWhile Char.isDigit
  match t.dropWhile Char.isDigit with
  | '.' :: rest => (whole, rest.takeWhile Char.isDigit, rest.dropWhile Char.isDigit)
  | rest => (whole, [], rest)

/-- The exponent that the text spells, which may be missing. -/
def exponentOf? (t : Text) : Option Int :=
  match t with
  | [] => some 0
  | mark :: rest =>
    let (sign, digits) := signOf rest
    if mark = 'e' ∨ mark = 'E' then
      if digits.all Char.isDigit then
        (Text.readRadix? 10 digits).map fun n => if sign = some true then -(n : Int) else n
      else none
    else none

/-- The double nearest to a decimal, which has digits on one side of the point at least. -/
def decimal? (t : Text) : Option Double := do
  let (sign, magnitude) := signOf t
  let (whole, fraction, rest) := mantissaOf magnitude
  let exponent ← exponentOf? rest
  let digits ← Text.readRadix? 10 (whole ++ fraction)
  Double.ofDecimal? (sign == some true) digits (exponent - fraction.length)

/-- The spellings of the numbers that are not finite. -/
def notFinite : List Text :=
  [".inf", ".Inf", ".INF", "+.inf", "+.Inf", "+.INF", "-.inf", "-.Inf", "-.INF",
   ".nan", ".NaN", ".NAN"].map String.toList

/-- The double of a spelling; numbers that are not finite are null. -/
def float? (t : Text) : Option Json :=
  if notFinite.contains t then some .null else (decimal? t).map Json.float

/-- Whether the spelling is one of null. -/
def isNull (t : Text) : Bool :=
  ["null", "Null", "NULL", "~"].any fun word => word.toList == t

/-- The truth value of a spelling. -/
def bool? (t : Text) : Option Json :=
  if ["true", "True", "TRUE"].any fun word => word.toList == t then some (.bool true)
  else if ["false", "False", "FALSE"].any fun word => word.toList == t then some (.bool false)
  else none

/-- The integer of a spelling, if it is one of at most 128 bits; one of more than 64 bits is
refused. -/
def word? (t : Text) : Option Resolved :=
  match integer? t with
  | none => none
  | some n =>
    if fitsWord n then some (some (.int n)) else if fitsDoubleWord n then some none else none

/-- The document of a plain scalar. -/
def resolvePlain (t : Text) : Resolved :=
  if t.isEmpty || isNull t then some .null
  else match bool? t with
    | some value => some value
    | none => match word? t with
      | some resolved => resolved
      | none =>
        if hasIdleZero t then some (.text t)
        else match float? t with
          | some number => some number
          | none => some (.text t)

/-- The document of a scalar. -/
def resolveScalar (content : Text) (isPlain : Bool) : Option Tag → Resolved
  | none => if isPlain then resolvePlain content else some (.text content)
  | some .unspecific =>
    if !isPlain then some (.text content)
    else if content.isEmpty then none
    else resolvePlain content
  | some .local => none
  | some .foreign => some (.text content)
  | some (.standard name) =>
    if name = "bool".toList then bool? content
    else if name = "int".toList then (word? content).getD none
    else if name = "float".toList then float? content
    else if name = "null".toList then if isNull content then some .null else none
    else some (.text content)

/-- Whether a collection has a tag for which there is no type. -/
def Tag.isOwn (tag : Option Tag) : Bool :=
  tag == some .local || tag == some .unspecific

/-- The name that a key spells; only scalars are keys. -/
def Node.keyText? : Node → Option Text
  | .scalar content _ _ => some content
  | .alias target => target.keyText?
  | _ => none

mutual

/-- The document of a node; the last of the entries of one key counts. -/
def Node.toJson? : Node → Option Json
  | .scalar content isPlain tag => resolveScalar content isPlain tag
  | .list items tag => if Tag.isOwn tag then none else (itemsToJson? items).map Json.list
  | .mapping entries tag =>
    if Tag.isOwn tag then none else (entriesToJson? entries).map Json.ofFields
  | .alias target => target.toJson?

/-- The documents of the items. -/
def itemsToJson? : List Node → Option (List Json)
  | [] => some []
  | item :: rest => do return (← item.toJson?) :: (← itemsToJson? rest)

/-- The fields of the entries. -/
def entriesToJson? : List (Node × Node) → Option (List (Text × Json))
  | [] => some []
  | (key, value) :: rest => do
    return (← key.keyText?, ← value.toJson?) :: (← entriesToJson? rest)

end

/-- Reads the only document of a YAML text. -/
def parse? (t : Text) : Option Json := do
  (← nodeOfTokens? (← tokens? t)).toJson?

end Yaml
end StyledMarkup
