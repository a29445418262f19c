import StyledMarkup.Text.Digit
import StyledMarkup.Yaml.Cursor
import StyledMarkup.Yaml.Token

/-!
# Names of tags, and directives

A tag is written in full between angle brackets, or as a handle and an ending; what a handle stands
for is put before the ending. The handles `!` and `!!` stand for local tags and for the types of
the standard schema, and a directive may declare these two anew and any other one. The other
directive tells the version of the language, which must be 1.1 or 1.2.
-/

namespace StyledMarkup
namespace Yaml

/-- Where the names of the types of the standard schema start. -/
def standardTags : Text := "tag:yaml.org,2002:".toList

/-- The tag of a full name. -/
def Tag.ofName (name : Text) : Tag :=
  match Text.after? standardTags name, name with
  | some short, _ => .standard short
  | none, ['!'] => .unspecific
  | none, '!' :: _ => .local
  | none, _ => .foreign

/-- Whether the character may stand in the name of a tag; commas and square brackets may if it is
written in full. -/
def isTagChar (inFull : Bool) (c : Char) : Bool :=
  isNameChar c || ";/?:@&=+$.%!~*'()".toList.contains c || (inFull && ",[]".toList.contains c)

/-- The bytes of a name in which percent signs with two digits stand for bytes. -/
def nameBytes? : Text → Option (List UInt8)
  | [] => some []
  | '%' :: high :: low :: rest => do
    let byte ← Text.readRadix? 16 [high, low]
    return .ofNat byte :: (← nameBytes? rest)
  | c :: rest => if c = '%' then none else return .ofNat c.toNat :: (← nameBytes? rest)

/-- The name that a spelling in ASCII stands for. -/
def decodeName? (spelling : Text) : Option Text := do
  let bytes ← nameBytes? spelling
  (String.fromUTF8? ⟨bytes.toArray⟩).map String.toList

/-- What a handle stands for; declared handles come first. -/
def handleStart? (handles : List (Text × Text)) (handle : Text) : Option Text :=
  (handles ++ [(['!'], ['!']), (['!', '!'], standardTags)]).lookup handle

/-- The full name of the tag at the head of a text, which starts with an exclamation mark, and the
number of its characters. -/
def tagName? (handles : List (Text × Text)) (t : Text) : Option (Text × Nat) :=
  match t.drop 1 with
  | '<' :: rest => do
    let spelling := rest.takeWhile (isTagChar true)
    if spelling.isEmpty || rest[spelling.length]? != some '>' then none
    else return (← decodeName? spelling, spelling.length + 3)
  | rest =>
    let word := rest.takeWhile isNameChar
    match rest.drop word.length with
    | '!' :: more => do
      let spelling := more.takeWhile (isTagChar false)
      let start ← handleStart? handles ('!' :: word ++ ['!'])
      if spelling.isEmpty then none
      else return (start ++ (← decodeName? spelling), word.length + 2 + spelling.length)
    | _ => do
      let spelling := rest.takeWhile (isTagChar false)
      if spelling.isEmpty then return (['!'], 1)
      else
        let start ← handleStart? handles ['!']
        return (start ++ (← decodeName? spelling), spelling.length + 1)

/-- What a directive tells. -/
inductive Directive where
  | version
  | handle (handle start : Text)
deriving DecidableEq

/-- Whether only blanks and a comment are left of a line. -/
def atComment (t : Text) : Bool :=
  match t.dropWhile isSpace with
  | [] => true
  | c :: _ => c == '#'

/-- A number of at most nine digits and what follows it. -/
def shortNumber? (t : Text) : Option (Nat × Text) := do
  let digits := t.takeWhile Char.isDigit
  if digits.length > 9 then none
  else return (← Text.readRadix? 10 digits, t.drop digits.length)

/-- Reads the version of the language. -/
def version? (t : Text) : Option Directive := do
  let (major, rest) ← shortNumber? (t.dropWhile isSpace)
  let (minor, rest) ← shortNumber? (← Text.after? ['.'] rest)
  if major = 1 ∧ (minor = 1 ∨ minor = 2) ∧ atComment rest then some .version else none

/-- Reads a handle and what it stands for. -/
def handle? (t : Text) : Option Directive := do
  let rest ← Text.after? ['!'] (t.dropWhile isSpace)
  let word := rest.takeWhile isNameChar
  let rest := rest.drop word.length
  let (handle, rest) ← match rest with
    | '!' :: rest => some ('!' :: word ++ ['!'], rest)
    | rest => if word.isEmpty then some (['!'], rest) else none
  let spelling := (rest.dropWhile isSpace).takeWhile (isTagChar true)
  let after := (rest.dropWhile isSpace).drop spelling.length
  if !rest.head?.any isSpace || spelling.isEmpty || !atGap after || !atComment after then none
  else return .handle handle (← decodeName? spelling)

/-- Reads the line of a directive, which starts with a percent sign. -/
def directive? (line : Text) : Option Directive :=
  let name := (line.drop 1).takeWhile isNameChar
  let rest := line.drop (name.length + 1)
  if !atGap rest then none
  else if name = "YAML".toList then version? rest
  else if name = "TAG".toList then handle? rest
  else none

end Yaml
end StyledMarkup
