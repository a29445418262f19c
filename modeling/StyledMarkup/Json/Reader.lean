import StyledMarkup.Json.Number

/-!
# Reading documents

A text is cut into lexemes, and the lexemes are read one after the other by a machine whose state
is the stack of the containers that are open. Reading is strict: no comments, no trailing commas,
no control characters in texts, no halves of surrogate pairs, nothing after the document, and no
more than a given number of containers inside one another.
-/

namespace StyledMarkup
namespace Json

/-- The pieces that a written document is made of. -/
inductive Lexeme where
  | openList | closeList | openObject | closeObject | comma | colon
  | text (content : Text)
  | scalar (value : Json)

/-- What stands in a quoted text: a character, or a unit of 16 bits given by its digits. -/
inductive Element where
  | char (c : Char)
  | codeUnit (value : Nat)

/-- The character of an escape of one letter. -/
def shortEscape? : Char → Option Char
  | '"' => some '"'
  | '\\' => some '\\'
  | '/' => some '/'
  | 'b' => some '\x08'
  | 'f' => some '\x0c'
  | 'n' => some '\n'
  | 'r' => some '\r'
  | 't' => some '\t'
  | _ => none

/-- The elements up to the closing quote, and the number of characters that they take with it. -/
def elements : Text → Option (List Element × Nat)
  | [] => none
  | '"' :: _ => some ([], 1)
  | '\\' :: 'u' :: a :: b :: c :: d :: rest => do
    let value ← Text.readRadix? 16 [a, b, c, d]
    let (more, length) ← elements rest
    some (.codeUnit value :: more, length + 6)
  | '\\' :: c :: rest => do
    let meant ← shortEscape? c
    let (more, length) ← elements rest
    some (.char meant :: more, length + 2)
  | c :: rest =>
    if c.toNat < 0x20 then none
    else do
      let (more, length) ← elements rest
      some (.char c :: more, length + 1)

/-- Whether a unit is the first half of a surrogate pair. -/
def isHighSurrogate (n : Nat) : Bool := 0xd800 ≤ n && n < 0xdc00

/-- Whether a unit is the second half of a surrogate pair. -/
def isLowSurrogate (n : Nat) : Bool := 0xdc00 ≤ n && n < 0xe000

/-- The text of the elements; a half of a surrogate pair alone is refused. -/
def assemble : List Element → Option Text
  | [] => some []
  | .codeUnit high :: .codeUnit low :: rest =>
    if isHighSurrogate high then
      if isLowSurrogate low then
        (assemble rest).map (Char.ofNat (0x10000 + (high - 0xd800) * 0x400 + (low - 0xdc00)) :: ·)
      else none
    else if isLowSurrogate high then none
    else (assemble (.codeUnit low :: rest)).map (Char.ofNat high :: ·)
  | .codeUnit n :: rest =>
    if isHighSurrogate n || isLowSurrogate n then none
    else (assemble rest).map (Char.ofNat n :: ·)
  | .char c :: rest => (assemble rest).map (c :: ·)

/-- Whether the character may stand between lexemes. -/
def isSpace (c : Char) : Bool :=
  c == ' ' || c == '\n' || c == '\t' || c == '\r'

/-- Whether the character may stand in a number. -/
def isNumberChar (c : Char) : Bool :=
  c.isDigit || c == '+' || c == '-' || c == '.' || c == 'e' || c == 'E'

/-- The value of a word. -/
def readWord? (word : Text) : Option Json :=
  if word = "null".toList then some null
  else if word = "true".toList then some (bool true)
  else if word = "false".toList then some (bool false)
  else none

/-- The lexeme of a sign. -/
def sign? : Char → Option Lexeme
  | '[' => some .openList
  | ']' => some .closeList
  | '{' => some .openObject
  | '}' => some .closeObject
  | ',' => some .comma
  | ':' => some .colon
  | _ => none

/-- A lexeme that starts with `c` and goes on with the text, and the number of characters of the
text that it takes. -/
def lexemeAt? (c : Char) (rest : Text) : Option (Lexeme × Nat) :=
  if c = '"' then do
    let (content, length) ← elements rest
    some (.text (← assemble content), length)
  else if isNumberChar c && c != 'e' && c != 'E' then do
    let more := rest.takeWhile isNumberChar
    some (.scalar (← readNumber? (c :: more)), more.length)
  else match sign? c with
    | some lexeme => some (lexeme, 0)
    | none => do
      let more := rest.takeWhile Char.isAlpha
      some (.scalar (← readWord? (c :: more)), more.length)

/-- The lexemes of a text. -/
def lexemes? : Text → Option (List Lexeme)
  | [] => some []
  | c :: rest =>
    if isSpace c then lexemes? rest
    else do
      let (lexeme, length) ← lexemeAt? c rest
      let more ← lexemes? (rest.drop length)
      some (lexeme :: more)
termination_by t => t.length
decreasing_by all_goals simp only [List.length_drop, List.length_cons]; omega

/-- A container that is open: the items so far, last first, or the fields so far in ascending order
and the name of the field that is being read. -/
inductive Frame where
  | list (items : List Json)
  | object (fields : List (Text × Json)) (name : Text)

/-- What may come next. -/
inductive State where
  /-- A document, or the end of the list that has just been opened. -/
  | value (outer : List Frame) (mayClose : Bool)
  /-- The name of a field, or the end of the object that has just been opened. -/
  | name (outer : List Frame) (fields : List (Text × Json)) (mayClose : Bool)
  /-- The colon after the name of a field. -/
  | colon (outer : List Frame) (fields : List (Text × Json)) (field : Text)
  /-- A comma, or the end of the innermost container. -/
  | after (inner : Frame) (outer : List Frame)
  /-- Nothing more. -/
  | done (document : Json)

/-- Puts a finished document where it belongs. -/
def State.deliver (document : Json) : List Frame → State
  | [] => .done document
  | .list items :: outer => .after (.list (document :: items)) outer
  | .object fields field :: outer =>
    .after (.object (Entries.insert field document fields) field) outer

/-- Reads one lexeme, with at most `limit` containers inside one another. -/
def State.read? (limit : Nat) : State → Lexeme → Option State
  | .value frames _, .text content => some (.deliver (.text content) frames)
  | .value frames _, .scalar document => some (.deliver document frames)
  | .value frames _, .openList =>
    if frames.length < limit then some (.value (.list [] :: frames) true) else none
  | .value frames _, .openObject =>
    if frames.length < limit then some (.name frames [] true) else none
  | .value (.list _ :: outer) true, .closeList => some (.deliver (.list []) outer)
  | .name outer fields _, .text field => some (.colon outer fields field)
  | .name outer _ true, .closeObject => some (.deliver (.object []) outer)
  | .colon outer fields field, .colon => some (.value (.object fields field :: outer) false)
  | .after (.list items) outer, .comma => some (.value (.list items :: outer) false)
  | .after (.list items) outer, .closeList => some (.deliver (.list items.reverse) outer)
  | .after (.object fields _) outer, .comma => some (.name outer fields false)
  | .after (.object fields _) outer, .closeObject => some (.deliver (.object fields) outer)
  | _, _ => none

/-- Reads a document with at most `limit` containers inside one another. -/
def parseWithin? (limit : Nat) (t : Text) : Option Json := do
  match ← (← lexemes? t).foldlM (State.read? limit) (.value [] false) with
  | .done document => some document
  | _ => none

/-- How many containers may stand inside one another. -/
def depthLimit : Nat := 127

/-- Reads a document. -/
def parse? (t : Text) : Option Json :=
  parseWithin? depthLimit t

end Json
end StyledMarkup
