import StyledMarkup.Text.Quoted

/-!
# Calls

A reference whose body has an opening parenthesis is a call: a name, and arguments separated by
commas. Outside quotes blanks are dropped and a closing parenthesis ends the call, whatever
follows it; between quotes commas, parentheses and blanks are ordinary; a backslash takes the next
character as it is in both. `name()` alone has no argument, and `name("")` has an empty one.
-/

namespace StyledMarkup

/-- The call of a function by name. -/
structure Call where
  name : Text
  args : List Text
deriving DecidableEq, Inhabited

/-- Why a text is no call: it has no opening parenthesis. -/
structure NotACall where
  body : Text
deriving DecidableEq, Inhabited

/-- The message of the failure. -/
def NotACall.message (failure : NotACall) : Text :=
  "not a function call: ".toList ++ failure.body.quoted ++ " has no opening parenthesis".toList

namespace Call

/-- What the text between the parentheses is made of, besides blanks that stand for nothing. -/
inductive Symbol where
  /-- A character of an argument. -/
  | char (c : Char)
  /-- The comma between two arguments. -/
  | comma
  /-- A quote that opens or closes a quoted stretch. -/
  | quote
deriving DecidableEq, Inhabited

/-- The symbols up to the closing parenthesis or the end; `quoted` tells whether the text starts
inside quotes. A backslash at the very end stands for itself. -/
def symbols (quoted : Bool) : Text → List Symbol
  | [] => []
  | ['\\'] => [.char '\\']
  | '\\' :: c :: rest => .char c :: symbols quoted rest
  | c :: rest =>
    if c = '"' then .quote :: symbols (!quoted) rest
    else if quoted then .char c :: symbols quoted rest
    else if c = ',' then .comma :: symbols quoted rest
    else if c = ')' then []
    else if Text.isBlank c then symbols quoted rest
    else .char c :: symbols quoted rest

/-- The stretches of characters between the commas. -/
def stretches : List Symbol → List Text
  | [] => [[]]
  | .comma :: rest => [] :: stretches rest
  | .quote :: rest => stretches rest
  | .char c :: rest =>
    match stretches rest with
    | [] => [[c]]
    | first :: others => (c :: first) :: others

/-- The arguments that the symbols spell: none if there is no symbol at all. -/
def arguments : List Symbol → List Text
  | [] => []
  | symbol :: rest => stretches (symbol :: rest)

/-- Reads a call. -/
def parse (body : Text) : Except NotACall Call :=
  match body.cutAt? '(' with
  | none => .error ⟨body⟩
  | some (name, rest) =>
    .ok ⟨name.filter fun c => !Text.isBlank c, arguments (symbols false rest)⟩

/-- The call as it is shown: its arguments stand bare, so it need not read back. -/
def toText (call : Call) : Text :=
  call.name ++ '(' :: Text.join [','] call.args ++ [')']

end Call
end StyledMarkup
