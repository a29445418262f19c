import StyledMarkup.Output.Terminal

/-!
# Command line arguments

The program has one command, `render`, besides `help`. Its arguments are a template and options
with a value; the value stands behind the option, joined by an equals sign, or right behind the
letter of a short option. Two dashes alone end the options.

The value of an option that stands apart from it is looked at only when the next argument has been
understood, or at the end; so an unknown argument is refused before a bad value in front of it.
-/

namespace StyledMarkup
namespace Command

/-- How the rendered template is written. -/
inductive OutputFormat where
  /-- The flat text. -/
  | text
  /-- The text of the segments. -/
  | plain
  /-- The segments for a terminal. -/
  | terminal
  /-- The segments with section signs. -/
  | sections
  /-- The segments as chat components. -/
  | components
  /-- The tokens of the source, one a line. -/
  | tokens
deriving DecidableEq, Inhabited

/-- The format of a name. -/
def OutputFormat.ofName? (name : Text) : Option OutputFormat :=
  ([("text", text), ("plain", plain), ("term", terminal), ("legacy", sections),
    ("json", components), ("tokens", tokens)].find? fun entry => entry.1.toList == name).map
      fun entry => entry.2

/-- The color choice of a name. -/
def colorChoiceOfName? (name : Text) : Option ColorChoice :=
  ([("auto", ColorChoice.auto), ("always", .always), ("never", .never)].find?
    fun entry => entry.1.toList == name).map fun entry => entry.2

/-- What to render and how. -/
structure RenderArguments where
  template : Option Text := none
  file : Option Text := none
  /-- The pairs of names and values in the order of the arguments. -/
  pairs : List (Text × Text) := []
  variablesFile : Option Text := none
  output : OutputFormat := .text
  color : ColorChoice := .auto
deriving DecidableEq, Inhabited

/-- Why the arguments call for no render. -/
inductive UsageError where
  /-- An option that is none, or one argument too many. -/
  | unknownArgument
  /-- A command that is none. -/
  | unknownCommand
  /-- A value that the option does not take, or none where there should be one. -/
  | invalidValue
  /-- A value for an option that takes none. -/
  | unexpectedValue
  /-- A value that is no pair of a name and a value. -/
  | invalidPair
  /-- Two arguments that exclude each other, or an option given twice. -/
  | conflict
  /-- Help has been asked for. -/
  | help
  /-- The version has been asked for. -/
  | version
  /-- There is no command. -/
  | noCommand
deriving DecidableEq, Inhabited

/-- The options that take a value. -/
inductive ValueOption where
  | file | pair | variablesFile | output | color
deriving DecidableEq, Inhabited

namespace ValueOption

/-- The option of a long name. -/
def ofName? (name : Text) : Option ValueOption :=
  ([("file", file), ("var", pair), ("vars", variablesFile), ("output", output),
    ("color", color)].find? fun entry => entry.1.toList == name).map fun entry => entry.2

/-- The option of a letter. -/
def ofLetter? : Char → Option ValueOption
  | 'f' => some file
  | 'o' => some output
  | _ => none

end ValueOption

/-- A name and a value with an equals sign between them; the blanks around the name do not count,
and the name must not be empty. -/
def pairOf? (t : Text) : Option (Text × Text) := do
  let (name, value) ← t.cutAt? '='
  if name.trim.isEmpty then none else some (name.trim, value)

/-- The arguments that have been understood, and the option whose value is still to be looked at,
with the value if it has come. -/
structure Progress where
  template : Option Text := none
  file : Option Text := none
  pairs : List (Text × Text) := []
  variablesFile : Option Text := none
  output : Option OutputFormat := none
  color : Option ColorChoice := none
  waiting : Option (ValueOption × Option Text) := none

namespace Progress

/-- The first of two settings of an option; a second one is a conflict, and then a value that is
none is invalid. -/
def once {α : Type} (given : Option α) (value : Option α) : Except UsageError (Option α) :=
  match given, value with
  | some _, _ => .error .conflict
  | none, none => .error .invalidValue
  | none, some value => .ok (some value)

/-- A path, which must not be empty. -/
def path? (value : Text) : Option Text :=
  if value.isEmpty then none else some value

/-- Gives an option its value. -/
def assign (p : Progress) (option : ValueOption) (value : Text) : Except UsageError Progress :=
  match option with
  | .file => do return { p with file := ← once p.file (path? value) }
  | .variablesFile => do return { p with variablesFile := ← once p.variablesFile (path? value) }
  | .output => do return { p with output := ← once p.output (OutputFormat.ofName? value) }
  | .color => do return { p with color := ← once p.color (colorChoiceOfName? value) }
  | .pair =>
    match pairOf? value with
    | some pair => .ok { p with pairs := p.pairs ++ [pair] }
    | none => .error .invalidPair

/-- Gives the waiting option its value, which must have come. -/
def settle (p : Progress) : Except UsageError Progress :=
  match p.waiting with
  | none => .ok p
  | some (_, none) => .error .invalidValue
  | some (option, some value) => { p with waiting := none }.assign option value

/-- Reads an option with the value that is joined to it, if there is one. -/
def readOption (p : Progress) (option : ValueOption) (value : Option Text) :
    Except UsageError Progress := do
  let p ← p.settle
  match value with
  | some value => p.assign option value
  | none => return { p with waiting := some (option, none) }

/-- Asks for help, once the waiting option has its value. -/
def askHelp (p : Progress) : Except UsageError Progress := do
  let _ ← p.settle
  .error .help

/-- Reads what stands after two dashes. -/
def readLong (p : Progress) (spelling : Text) : Except UsageError Progress :=
  let (name, value) := match spelling.cutAt? '=' with
    | some (name, value) => (name, some value)
    | none => (spelling, none)
  match ValueOption.ofName? name with
  | some option => p.readOption option value
  | none =>
    if name = "help".toList then
      if value.isSome then .error .unexpectedValue else p.askHelp
    else .error .unknownArgument

/-- Reads what stands after one dash: a letter, and the value of its option. -/
def readShort (p : Progress) (letter : Char) (rest : Text) : Except UsageError Progress :=
  match ValueOption.ofLetter? letter with
  | some option =>
    let value := match rest with
      | [] => none
      | '=' :: value => some value
      | value => some value
    p.readOption option value
  | none => if letter = 'h' then p.askHelp else .error .unknownArgument

/-- Reads an argument that is no option where no value is expected. -/
def readTemplate (p : Progress) (argument : Text) : Except UsageError Progress :=
  if p.template.isSome then .error .unknownArgument
  else do return { ← p.settle with template := some argument }

/-- Reads an argument that is no option. -/
def readValue (p : Progress) (argument : Text) : Except UsageError Progress :=
  match p.waiting with
  | some (option, none) => .ok { p with waiting := some (option, some argument) }
  | _ => p.readTemplate argument

/-- Reads the arguments in order; after two dashes alone none of them is an option. -/
def readAll (p : Progress) : List Text → Except UsageError Progress
  | [] => p.settle
  | ['-', '-'] :: rest => rest.foldlM readTemplate p >>= settle
  | ('-' :: '-' :: spelling) :: rest => do (← p.readLong spelling).readAll rest
  | ('-' :: letter :: more) :: rest => do (← p.readShort letter more).readAll rest
  | argument :: rest => do (← p.readValue argument).readAll rest

/-- The arguments of a render, with a template from one place at most. -/
def finish (p : Progress) : Except UsageError RenderArguments :=
  if p.template.isSome && p.file.isSome then .error .conflict
  else .ok
    { template := p.template, file := p.file, pairs := p.pairs, variablesFile := p.variablesFile,
      output := p.output.getD .text, color := p.color.getD .auto }

end Progress

/-- Reads the arguments of the command `render`. -/
def renderArguments (arguments : List Text) : Except UsageError RenderArguments := do
  (← ({} : Progress).readAll arguments).finish

/-- The names of the commands. -/
def commandNames : List Text :=
  ["render".toList, "help".toList]

/-- What comes of options before the command. -/
def leadingOption (spelling : Text) : UsageError :=
  let (name, hasValue) := match spelling.cutAt? '=' with
    | some (name, _) => (name, true)
    | none => (spelling, false)
  if name = "help".toList then if hasValue then .unexpectedValue else .help
  else if name = "version".toList then if hasValue then .unexpectedValue else .version
  else .unknownArgument

/-- What comes of a short option before the command. -/
def leadingLetter : Char → UsageError
  | 'h' => .help
  | 'V' => .version
  | _ => .unknownArgument

/-- What comes of asking for help on a command. -/
def helpOn : List Text → UsageError
  | [] => .help
  | [name] => if commandNames.contains name then .help else .unknownCommand
  | _ => .unknownCommand

/-- Reads the command and its arguments. -/
def parseArguments : List Text → Except UsageError RenderArguments
  | [] => .error .noCommand
  | [['-', '-']] => .error .noCommand
  | ['-', '-'] :: name :: _ =>
    .error (if commandNames.contains name then .unknownArgument else .unknownCommand)
  | ('-' :: '-' :: spelling) :: _ => .error (leadingOption spelling)
  | ('-' :: letter :: _) :: _ => .error (leadingLetter letter)
  | name :: arguments =>
    if name = "render".toList then renderArguments arguments
    else if name = "help".toList then .error (helpOn arguments)
    else .error .unknownCommand

end Command
end StyledMarkup
