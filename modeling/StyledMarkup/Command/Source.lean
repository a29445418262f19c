import StyledMarkup.Command.Arguments
import StyledMarkup.Json.Path

/-!
# Where template and values come from

A template is an argument, the content of a file, or what stands at the standard input, without
the line end that ends it. Values come from a file of variables, which must hold a mapping, and
from pairs among the arguments, which win over the file.

What is a document in one of the two notations is left to readers that are passed in.
-/

namespace StyledMarkup
namespace Command

/-- Why bytes cannot be read as text. -/
inductive ReadFailure where
  | notFound
  | isDirectory
  | notADirectory
  /-- The bytes are no UTF-8. -/
  | invalidEncoding
  | other (message : Text)
deriving DecidableEq, Inhabited

/-- The message of the failure. -/
def ReadFailure.message : ReadFailure → Text
  | notFound => "No such file or directory (os error 2)".toList
  | isDirectory => "Is a directory (os error 21)".toList
  | notADirectory => "Not a directory (os error 20)".toList
  | invalidEncoding => "stream did not contain valid UTF-8".toList
  | other message => message

/-- The readers of documents, for each notation that a file of variables may have. They give
nothing for a text that is no document. -/
structure Readers where
  json : Text → Option Json
  yaml : Text → Option Json

/-- What the program finds around it. -/
structure Surroundings where
  input : Except ReadFailure ByteArray
  file : Text → Except ReadFailure ByteArray
  /-- Whether the terminal is known to show colors. -/
  hasColors : Bool
  /-- Why the output cannot be written, if it cannot. -/
  outputFailure : Option Text

/-- Why a render fails. -/
inductive Failure where
  | templateFile (path : Text) (cause : ReadFailure)
  | templateInput (cause : ReadFailure)
  | variablesFile (path : Text) (cause : ReadFailure)
  | invalidJson (path : Text)
  | invalidYaml (path : Text)
  | notAMapping (path : Text)
  | output (cause : Text)
deriving DecidableEq, Inhabited

/-- The message of the failure, with its cause behind it where it came from outside. -/
def Failure.message : Failure → Text
  | templateFile path cause =>
    "failed to read template ".toList ++ path ++ ": ".toList ++ cause.message
  | templateInput cause => "failed to read template from stdin: ".toList ++ cause.message
  | variablesFile path cause =>
    "failed to read variables file ".toList ++ path ++ ": ".toList ++ cause.message
  | invalidJson path => "invalid JSON in ".toList ++ path
  | invalidYaml path => "invalid YAML in ".toList ++ path
  | notAMapping path =>
    "variables file ".toList ++ path ++ " must contain a mapping at the top level".toList
  | output cause => "failed to write output: ".toList ++ cause

/-- The text of bytes that have been read. -/
def decode (bytes : Except ReadFailure ByteArray) : Except ReadFailure Text := do
  match String.fromUTF8? (← bytes) with
  | some s => return s.toList
  | none => throw .invalidEncoding

/-- The text without the line end at its end, if there is one. -/
def dropLineEnd (t : Text) : Text :=
  match t.reverse with
  | '\n' :: '\r' :: rest => rest.reverse
  | '\n' :: rest => rest.reverse
  | _ => t

/-- The source of the template: an argument, else a file, else the standard input. -/
def loadTemplate (surroundings : Surroundings) (arguments : RenderArguments) :
    Except Failure Text :=
  match arguments.template, arguments.file with
  | some template, _ => .ok template
  | none, some path => (decode (surroundings.file path)).mapError (.templateFile path)
  | none, none => ((decode surroundings.input).mapError .templateInput).map dropLineEnd

/-- The last part of a path, passing over slashes at its end. -/
def fileName (path : Text) : Text :=
  ((path.reverse.dropWhile (· == '/')).takeWhile (· != '/')).reverse

/-- What follows the last dot of a file name, unless the name starts with that dot. -/
def extension? (path : Text) : Option Text :=
  let name := fileName path
  let ending := (name.reverse.takeWhile (· != '.')).reverse
  if name = "..".toList || ending.length + 1 ≥ name.length then none else some ending

/-- Whether a file is read as JSON, by the ending of its name in any case. -/
def isJsonPath (path : Text) : Bool :=
  match extension? path with
  | some ending => ending.map Char.toLower == "json".toList
  | none => false

/-- The named parts of a file of variables. -/
def readVariables (readers : Readers) (surroundings : Surroundings) (path : Text) :
    Except Failure (Table Text) := do
  let content ← (decode (surroundings.file path)).mapError (.variablesFile path)
  let document ←
    if isJsonPath path then
      match readers.json content with
      | some document => pure document
      | none => throw (.invalidJson path)
    else
      match readers.yaml content with
      | some document => pure document
      | none => throw (.invalidYaml path)
  if document.isObject then return document.flatten else throw (.notAMapping path)

/-- The values of a render: those of the file, and the pairs over them in order. -/
def loadValues (readers : Readers) (surroundings : Surroundings) (arguments : RenderArguments) :
    Except Failure (Table Text) := do
  let fromFile ← match arguments.variablesFile with
    | some path => readVariables readers surroundings path
    | none => pure .empty
  return fromFile.insertAll arguments.pairs

end Command
end StyledMarkup
