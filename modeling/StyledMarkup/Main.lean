import StyledMarkup.Command.Run
import StyledMarkup.Json.Reader
import StyledMarkup.Yaml.Value

/-!
# The program

Reads the files and the input that the arguments call for, runs the render, and reports. All that
is decided here is where bytes come from and where they go, and which readers of documents are
used.
-/

namespace StyledMarkup
namespace Command

/-- How to call the program. -/
def usage : String :=
  "Usage: render [TEMPLATE] [--file PATH] [--var KEY=VALUE]... [--vars PATH]\n" ++
  "              [--output text|plain|term|legacy|json|tokens]\n" ++
  "              [--color auto|always|never]\n"

/-- The version of the program. -/
def versionText : String := "0.1.0\n"

/-- What the user is told about arguments that call for no render. -/
def UsageError.report : UsageError → String
  | .unknownArgument => "unexpected argument\n\n" ++ usage
  | .unknownCommand => "unrecognized command\n\n" ++ usage
  | .invalidValue => "missing or invalid value of an option\n\n" ++ usage
  | .unexpectedValue => "unexpected value of an option\n\n" ++ usage
  | .invalidPair => "expected KEY=VALUE\n\n" ++ usage
  | .conflict => "arguments cannot be used together or more than once\n\n" ++ usage
  | .help => usage
  | .version => versionText
  | .noCommand => usage

/-- Whether the report is what has been asked for. -/
def UsageError.isRequested : UsageError → Bool
  | .help => true
  | .version => true
  | _ => false

/-- The failure that an error of the system stands for. -/
def readFailure : IO.Error → ReadFailure
  | .noFileOrDirectory .. => .notFound
  | .inappropriateType .. => .isDirectory
  | error => .other error.toString.toList

/-- Reads bytes, or tells why they cannot be read. -/
def readBytes (source : IO ByteArray) : IO (Except ReadFailure ByteArray) := do
  try return .ok (← source)
  catch error => return .error (readFailure error)

/-- Reads what the arguments call for: their files, and the standard input if nothing else has the
template. -/
def look (arguments : RenderArguments) : IO Surroundings := do
  let paths := arguments.file.toList ++ arguments.variablesFile.toList
  let files ← paths.mapM fun path => do
    return (path, ← readBytes (IO.FS.readBinFile (String.ofList path)))
  let input ←
    if arguments.template.isNone && arguments.file.isNone then
      readBytes (do (← IO.getStdin).readBinToEnd)
    else pure (.ok .empty)
  return {
    input
    file := fun path => (files.lookup path).getD (.error .notFound)
    hasColors := ← (← IO.getStdout).isTty
    outputFailure := none }

/-- The readers of documents that the program uses. -/
def ownReaders : Readers where
  json := Json.parse?
  yaml := Yaml.parse?

/-- Reports a failure. -/
def reportFailure (failure : Failure) : IO UInt32 := do
  IO.eprintln ("Error: " ++ String.ofList failure.message)
  return 1

end Command
end StyledMarkup

open StyledMarkup StyledMarkup.Command in
/-- Runs the program with its arguments. -/
def main (arguments : List String) : IO UInt32 := do
  match parseArguments (arguments.map String.toList) with
  | .error problem =>
    if problem.isRequested then
      IO.print problem.report
      return 0
    else
      IO.eprint ("error: " ++ problem.report)
      return 2
  | .ok arguments =>
    let outcome := run ownReaders (← look arguments) arguments
    match outcome.failure with
    | some failure => reportFailure failure
    | none =>
      try
        IO.print (String.ofList outcome.written)
        (← IO.getStdout).flush
        return 0
      catch error => reportFailure (.output error.toString.toList)
