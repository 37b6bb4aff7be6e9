import Tabular.CommandLine.Run

namespace Tabular
namespace CommandLine

open Log

/-!
# The program

The outermost layer reads files and streams, calls `run`, and writes what it
says.  Every decision about the texts is made there.
-/

def usage : String :=
  "Usage: tabular [OPTIONS] [QUERIES]...\n\n" ++
  "Run PROJECT/FILTER queries over a delimited file.\n\n" ++
  "  -d, --data <FILE>        delimited file with a header line [default: data.csv]\n" ++
  "      --delimiter <CHAR>   field delimiter [default: ,]\n" ++
  "      --strict             reject records with more fields than the header\n" ++
  "  -f, --format <FORMAT>    table or json [default: table]\n" ++
  "      --log-level <LEVEL>  log level [default: warn]\n" ++
  "      --log-file <FILE>    also write logs to this file\n" ++
  "  -h, --help               print help\n" ++
  "  -V, --version            print version\n"

def Refusal.message : Refusal → String
  | .help => "help was asked for"
  | .version => "the version was asked for"
  | .unknownOption argument => "unexpected argument '" ++ argument ++ "'"
  | .missingValue _ => "an option lacks its value"
  | .invalidValue _ value => "invalid value '" ++ value ++ "'"
  | .repeated => "an option cannot be used multiple times"

/-- Name the reason why a file cannot be read. -/
def streamErrorOf : IO.Error → StreamError
  | .noFileOrDirectory _ _ _ => .notFound
  | .inappropriateType _ _ _ => .isDirectory
  | failure => .other failure.toString

def readData (path : String) : IO (Except StreamError (List UInt8)) := do
  try
    return .ok (← IO.FS.readBinFile path).data.toList
  catch failure =>
    return .error (streamErrorOf failure)

/-- The directory part of a path, empty for a bare file name. -/
def directoryOf (path : String) : String :=
  "/".intercalate ((Text.pieces '/' path.toList).dropLast.map String.ofList)

/-- Add text to the end of a file, making its directory if needed. -/
def appendToFile (path text : String) : IO Unit := do
  unless (directoryOf path).isEmpty do
    IO.FS.createDirAll (directoryOf path)
  IO.FS.withFile path .append fun handle => handle.putStr text

/-- The log of the program.  A directive in the environment overrules the arguments. -/
def facility : IO Facility := do
  return { Facility.plain with override := ← IO.getEnv "TABULAR_LOG" }

/-- Run with arguments that are understood. -/
def perform (arguments : Arguments) : IO UInt32 := do
  let facility ← facility
  let data ← readData arguments.data
  let input ←
    if readsInput facility arguments data then (·.data.toList) <$> (← IO.getStdin).readBinToEnd
    else pure []
  let outcome := run facility arguments data input
  if let some path := outcome.logFile then
    appendToFile path outcome.fileOutput
  (← IO.getStdout).putStr outcome.output
  (← IO.getStderr).putStr outcome.errorOutput
  return outcome.exitCode

end CommandLine
end Tabular

def main (arguments : List String) : IO UInt32 := do
  match Tabular.CommandLine.Arguments.parse arguments with
  | .ok understood => Tabular.CommandLine.perform understood
  | .error .help =>
      IO.print Tabular.CommandLine.usage
      return 0
  | .error .version =>
      IO.println "tabular 0.3.0"
      return 0
  | .error refusal =>
      IO.eprintln ("error: " ++ refusal.message)
      return 2
