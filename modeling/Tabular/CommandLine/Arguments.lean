import Tabular.Delimited
import Tabular.Log.Settings

namespace Tabular
namespace CommandLine

/-!
# Command line arguments

Options are written with one or two hyphens, in any order and mixed with the
queries; behind a bare double hyphen everything is a query.  The value of an
option follows as the next argument or behind an equals sign.  An option may
be given once.  A value that starts with a hyphen and is longer than it is
taken for an option, and so is missing as a value.
-/

/-- How results are written. -/
inductive Layout where
  /-- One line per row. -/
  | table
  /-- One JSON document per query. -/
  | json
  deriving DecidableEq, Repr

/-- The options that take a value. -/
inductive ValueOption where
  | data
  | delimiter
  | layout
  | logLevel
  | logFile
  deriving DecidableEq, Repr

/-- What was asked for. -/
structure Arguments where
  data : String := "data.csv"
  format : Delimited.Format := {}
  layout : Layout := .table
  logLevel : String := "warn"
  logFile : Option String := none
  /-- The queries.  Without any they come from the standard input. -/
  queries : List String := []
  deriving DecidableEq, Repr

/-- Why nothing is run. -/
inductive Refusal where
  | help
  | version
  | unknownOption (argument : String)
  | missingValue (option : ValueOption)
  | invalidValue (option : ValueOption) (value : String)
  | repeated
  deriving DecidableEq, Repr

/-- One argument by its form. -/
inductive Token where
  | query (text : String)
  | restAreQueries
  | strict
  | help
  | version
  | option (option : ValueOption) (value : Option String)
  | unknown

def longNames : List (String × ValueOption) :=
  [("--data", .data), ("--delimiter", .delimiter), ("--format", .layout),
    ("--log-level", .logLevel), ("--log-file", .logFile)]

def shortNames : List (Char × ValueOption) :=
  [('d', .data), ('f', .layout)]

/-- Whether an argument has the form of an option. -/
def looksLikeOption (argument : String) : Bool :=
  match argument.toList with
  | '-' :: _ :: _ => true
  | _ => false

/-- A short option with what follows it in the same argument. -/
def shortToken (name : Char) (rest : List Char) : Token :=
  if name = 'h' then .help
  else if name = 'V' then .version
  else
    match shortNames.lookup name, rest with
    | none, _ => .unknown
    | some option, [] => .option option none
    | some option, '=' :: value => .option option (some (String.ofList value))
    | some option, value => .option option (some (String.ofList value))

/-- A long option, with or without a value behind an equals sign. -/
def longToken (argument : List Char) : Token :=
  match Text.cut? ['='] argument with
  | none =>
      let name := String.ofList argument
      if name = "--strict" then .strict
      else if name = "--help" then .help
      else if name = "--version" then .version
      else ((longNames.lookup name).map fun option => Token.option option none).getD .unknown
  | some (name, value) =>
      ((longNames.lookup (String.ofList name)).map fun option =>
        Token.option option (some (String.ofList value))).getD .unknown

/-- The form of an argument. -/
def tokenOf (argument : String) : Token :=
  match argument.toList with
  | ['-', '-'] => .restAreQueries
  | '-' :: '-' :: _ => longToken argument.toList
  | '-' :: name :: rest => shortToken name rest
  | _ => .query argument

def layoutOf? (name : String) : Option Layout :=
  if name = "table" then some .table
  else if name = "json" then some .json
  else none

namespace Arguments

/-- Set one option, if the value suits it. -/
def set (arguments : Arguments) (option : ValueOption) (value : String) :
    Except Refusal Arguments :=
  match option, value.toList with
  | .data, _ :: _ => .ok { arguments with data := value }
  | .delimiter, [character] =>
      .ok { arguments with format := { arguments.format with delimiter := character } }
  | .layout, _ =>
      match layoutOf? value with
      | some layout => .ok { arguments with layout := layout }
      | none => .error (.invalidValue .layout value)
  | .logLevel, _ => .ok { arguments with logLevel := value }
  | .logFile, _ :: _ => .ok { arguments with logFile := some value }
  | refused, _ => .error (.invalidValue refused value)

/-- What is still to be remembered while arguments are read. -/
structure Progress where
  arguments : Arguments := {}
  seen : List ValueOption := []
  /-- The option whose value comes next. -/
  awaiting : Option ValueOption := none

def Progress.take (progress : Progress) (option : ValueOption) (value : String) :
    Except Refusal Progress :=
  if option ∈ progress.seen then
    .error .repeated
  else
    (progress.arguments.set option value).map fun arguments =>
      { arguments := arguments, seen := option :: progress.seen }

def Progress.takeQueries (progress : Progress) (texts : List String) : Progress :=
  { progress with
    arguments :=
      { progress.arguments with queries := progress.arguments.queries ++ texts } }

def Progress.takeStrict (progress : Progress) : Except Refusal Progress :=
  if progress.arguments.format.strict then
    .error .repeated
  else
    let format := { progress.arguments.format with strict := true }
    .ok { progress with arguments := { progress.arguments with format := format } }

/-- Read one argument.  `none` says that all further ones are queries. -/
def Progress.read (progress : Progress) (argument : String) : Except Refusal (Option Progress) :=
  match progress.awaiting with
  | some option =>
      if looksLikeOption argument then .error (.missingValue option)
      else (progress.take option argument).map some
  | none =>
      match tokenOf argument with
      | .query text => .ok (some (progress.takeQueries [text]))
      | .restAreQueries => .ok none
      | .strict => progress.takeStrict.map some
      | .help => .error .help
      | .version => .error .version
      | .option option none => .ok (some { progress with awaiting := some option })
      | .option option (some value) => (progress.take option value).map some
      | .unknown => .error (.unknownOption argument)

def parseFrom (progress : Progress) : List String → Except Refusal Arguments
  | [] =>
      match progress.awaiting with
      | some option => .error (.missingValue option)
      | none => .ok progress.arguments
  | argument :: rest =>
      match progress.read argument with
      | .ok (some next) => parseFrom next rest
      | .ok none => .ok (progress.takeQueries rest).arguments
      | .error refusal => .error refusal

/-- Read the arguments of the program. -/
def parse (arguments : List String) : Except Refusal Arguments :=
  parseFrom {} arguments

end Arguments
end CommandLine
end Tabular
