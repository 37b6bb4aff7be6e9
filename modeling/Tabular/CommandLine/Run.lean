import Tabular.CommandLine.Arguments
import Tabular.Table

namespace Tabular
namespace CommandLine

open Log

/-!
# Running queries from the command line

A run opens the log, loads the data, finds the queries and answers them in
order.  A failure of one of the first three ends it with one complaint.  A
query that fails is complained about and the next one is answered.  What a
query contributes to the two outputs does not depend on the others.
-/

/-- Something for the standard error output. -/
inductive Notice where
  /-- An event, written as the log has it. -/
  | event (event : Event)
  /-- A complaint, written always. -/
  | complaint (text : String)

/-- What is written while queries are answered. -/
structure Transcript where
  output : String := ""
  /-- Events and complaints, in the order in which they arose. -/
  notices : List Notice := []
  failed : Bool := false

def Transcript.append (first second : Transcript) : Transcript where
  output := first.output ++ second.output
  notices := first.notices ++ second.notices
  failed := first.failed || second.failed

/-- The transcript of a failure: events that led to it and one complaint. -/
def Transcript.failure (events : List Event) (complaint : String) : Transcript where
  notices := events.map Notice.event ++ [.complaint complaint]
  failed := true

def report (layout : Layout) (query : String) (rows : List Row) : String :=
  match layout with
  | .table =>
      "Query: " ++ query ++ "\n" ++
        String.join (rows.map fun row => "  " ++ row.display ++ "\n") ++
        "(" ++ Integer.naturalText rows.length ++ " rows)\n"
  | .json =>
      Json.object [("query", Json.string query), ("rows", Row.jsonArray rows)] ++ "\n"

def queryComplaint (query : String) (error : Error) : String :=
  "Query: " ++ query ++ "\nError: " ++ error.display ++ "\n"

/-- The complaint that ends a run. -/
def finalComplaint (error : Error) : String :=
  "error: " ++ error.display ++ "\n"

def answer (table : Table) (layout : Layout) (query : String) : Transcript :=
  let result := table.query query
  match result.outcome with
  | .ok rows => { output := report layout query rows, notices := result.events.map Notice.event }
  | .error error =>
      .failure (result.events ++ [.queryFailed query error.display]) (queryComplaint query error)

def answerAll (table : Table) (layout : Layout) : List String → Transcript
  | [] => {}
  | query :: rest => (answer table layout query).append (answerAll table layout rest)

structure Outcome where
  /-- Zero, or one after any failure. -/
  exitCode : UInt32
  output : String
  notices : List Notice
  /-- The log, unless it could not be opened. -/
  channel : Option Channel

namespace Outcome

/-- What goes to the standard error output. -/
def errorOutput (outcome : Outcome) : String :=
  String.join <| outcome.notices.map fun
    | .event event => (outcome.channel.map fun channel => channel.terminalText event).getD ""
    | .complaint text => text

/-- What goes to the file of the log. -/
def fileOutput (outcome : Outcome) : String :=
  String.join <| outcome.notices.map fun
    | .event event => (outcome.channel.map fun channel => channel.fileText event).getD ""
    | .complaint _ => ""

/-- The file of the log, if it has one. -/
def logFile (outcome : Outcome) : Option String :=
  outcome.channel.bind fun channel => channel.settings.output.path?

end Outcome

/-- The log settings the arguments ask for. -/
def settingsOf (arguments : Arguments) : Settings :=
  let settings := ({} : Settings).obeying arguments.logLevel
  match arguments.logFile with
  | some path => settings.writingTo (.both path)
  | none => settings

/-- Open the log, or complain of its level. -/
def openLog (facility : Facility) (settings : Settings) : Except Error Channel :=
  (settings.openOn facility).mapError fun reason =>
    .invalidOperation ("invalid log level '" ++ settings.level ++ "': " ++ reason)

/-- The queries on the standard input: its lines that are not blank. -/
def inputQueries (input : List UInt8) : Except Error (List String) :=
  ((Table.decodeLines input).mapError Error.stream).map fun lines =>
    lines.filter fun line => !(Text.trim line.toList).isEmpty

/-- The queries to answer: those of the arguments or, without any, those of
the standard input. -/
def queriesOf (arguments : Arguments) (input : List UInt8) : Except Error (List String) :=
  if arguments.queries.isEmpty then inputQueries input else .ok arguments.queries

/-- Whether a run comes to read the standard input. -/
def readsInput (facility : Facility) (arguments : Arguments)
    (data : Except StreamError (List UInt8)) : Bool :=
  arguments.queries.isEmpty && (openLog facility (settingsOf arguments)).toBool &&
    (Table.ofFile arguments.format arguments.data data).outcome.toBool

/-- The transcript of a run that ends with one complaint. -/
def abort (events : List Event) (error : Error) : Transcript :=
  .failure (events ++ [.runAborted error.display]) (finalComplaint error)

/-- Answer the queries of a run whose data are loaded. -/
def answerOrComplain (arguments : Arguments) (table : Table) (input : List UInt8) : Transcript :=
  match queriesOf arguments input with
  | .ok queries => answerAll table arguments.layout queries
  | .error error => abort [] error

/-- The transcript of a run whose log is open. -/
def transcript (arguments : Arguments) (data : Except StreamError (List UInt8))
    (input : List UInt8) : Transcript :=
  let loaded := Table.ofFile arguments.format arguments.data data
  match loaded.outcome with
  | .ok table =>
      let start : Transcript := { notices := loaded.events.map Notice.event }
      start.append (answerOrComplain arguments table input)
  | .error error => abort loaded.events error

/-- A whole run, given the content of the data file and of the standard
input. -/
def run (facility : Facility) (arguments : Arguments) (data : Except StreamError (List UInt8))
    (input : List UInt8) : Outcome :=
  match openLog facility (settingsOf arguments) with
  | .error error =>
      { exitCode := 1, output := "", notices := [.complaint (finalComplaint error)]
        channel := none }
  | .ok channel =>
      let transcript := transcript arguments data input
      { exitCode := if transcript.failed then 1 else 0
        output := transcript.output
        notices := transcript.notices
        channel := some channel }

end CommandLine
end Tabular
