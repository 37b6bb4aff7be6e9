import Tabular.Row
import Tabular.Query.Basic

namespace Tabular
namespace Log

/-!
# Events

Reading queries, running them and loading data leave a trail of events.  An
event is data: which thing happened and what it was about.  Its severity, its
sentence and its named fields are functions of that data, so that statements
about a trail need not look into texts.
-/

/-- The severities, from the gravest to the slightest. -/
inductive Level where
  | error
  | warn
  | info
  | debug
  | trace
  deriving DecidableEq, Repr

namespace Level

def all : List Level :=
  [.error, .warn, .info, .debug, .trace]

/-- The place of a severity, counted from the gravest. -/
def rank : Level → Nat
  | .error => 1
  | .warn => 2
  | .info => 3
  | .debug => 4
  | .trace => 5

/-- Whether a threshold lets a severity pass: the threshold itself and
everything graver does. -/
def admits (threshold level : Level) : Bool :=
  level.rank ≤ threshold.rank

/-- The name of a severity, as directives write it. -/
def name : Level → String
  | .error => "error"
  | .warn => "warn"
  | .info => "info"
  | .debug => "debug"
  | .trace => "trace"

def label : Level → String
  | .error => "ERROR"
  | .warn => "WARN"
  | .info => "INFO"
  | .debug => "DEBUG"
  | .trace => "TRACE"

end Level

/-- Something that happened. -/
inductive Event where
  | queryRead (query : Query)
  /-- A clause will not be applied, because its operator is not set apart. -/
  | clauseIgnored (clause : String) (operator : Operator)
  | filterEvaluated (column : String) (cell : Cell) (keep : Bool)
  | queryFinished (scanned returned : Nat) (filtered : Bool)
  | headerMissing
  | dataLoaded (columns rows : Nat)
  /-- A line was cut to the width of the header. -/
  | fieldsDropped (line extra : Nat)
  /-- A column of digits has a value outside the integers of its kind. -/
  | digitsOutOfRange (column : String)
  | fileOpened (path : String)
  | tableLoaded (path : String) (rows : Nat)
  | queryFailed (query error : String)
  /-- A run ended before its queries were answered. -/
  | runAborted (error : String)
  deriving DecidableEq

namespace Event

def level : Event → Level
  | .queryFailed _ _ | .runAborted _ => .error
  | .clauseIgnored _ _ | .fieldsDropped _ _ | .digitsOutOfRange _ => .warn
  | .tableLoaded _ _ => .info
  | .queryRead _ | .queryFinished _ _ _ | .headerMissing | .dataLoaded _ _ | .fileOpened _ =>
      .debug
  | .filterEvaluated _ _ _ => .trace

def message : Event → String
  | .queryRead _ => "read query"
  | .clauseIgnored _ _ => "filter ignored: operator is not surrounded by single spaces"
  | .filterEvaluated _ _ _ => "evaluated filter"
  | .queryFinished _ _ _ => "query finished"
  | .headerMissing => "no header line; empty dataset"
  | .dataLoaded _ _ => "loaded dataset"
  | .fieldsDropped _ _ => "dropping extra fields"
  | .digitsOutOfRange _ => "digits exceed the integer range, column read as text"
  | .fileOpened _ => "loading delimited file"
  | .tableLoaded _ _ => "loaded table"
  | .queryFailed _ _ => "query failed"
  | .runAborted _ => "aborted"

def verdict (yes : Bool) : String :=
  if yes then "true" else "false"

/-- The named fields of an event, as texts. -/
def fields : Event → List (String × String)
  | .queryRead query => [("query", query.display)]
  | .clauseIgnored clause operator => [("clause", clause), ("operator", operator.display)]
  | .filterEvaluated column cell keep =>
      [("column", column), ("cell", cell.display), ("keep", verdict keep)]
  | .queryFinished scanned returned filtered =>
      [("scanned", Integer.naturalText scanned), ("returned", Integer.naturalText returned),
        ("filtered", verdict filtered)]
  | .headerMissing => []
  | .dataLoaded columns rows =>
      [("columns", Integer.naturalText columns), ("rows", Integer.naturalText rows)]
  | .fieldsDropped line extra =>
      [("line", Integer.naturalText line), ("extra", Integer.naturalText extra)]
  | .digitsOutOfRange column => [("column", column)]
  | .fileOpened path => [("path", path)]
  | .tableLoaded path rows => [("path", path), ("rows", Integer.naturalText rows)]
  | .queryFailed query error => [("query", query), ("error", error)]
  | .runAborted error => [("error", error)]

/-- An event on one line: severity, sentence, then the fields. -/
def display (event : Event) : String :=
  event.level.label ++ " " ++ event.message ++
    String.join (event.fields.map fun field => " " ++ field.1 ++ "=" ++ field.2)

end Event
end Log
end Tabular
