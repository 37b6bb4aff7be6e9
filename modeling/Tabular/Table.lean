import Tabular.Delimited
import Tabular.Query.Semantics
import Tabular.Schema

namespace Tabular

open Log Delimited

/-!
# Tables

A table is a list of rows with a schema that describes them.  Delimited data
become a table in three steps: the lines are read as a document, the schema is
inferred from its records, and every record is typed by that schema.  Bytes are
divided into lines and decoded before any line is read.
-/

/-! ## Errors

The failures of the parts are gathered into one type.  An error displays as its
area and its cause. -/

/-- Why a stream cannot be read. -/
inductive StreamError where
  /-- The bytes do not encode a text. -/
  | invalidUtf8
  | notFound
  | isDirectory
  /-- Another failure, in the words of the system. -/
  | other (description : String)
  deriving DecidableEq, Repr

def StreamError.message : StreamError → String
  | .invalidUtf8 => "stream did not contain valid UTF-8"
  | .notFound => "No such file or directory (os error 2)"
  | .isDirectory => "Is a directory (os error 21)"
  | .other description => description

/-- Any failure of an operation on tables. -/
inductive Error where
  | parse (cause : Query.ParseError)
  | evaluation (cause : Query.EvaluationError)
  /-- Data or queries cannot be read from a stream. -/
  | stream (cause : StreamError)
  | data (fault : Delimited.Fault)
  | serialization (reason : String)
  /-- An operation makes no sense where it was asked for. -/
  | invalidOperation (reason : String)
  deriving DecidableEq, Repr

namespace Error

def display : Error → String
  | .parse cause => "Parse error: " ++ cause.message
  | .evaluation cause => "Evaluation error: " ++ cause.message
  | .stream cause => "I/O error: " ++ cause.message
  | .data fault =>
      "Ingest error at line " ++ Integer.naturalText fault.line ++ ": " ++
        fault.defect.message
  | .serialization reason => "Serialization error: " ++ reason
  | .invalidOperation reason => "Invalid operation: " ++ reason

/-- The displayed text of the error behind an error. -/
def source? : Error → Option String
  | .parse cause => some cause.message
  | .evaluation cause => some cause.message
  | .stream cause => some cause.message
  | _ => none

end Error

/-! ## Queries on tables -/

/-- Rows and the kinds of their columns. -/
structure Table where
  schema : Schema
  rows : List Row

namespace Table

def empty : Table where
  schema := Schema.empty
  rows := []

/-- A table of rows that are typed already.  The schema is collected from them. -/
def ofRows (rows : List Row) : Table where
  schema := Schema.ofRows rows
  rows := rows

def size (table : Table) : Nat :=
  table.rows.length

def isEmpty (table : Table) : Bool :=
  table.rows.isEmpty

/-- Read a query without running it.  No table is consulted, so a prepared
query can be run on any. -/
def prepare (text : String) : Logged Error Query :=
  (Query.parse text).mapError Error.parse

def execute (table : Table) (query : Query) : Logged Error (List Row) :=
  (query.run table.rows).mapError Error.evaluation

/-- Read a query and run it on the rows of a table. -/
def query (table : Table) (text : String) : Logged Error (List Row) := do
  table.execute (← prepare text)

/-! ## Loading -/

/-- The error for a field that does not suit the kind its column was given. -/
def misfit (name field : String) (reason : Integer.WordError) : Error :=
  .invalidOperation
    ("column " ++ name ++ " cell " ++ Text.quoted field ++ ": " ++ reason.message)

/-- The named cells of a record under a schema, up to the shorter of the two. -/
def typeRecord (schema : Schema) (record : List String) : Except Error (List (String × Cell)) :=
  (schema.columns.zip record).mapM fun entry =>
    match Schema.typeField entry.1.2 entry.2 with
    | .ok cell => .ok (entry.1.1, cell)
    | .error reason => .error (misfit entry.1.1 entry.2 reason)

def rowOf (schema : Schema) (record : List String) : Except Error Row :=
  (typeRecord schema record).map Row.ofCells

def ofDocument (document : Document) : Logged Error Table := do
  let schema ← Schema.infer document.header document.records
  let rows ← Logged.ofExcept (document.records.mapM (rowOf schema))
  Logged.emit (.dataLoaded schema.size rows.length)
  pure { schema := schema, rows := rows }

/-- Load a table from lines.  Without a header line the table is empty. -/
def ofLines (format : Format) (lines : List String) : Logged Error Table := do
  match ← (format.readDocument lines).mapError Error.data with
  | some document => ofDocument document
  | none =>
      Logged.emit .headerMissing
      pure empty

def ofText (format : Format) (text : String) : Logged Error Table :=
  ofLines format (Text.lines text)

/-- The lines of a sequence of bytes, decoded one by one. -/
def decodeLines (bytes : List UInt8) : Except StreamError (List String) :=
  match (Text.linesOf 10 13 bytes).mapM Text.ofUtf8? with
  | some lines => .ok lines
  | none => .error .invalidUtf8

def ofBytes (format : Format) (bytes : List UInt8) : Logged Error Table := do
  let lines ← Logged.ofExcept ((decodeLines bytes).mapError Error.stream)
  ofLines format lines

/-- Load a table from a file, given its path and its content or the failure to
read it. -/
def ofFile (format : Format) (path : String) (content : Except StreamError (List UInt8)) :
    Logged Error Table := do
  Logged.emit (.fileOpened path)
  let table ← ofBytes format (← Logged.ofExcept (content.mapError Error.stream))
  Logged.emit (.tableLoaded path table.size)
  pure table

end Table
end Tabular
