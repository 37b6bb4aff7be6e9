import Tabular.Log.Logged
import Tabular.Text

namespace Tabular
namespace Delimited

open Log

/-!
# Delimited text

A field that starts with a quotation mark runs to the matching mark, may hold
the delimiter, and writes a mark of its own by doubling it.

Lines are counted from one, blank lines included.  The first line that is not
blank is the header; its names are trimmed, its width bounds the records.  A
longer record is cut, or refused when the format is strict.
-/

/-! ## Records

The splitter passes over the line once, in one of four places, without
look-ahead. -/

/-- Where in a record the next character stands. -/
inductive Place where
  /-- At the start of a field. -/
  | start
  /-- Outside quotes, past the start of the field. -/
  | bare
  /-- Inside quotes. -/
  | quoted
  /-- Directly behind a quotation mark that was met inside quotes. -/
  | behindQuote
  deriving DecidableEq, Repr

/-- Put a character in front of the first of several fields. -/
def prepend (character : Char) (fields : List (List Char)) : List (List Char) :=
  fields.modifyHead (character :: ·)

/-- The fields of the rest of a record.  The first of them is the remainder of
the field that is being read.  There are none when the quotes never close.
At the start of a field a quotation mark opens quotes even if it is also the
delimiter. -/
def splitFrom (delimiter : Char) : Place → List Char → Option (List (List Char))
  | .start, [] => some [[]]
  | .bare, [] => some [[]]
  | .quoted, [] => none
  | .behindQuote, [] => some [[]]
  | .start, head :: rest =>
      if head = '"' then splitFrom delimiter .quoted rest
      else if head = delimiter then (splitFrom delimiter .start rest).map ([] :: ·)
      else (splitFrom delimiter .bare rest).map (prepend head)
  | .bare, head :: rest =>
      if head = delimiter then (splitFrom delimiter .start rest).map ([] :: ·)
      else (splitFrom delimiter .bare rest).map (prepend head)
  | .quoted, head :: rest =>
      if head = '"' then splitFrom delimiter .behindQuote rest
      else (splitFrom delimiter .quoted rest).map (prepend head)
  | .behindQuote, head :: rest =>
      if head = '"' then (splitFrom delimiter .quoted rest).map (prepend head)
      else if head = delimiter then (splitFrom delimiter .start rest).map ([] :: ·)
      else (splitFrom delimiter .bare rest).map (prepend head)

/-- The fields of a line, or `none` when a quoted field is not closed. -/
def fields? (delimiter : Char) (line : List Char) : Option (List String) :=
  (splitFrom delimiter .start line).map fun fields => fields.map String.ofList

/-! ## Documents -/

/-- How a document is written. -/
structure Format where
  delimiter : Char := ','
  /-- Refuse a record wider than the header instead of cutting it. -/
  strict : Bool := false
  deriving DecidableEq, Repr

/-- What can be wrong with a line. -/
inductive Defect where
  | unterminatedQuote
  /-- More fields than the header has names, in a strict format. -/
  | tooManyFields (width found : Nat)
  /-- A defect in the words of whoever found it. -/
  | other (description : String)
  deriving DecidableEq, Repr

def Defect.message : Defect → String
  | .unterminatedQuote => "unterminated quoted field"
  | .tooManyFields width found =>
      "expected at most " ++ Integer.naturalText width ++ " fields, found " ++
        Integer.naturalText found
  | .other description => description

/-- A defect and the number of the line that has it. -/
structure Fault where
  line : Nat
  defect : Defect
  deriving DecidableEq, Repr

structure Document where
  header : List String
  records : List (List String)
  deriving DecidableEq, Repr

/-- A line without one carriage return at its end. -/
def withoutReturn (line : String) : List Char :=
  Text.dropLastIf (decide <| · = '\r') line.toList

/-- The lines that are not blank, each with its number. -/
def contentLines (lines : List String) : List (Nat × List Char) :=
  (lines.zipIdx 1).filterMap fun numbered =>
    let content := withoutReturn numbered.1
    if (Text.trim content).isEmpty then none else some (numbered.2, content)

def readFields (delimiter : Char) (number : Nat) (line : List Char) : Except Fault (List String) :=
  match fields? delimiter line with
  | some fields => .ok fields
  | none => .error { line := number, defect := .unterminatedQuote }

namespace Format

/-- Bring a record to the width of the header. -/
def fit (format : Format) (width number : Nat) (fields : List String) :
    Logged Fault (List String) :=
  if fields.length ≤ width then
    pure fields
  else if format.strict then
    Logged.fail { line := number, defect := .tooManyFields width fields.length }
  else do
    Logged.emit (.fieldsDropped number (fields.length - width))
    pure (fields.take width)

/-- Read one line behind the header as a record. -/
def readRecord (format : Format) (width : Nat) (line : Nat × List Char) :
    Logged Fault (List String) := do
  let fields ← Logged.ofExcept (readFields format.delimiter line.1 line.2)
  format.fit width line.1 fields

/-- Read a document.  Without any line that is not blank there is none. -/
def readDocument (format : Format) (lines : List String) : Logged Fault (Option Document) :=
  match contentLines lines with
  | [] => pure none
  | first :: rest => do
      let names ← Logged.ofExcept (readFields format.delimiter first.1 first.2)
      let records ← rest.mapM (format.readRecord names.length)
      pure <| some
        { header := names.map fun name => String.ofList (Text.trim name.toList)
          records := records }

end Format
end Delimited
end Tabular
