import Tabular.Integer
import Tabular.Log.Logged
import Tabular.Row

namespace Tabular

open Log

/-!
# Schemas

Of untyped records a schema is inferred by position: a column holds numbers when
some record reaches it and every field there is a numeral that fits.  Of typed
rows it is collected by name: a column holds numbers unless some row has a text
in it.  Names may repeat in an inferred schema.
-/

/-- Columns and their kinds, in order. -/
structure Schema where
  columns : List (String × Kind)
  deriving DecidableEq, Repr

namespace Schema

def empty : Schema where
  columns := []

def names (schema : Schema) : List String :=
  schema.columns.map Prod.fst

/-- The kind of the first column with the given name. -/
def kind? (schema : Schema) (name : String) : Option Kind :=
  schema.columns.lookup name

def size (schema : Schema) : Nat :=
  schema.columns.length

def isEmpty (schema : Schema) : Bool :=
  schema.columns.isEmpty

def json (schema : Schema) : String :=
  Json.object [("columns",
    Json.array (schema.columns.map fun column =>
      Json.array [Json.string column.1, column.2.json]))]

/-- Whether a field can stand in a column of numbers. -/
def isNumeral (field : String) : Bool :=
  Integer.isDigitRun field.toList && (Integer.parse field.toList).isOk

/-- The fields of the records that reach a position. -/
def fieldsAt (position : Nat) (records : List (List String)) : List String :=
  records.filterMap fun record => record[position]?

/-- The kind of a column with the given fields. -/
def kindOf (fields : List String) : Kind :=
  if !fields.isEmpty && fields.all isNumeral then .number else .text

/-- One pass over fields, which stops at the first that is not a run of digits:
whether it came to the end, and whether a value on its way did not fit.  The
flag says whether one did not before. -/
def scanDigits (large : Bool) : List String → Bool × Bool
  | [] => (true, large)
  | field :: rest =>
      let digits := Integer.isDigitRun field.toList
      let large := large || (digits && !isNumeral field)
      if digits then scanDigits large rest else (false, large)

/-- Whether only the size of a value keeps a column from holding numbers: all
fields are runs of digits, and some value does not fit. -/
def overflows (fields : List String) : Bool :=
  let (digits, large) := scanDigits false fields
  digits && large

def inferColumn {ε : Type} (name : String) (fields : List String) : Logged ε (String × Kind) := do
  if kindOf fields = .text ∧ overflows fields then
    Logged.emit (.digitsOutOfRange name)
  pure (name, kindOf fields)

/-- Infer the columns of untyped records under a header. -/
def infer {ε : Type} (header : List String) (records : List (List String)) : Logged ε Schema := do
  let columns ← header.zipIdx.mapM fun named => inferColumn named.1 (fieldsAt named.2 records)
  pure { columns := columns }

/-- Note the kind of one cell among the columns seen so far.  Once a column
holds a text it stays a column of texts. -/
def note (name : String) (kind : Kind) : List (String × Kind) → List (String × Kind)
  | [] => [(name, kind)]
  | column :: rest =>
      if column.1 = name then
        (column.1, if kind = .text then .text else column.2) :: rest
      else
        column :: note name kind rest

/-- The columns of typed rows, in the order in which they are first seen. -/
def ofRows (rows : List Row) : Schema where
  columns :=
    (rows.flatMap Row.cells).foldl (fun columns entry => note entry.1 entry.2.kind columns) []

/-- Type a field as the kind of its column demands. -/
def typeField (kind : Kind) (field : String) : Except Integer.WordError Cell :=
  match kind with
  | .number => (Integer.parse field.toList).map Cell.number
  | .text => .ok (.text field)

end Schema
end Tabular
