import Tabular.Integer
import Tabular.Log.Logged
import Tabular.Row
import Tabular.Text

namespace Tabular

open Log

/-!
# Reading and running queries

A query text is divided at the leftmost filter mark, before anything is trimmed.
In the clause the leftmost operator symbol decides the operator; only where that
operator is set apart by single spaces is the clause a comparison.

Which order a comparison uses is decided by the cell it meets.  A run fails at
the first row that has no cell under the compared column, and yields nothing.
-/

/-! ## Reading -/

namespace Query

/-- Why a text cannot be read as a query. -/
inductive ParseError where
  /-- The clause, trimmed, holds no operator symbol. -/
  | noOperator (clause : String)
  deriving DecidableEq, Repr

def ParseError.message : ParseError → String
  | .noOperator _ => "Operator not found in filter expression"

/-- The word in front of the column names. -/
def projectMark : List Char :=
  "PROJECT ".toList

/-- The word between the column names and the clause. -/
def filterMark : List Char :=
  "FILTER ".toList

/-- An operator set apart by single spaces. -/
def paddedSymbol (operator : Operator) : List Char :=
  [' ', operator.symbol, ' ']

/-- The quotation marks that may enclose a literal. -/
def isQuote (character : Char) : Bool :=
  character = '\'' || character = '"'

/-- A literal without one quotation mark at each end, as far as there is one.
A literal of a single quotation mark becomes empty. -/
def stripQuotes (literal : List Char) : List Char :=
  Text.dropLastIf isQuote (Text.dropFirstIf isQuote literal)

def leftmostOperator? (text : List Char) : Option Operator :=
  text.findSome? Operator.ofSymbol?

/-- The column names of a trimmed part of a query.  The first project mark is
taken out wherever it stands. -/
def readNames (part : List Char) : List String :=
  (Text.pieces ',' (Text.eraseFirst projectMark part)).map fun name =>
    String.ofList (Text.trim name)

/-- Read a clause that is trimmed and not empty. -/
def readClause (text : List Char) : Logged ParseError Clause :=
  match leftmostOperator? text with
  | none => Logged.fail (.noOperator (String.ofList text))
  | some operator =>
      match Text.cut? (paddedSymbol operator) text with
      | none => do
          Logged.emit (.clauseIgnored (String.ofList text) operator)
          pure (.ignored (String.ofList text) operator)
      | some (column, rest) =>
          pure <| .applied
            { column := String.ofList column
              operator := operator
              literal := String.ofList
                (stripQuotes (Text.before (paddedSymbol operator) rest)) }

/-- The part of a text in front of the filter mark and the part behind it,
both trimmed.  Without a mark the second part is empty. -/
def divide (text : List Char) : List Char × List Char :=
  match Text.cut? filterMark text with
  | some (front, behind) => (Text.trim front, Text.trim behind)
  | none => (Text.trim text, [])

def parse (text : String) : Logged ParseError Query := do
  let parts := divide text.toList
  let clause ← if parts.2.isEmpty then pure Clause.absent else readClause parts.2
  let query : Query := { projection := readNames parts.1, clause := clause }
  Logged.emit (.queryRead query)
  pure query

end Query

/-! ## Running -/

/-- Whether an operator holds between two things in the given order. -/
def Operator.holds : Operator → Ordering → Bool
  | .equal, order => order.isEq
  | .greaterThan, order => order.isGT
  | .lessThan, order => order.isLT

/-- The order of a cell relative to a literal, or `none` when the cell is a
number and the literal is not. -/
def Cell.order? (literal : String) : Cell → Option Ordering
  | .number word => (Integer.Literal.read? literal.toList).map (Integer.Literal.order word)
  | .text content => some (Text.compareUtf8 content literal)

def Comparison.accepts (comparison : Comparison) (cell : Cell) : Bool :=
  (cell.order? comparison.literal).any comparison.operator.holds

namespace Query

/-- Why a comparison cannot be evaluated on a row. -/
inductive EvaluationError where
  | missingColumn (column : String)
  deriving DecidableEq, Repr

def EvaluationError.message : EvaluationError → String
  | .missingColumn _ => "Cannot compare values of unsupported types"

/-- Whether a row passes an optional comparison.  Without one every row does,
and nothing is evaluated. -/
def keeps (row : Row) : Option Comparison → Logged EvaluationError Bool
  | none => pure true
  | some comparison =>
      match row.get? comparison.column with
      | none => Logged.fail (.missingColumn comparison.column)
      | some cell => do
          let keep := comparison.accepts cell
          Logged.emit (.filterEvaluated comparison.column cell keep)
          pure keep

/-- What a query makes of one row: the projection of the row, or nothing. -/
def select (query : Query) (row : Row) : Logged EvaluationError (Option Row) := do
  if ← keeps row query.comparison? then
    pure (some (row.project query.projection))
  else
    pure none

/-- Run a query over rows: the kept rows, projected, in the same order. -/
def run (query : Query) (rows : List Row) : Logged EvaluationError (List Row) := do
  let selected ← rows.mapM query.select
  let results := selected.filterMap id
  Logged.emit (.queryFinished rows.length results.length query.comparison?.isSome)
  pure results

end Query
end Tabular
