import Tabular.Row

namespace Tabular

/-!
# Queries

A query names the columns to keep and may restrict the rows by one clause, a
comparison of a column with a literal.  A clause whose operator is not set apart
by single spaces is remembered as it was written and restricts nothing.  In the
printed form of a query the literal is always quoted.
-/

/-- The comparisons a filter can make. -/
inductive Operator where
  | equal
  | greaterThan
  | lessThan
  deriving DecidableEq, Repr

namespace Operator

/-- All operators.  The order is the one in which a symbol is looked up. -/
def all : List Operator :=
  [.equal, .greaterThan, .lessThan]

/-- The character that writes an operator. -/
def symbol : Operator → Char
  | .equal => '='
  | .greaterThan => '>'
  | .lessThan => '<'

/-- The operator a character writes. -/
def ofSymbol? (character : Char) : Option Operator :=
  all.find? fun operator => operator.symbol = character

def display (operator : Operator) : String :=
  String.singleton operator.symbol

/-- An operator as a JSON document: its name in words. -/
def json : Operator → String
  | .equal => Json.string "Equal"
  | .greaterThan => Json.string "GreaterThan"
  | .lessThan => Json.string "LessThan"

theorem ofSymbol?_symbol (operator : Operator) : ofSymbol? operator.symbol = some operator := by
  cases operator <;> decide

end Operator

/-- A column compared with a literal.  The literal is kept as text; whether it
is read as a number is decided by the cell it meets. -/
structure Comparison where
  column : String
  operator : Operator
  literal : String
  deriving DecidableEq, Repr

namespace Comparison

/-- The printed form of a comparison, its literal in double quotes. -/
def display (comparison : Comparison) : String :=
  comparison.column ++ " " ++ comparison.operator.display ++ " \"" ++ comparison.literal ++ "\""

def json (comparison : Comparison) : String :=
  Json.object [("column", Json.string comparison.column), ("operator", comparison.operator.json),
    ("value", Json.string comparison.literal)]

end Comparison

/-- What a query says about the rows to keep. -/
inductive Clause where
  | absent
  | applied (comparison : Comparison)
  | ignored (text : String) (operator : Operator)
  deriving DecidableEq, Repr

namespace Clause

def comparison? : Clause → Option Comparison
  | .applied comparison => some comparison
  | _ => none

def isIgnored : Clause → Bool
  | .ignored _ _ => true
  | _ => false

/-- The printed form of a clause, with the word that introduces it. -/
def display : Clause → String
  | .absent => ""
  | .applied comparison => " FILTER " ++ comparison.display
  | .ignored text _ => " FILTER " ++ text

def json : Clause → String
  | .absent => Json.string "None"
  | .applied comparison => Json.object [("Comparison", comparison.json)]
  | .ignored text operator =>
      Json.object [("Ignored",
        Json.object [("text", Json.string text), ("operator", operator.json)])]

end Clause

/-- The columns to keep, in order, and the clause on the rows. -/
structure Query where
  projection : List String
  clause : Clause
  deriving DecidableEq, Repr

namespace Query

def comparison? (query : Query) : Option Comparison :=
  query.clause.comparison?

def display (query : Query) : String :=
  "PROJECT " ++ ", ".intercalate query.projection ++ query.clause.display

def json (query : Query) : String :=
  Json.object [("projection", Json.array (query.projection.map Json.string)),
    ("filter", query.clause.json)]

end Query
end Tabular
