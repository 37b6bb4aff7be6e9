import Tabular.Proofs.Integer.Unbounded
import Tabular.Proofs.Query.Cells
import Tabular.Proofs.Query.Printable
import Tabular.Proofs.Query.Running
import Tabular.Proofs.Query.Spelling
import Tabular.Proofs.Text.Utf8
import Tabular.Table

namespace Tabular

open Log Text Query

/-!
# Querying tables

A query text is read without the table, and only then run on its rows.  What
is known of reading and what is known of running therefore combine.

The rows that hold a given value are asked for by a comparison whose literal is
the printed value.  Of the value this requires only that it does not hold the
operator set apart by spaces, since the literal stands in quotes of its own.
-/

/-! ## Searching for a value -/

/-- A printed value is accepted by the cells that hold it, among those of its kind. -/
theorem Comparison.accepts_display {cell value : Cell} (column : String)
    (same : cell.kind = value.kind) :
    (Comparison.mk column .equal value.display).accepts cell = true ↔ cell = value := by
  cases value with
  | number word =>
      cases cell with
      | text content => cases same
      | number other =>
          have printed : Integer.leadingInteger? (Cell.number word).display.toList =
              some word.toInt := by
            rw [Cell.display, Integer.decimalText, String.toList_ofList,
              ← List.append_nil (Integer.decimal word)]
            exact Integer.leadingInteger?_decimal word nofun
          rw [accepts_number, printed]
          simp only [Option.some.injEq, exists_eq_left', Operator.Relates, Int64.toInt_inj,
            Cell.number.injEq]
  | text content =>
      cases cell with
      | number word => cases same
      | text other =>
          rw [accepts, Cell.order?, Option.any_some, Operator.holds, Ordering.isEq_iff_eq_eq,
            compareUtf8_eq_iff, Cell.display, Cell.text.injEq]

namespace Query

/-- The query for the rows that hold a value under a column. -/
def search (names : List String) (column : String) (value : Cell) : Query where
  projection := names
  clause := .applied ⟨column, .equal, value.display⟩

/-- The text of that query. -/
def searchText (names : List String) (column : String) (value : Cell) : String :=
  "PROJECT " ++ ", ".intercalate names ++ " FILTER " ++ column ++ " = \"" ++ value.display ++ "\""

/-- The columns that can be searched, whatever the value is. -/
structure SearchableColumn (column : String) : Prop where
  filled : column ≠ ""
  start : ∀ head ∈ column.toList.head?, isBlank head = false
  plain : ∀ operator : Operator, operator.symbol ∉ column.toList

/-- The names that can be asked for in front of a clause. -/
structure AskableNames (names : List String) : Prop
    extends ReadableNames names, SeparateNames names

variable {names : List String} {column : String} {value : Cell} {operator : Operator}

theorem searchText_eq_display (names : List String) (column : String) (value : Cell) :
    searchText names column value = (search names column value).display := by
  apply String.toList_inj.mp
  simp only [searchText, search, display, Clause.display, Comparison.display,
    String.toList_append, List.append_assoc]
  rfl

/-- In front of the printed operator nothing in a searchable column is taken for one. -/
theorem SearchableColumn.printable (searchable : SearchableColumn column)
    (free : ¬ paddedSymbol operator <:+: value.display.toList) :
    PrintableComparison ⟨column, operator, value.display⟩ where
  filled := searchable.filled
  start := searchable.start
  free := by
    intro inside
    exact searchable.plain operator (inside.subset (by simp [paddedSymbol]))
  apart := by
    intro behind
    exact searchable.plain operator (behind.subset (by simp))
  leftmost := by
    intro found first
    rcases List.exists_of_findSome?_eq_some first with ⟨character, member, symbol⟩
    rw [ofSymbol?_eq_some_iff.mp symbol] at member
    exact absurd member (searchable.plain found)
  literalFree := free

/-- The search for a value is read from its text. -/
theorem parse_searchText (askable : AskableNames names) (searchable : SearchableColumn column)
    (free : ¬ paddedSymbol .equal <:+: value.display.toList) :
    (parse (searchText names column value)).outcome = .ok (search names column value) := by
  have printable : PrintableClause (search names column value).clause :=
    searchable.printable free
  rcases exists_read_of_printable printable nofun with ⟨part, filled, trimmed, read⟩
  rcases exists_printed_clause filled trimmed read with
    ⟨printed, display, visible, printedTrimmed, printedRead⟩
  rw [searchText_eq_display, parse_display_printed askable.toReadableNames display visible
    printedTrimmed printedRead]
  exact askable.toSeparateNames

/-- A row is found exactly when it holds the value. -/
theorem keeps_search_iff {row : Row} {cell : Cell} (found : row.get? column = some cell)
    (same : cell.kind = value.kind) :
    (search names column value).Keeps row ↔ row.get? column = some value := by
  have verdict : (keeps row (search names column value).comparison?).outcome =
      .ok (Comparison.accepts ⟨column, .equal, value.display⟩ cell) :=
    keeps_of_get? found
  rw [Keeps, verdict, Except.ok.injEq, Comparison.accepts_display column same, found,
    Option.some.injEq]

end Query

/-! ## Answers of a table -/

namespace Table

variable {table : Table} {text front : String} {query : Query} {names : List String}
  {column : String} {value : Cell} {comparison : Comparison}

/-- A text that can be read is answered by running what was read. -/
theorem query_outcome_of_parse (read : (parse text).outcome = .ok query) :
    (table.query text).outcome = (query.run table.rows).outcome.mapError Error.evaluation := by
  rw [Table.query, Logged.bind_outcome, prepare, Logged.mapError_outcome, read, ok_mapError,
    ok_bind, execute, Logged.mapError_outcome]

/-- Where every row holds some value of the kind under the column, the search
succeeds, and yields the projections of the rows that hold the value. -/
theorem query_searchText (askable : AskableNames names) (searchable : SearchableColumn column)
    (free : ¬ paddedSymbol .equal <:+: value.display.toList)
    (held : ∀ row ∈ table.rows, ∃ cell, row.get? column = some cell ∧ cell.kind = value.kind) :
    (table.query (searchText names column value)).outcome =
      .ok ((table.rows.filter fun row => row.get? column = some value).map
        fun row => row.project names) := by
  have complete : ∀ missing, ¬ (search names column value).Lacks table.rows missing := by
    rintro missing ⟨⟨comparison, clause, rfl⟩, row, member, absent⟩
    cases clause
    rcases held row member with ⟨cell, found, -⟩
    exact absent (Row.mem_columns_iff.mpr ⟨cell, found⟩)
  have kept : table.rows.filter (search names column value).Keeps =
      table.rows.filter fun row => row.get? column = some value := by
    apply List.filter_congr
    intro row member
    rcases held row member with ⟨cell, found, same⟩
    exact decide_eq_decide.mpr (keeps_search_iff found same)
  have answers : ((search names column value).run table.rows).outcome =
      .ok ((table.rows.filter fun row => row.get? column = some value).map
        fun row => row.project names) := by
    rw [run_eq_ok, kept]
    exact ⟨complete, rfl⟩
  rw [query_outcome_of_parse (parse_searchText askable searchable free), answers, ok_mapError]

/-- A text of quotation marks, symbols and spaces is found, and a similar one is not. -/
theorem query_searchText_quotes :
    ((ofRows [Row.ofCells [("a ", .text " '=\" >"), ("b", .number 1)],
        Row.ofCells [("b", .number 2), ("a ", .text "'=\" >")]]).query
          (searchText ["b", "a"] "a " (.text " '=\" >"))).outcome =
      .ok [Row.ofCells [("b", .number 1)]] :=
  query_searchText
    { nonempty := by decide
      trimmed := by decide
      commaFree := by decide
      named := by decide
      unmarked := by decide
      separate := by decide }
    { filled := by decide
      start := by
        intro head first
        cases first
        rfl
      plain := by
        intro operator
        cases operator <;> decide }
    (Text.cut?_eq_none_iff.mp rfl)
    (by decide)

/-- The spelling of a literal matters neither to the query that is read nor to
the answer of any table.  In front of the clause stands any text that does not
bring up a filter mark before its time. -/
theorem query_spelledText
    (marked : Text.Leftmost filterMark (front ++ "FILTER ").toList front.toList [])
    (printable : PrintableComparison comparison) (plain : PlainLiteral comparison.literal) :
    (∀ quoting, (parse (spelledText front comparison quoting)).outcome = .ok
      { projection := readNames (Text.trim front.toList), clause := .applied comparison }) ∧
    ∀ (table : Table) (one other : Quoting),
      (table.query (spelledText front comparison one)).outcome =
        (table.query (spelledText front comparison other)).outcome := by
  have read := parse_spelledText marked printable plain
  refine ⟨read, ?_⟩
  intro table one other
  rw [query_outcome_of_parse (read one), query_outcome_of_parse (read other)]

/-- The literal begins with a space, ends in the operator and holds a filter mark. -/
theorem query_spelledText_mark :
    Text.Leftmost filterMark ("PROJECT a, FILTER" ++ "FILTER ").toList
        "PROJECT a, FILTER".toList [] ∧
      PrintableComparison ⟨"b <>", .lessThan, " = 'x', FILTER \"y\" <"⟩ ∧
      PlainLiteral " = 'x', FILTER \"y\" <" ∧
      (∀ quoting, (parse (spelledText "PROJECT a, FILTER"
          ⟨"b <>", .lessThan, " = 'x', FILTER \"y\" <"⟩ quoting)).outcome = .ok
        { projection := readNames (Text.trim "PROJECT a, FILTER".toList)
          clause := .applied ⟨"b <>", .lessThan, " = 'x', FILTER \"y\" <"⟩ }) ∧
      ∀ (table : Table) (one other : Quoting),
        (table.query (spelledText "PROJECT a, FILTER"
            ⟨"b <>", .lessThan, " = 'x', FILTER \"y\" <"⟩ one)).outcome =
          (table.query (spelledText "PROJECT a, FILTER"
            ⟨"b <>", .lessThan, " = 'x', FILTER \"y\" <"⟩ other)).outcome := by
  have marked : Text.Leftmost filterMark ("PROJECT a, FILTER" ++ "FILTER ").toList
      "PROJECT a, FILTER".toList [] :=
    Text.leftmost_of_cut? rfl
  have printable : PrintableComparison ⟨"b <>", .lessThan, " = 'x', FILTER \"y\" <"⟩ :=
    { filled := by decide
      start := by
        intro head first
        cases first
        rfl
      free := Text.cut?_eq_none_iff.mp rfl
      apart := by decide
      leftmost := by decide
      literalFree := Text.cut?_eq_none_iff.mp rfl }
  have plain : PlainLiteral " = 'x', FILTER \"y\" <" :=
    { filled := by decide
      unopened := by
        intro head first
        cases first
        rfl
      unclosed := by
        intro last final
        cases final
        rfl
      visibleEnd := by
        intro last final
        cases final
        rfl }
  exact ⟨marked, printable, plain, query_spelledText marked printable plain⟩

end Table

end Tabular
