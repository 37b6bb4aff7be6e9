import Tabular.Proofs.Query.Running
import Tabular.Proofs.Table.Agreement
import Tabular.Proofs.Table.Positions
import Tabular.Proofs.Table.Reordering

namespace Tabular

open Log Delimited Query

/-!
# Comparing columns that records do not reach

A row of a loaded table has a name if its record reaches any of the positions
under that name, and the first of them is reached most easily.  So it is the
first position that decides whether a run fails, although the row takes its cell
from the last.
-/

/-- The fields of the lines that are not blank, as far as they can be split. -/
def Delimited.Format.splitLines (format : Format) (lines : List String) : List (List String) :=
  (visibleLines lines).filterMap (fields? format.delimiter)

/-- The names in the header, trimmed. -/
def Delimited.Format.columnNames (format : Format) (lines : List String) : List String :=
  ((format.splitLines lines).headD []).map trimmedName

/-- The fields of each line behind the header. -/
def Delimited.Format.fieldLists (format : Format) (lines : List String) : List (List String) :=
  (format.splitLines lines).tail

/-- No first position under the name, or a record that ends in front of it.
Fields without a name do not count. -/
def Delimited.Format.Unreached (format : Format) (lines : List String) (column : String) : Prop :=
  column ∉ format.columnNames lines ∨
    ∃ fields ∈ format.fieldLists lines,
      (fields.take (format.columnNames lines).length).length ≤
        (format.columnNames lines).idxOf column

namespace Table

variable {format : Format} {text : String} {table : Table} {schema : Schema} {query : Query}
  {comparison : Comparison} {record : List String} {row : Row} {column : String}
  {failure : Error}

/-! ## Header and records of a loaded table -/

/-- The columns and records of a table that was loaded are those of its lines. -/
theorem names_and_records_of_loaded (loaded : (ofText format text).outcome = .ok table) :
    table.schema.names = format.columnNames (Text.lines text) ∧
      format.records (Text.lines text) = (format.fieldLists (Text.lines text)).map
        (List.take (format.columnNames (Text.lines text)).length) := by
  rcases ofLines_eq_ok.mp loaded with ⟨document, read, made⟩ | ⟨read, rfl⟩
  · rcases exists_split_of_document read with ⟨header, records, split, names, cut⟩
    have lines : format.splitLines (Text.lines text) = header :: records :=
      (map_eq_map_some_iff.mp split).1.symm
    have width : (format.columnNames (Text.lines text)).length = header.length := by
      rw [Format.columnNames, lines, List.length_map, List.headD_cons]
    refine ⟨?_, ?_⟩
    · rw [(madeOf_of_ofDocument made).names, names, Format.columnNames, lines]
      rfl
    · rw [width, Format.records, read, Format.fieldLists, lines]
      exact cut
  · have lines : format.splitLines (Text.lines text) = [] := by
      rw [Format.splitLines, visibleLines_eq_nil read, List.filterMap_nil]
    rw [Format.columnNames, Format.records, read, Format.fieldLists, lines]
    exact ⟨rfl, rfl⟩

/-! ## Columns that rows lack -/

/-- A row lacks a column whose first position its record does not reach. -/
theorem not_mem_columns_iff (typed : rowOf schema record = .ok row) :
    column ∉ row.columns ↔
      column ∉ schema.names ∨ record.length ≤ schema.names.idxOf column := by
  rw [columns_of_rowOf typed, List.mem_eraseDups]
  by_cases named : column ∈ schema.names
  · rw [List.mem_take_iff_idxOf_lt named, Nat.not_lt, or_iff_right (not_not.mpr named)]
  · simp only [named, not_false_eq_true, true_or, iff_true]
    exact fun reached => named (List.mem_of_mem_take reached)

theorem exists_lacking_row_iff (loaded : (ofText format text).outcome = .ok table) :
    (∃ row ∈ table.rows, column ∉ row.columns) ↔
      table.rows ≠ [] ∧ (column ∉ table.schema.names ∨
        ∃ record ∈ format.records (Text.lines text),
          record.length ≤ table.schema.names.idxOf column) := by
  constructor
  · rintro ⟨row, member, lacks⟩
    rcases exists_record_of_mem_rows loaded member with ⟨record, present, typed⟩
    refine ⟨List.ne_nil_of_mem member, ?_⟩
    exact ((not_mem_columns_iff typed).mp lacks).imp_right fun short => ⟨record, present, short⟩
  · rintro ⟨filled, unnamed | ⟨record, present, short⟩⟩
    · rcases List.exists_mem_of_ne_nil _ filled with ⟨row, member⟩
      rcases exists_record_of_mem_rows loaded member with ⟨record, -, typed⟩
      exact ⟨row, member, (not_mem_columns_iff typed).mpr (Or.inl unnamed)⟩
    · rcases exists_row_of_mem_records loaded present with ⟨row, member, typed⟩
      exact ⟨row, member, (not_mem_columns_iff typed).mpr (Or.inr short)⟩

/-- Evaluation fails on the rows that lack the compared column, and on no others. -/
theorem execute_eq_error (compares : query.clause = .applied comparison) :
    (table.execute query).outcome = .error failure ↔
      (∃ row ∈ table.rows, comparison.column ∉ row.columns) ∧
        failure = .evaluation (.missingColumn comparison.column) := by
  rw [execute, Logged.mapError_outcome, mapError_eq_error]
  simp only [run_eq_error]
  constructor
  · rintro ⟨_, ⟨column, ⟨⟨other, clause, rfl⟩, missing⟩, rfl⟩, rfl⟩
    cases compares.symm.trans clause
    exact ⟨missing, rfl⟩
  · rintro ⟨missing, rfl⟩
    exact ⟨_, ⟨comparison.column, ⟨⟨comparison, compares, rfl⟩, missing⟩, rfl⟩, rfl⟩

theorem execute_eq_error_iff_unreached (loaded : (ofText format text).outcome = .ok table)
    (compares : query.clause = .applied comparison) :
    (table.execute query).outcome = .error failure ↔
      (table.rows ≠ [] ∧ format.Unreached (Text.lines text) comparison.column) ∧
        failure = .evaluation (.missingColumn comparison.column) := by
  rcases names_and_records_of_loaded loaded with ⟨names, records⟩
  rw [execute_eq_error compares, exists_lacking_row_iff loaded, names, records]
  simp only [Format.Unreached, List.mem_map, exists_exists_and_eq_and]

/-- On a loaded table a comparison fails exactly when there is a row and the
column has no name in the header or lies, by its first position, beyond some
record.  Records that fill the header therefore never make it fail. -/
theorem execute_comparing (loaded : (ofText format text).outcome = .ok table)
    (compares : query.clause = .applied comparison) :
    (∀ failure, (table.execute query).outcome = .error failure ↔
      (table.rows ≠ [] ∧ format.Unreached (Text.lines text) comparison.column) ∧
        failure = .evaluation (.missingColumn comparison.column)) ∧
    ((∀ fields ∈ format.fieldLists (Text.lines text),
        (format.columnNames (Text.lines text)).length ≤ fields.length) →
      comparison.column ∈ format.columnNames (Text.lines text) →
        ∃ results, (table.execute query).outcome = .ok results) := by
  refine ⟨fun _ => execute_eq_error_iff_unreached loaded compares, ?_⟩
  intro wide named
  cases outcome : (table.execute query).outcome with
  | ok results => exact ⟨results, rfl⟩
  | error failure =>
      have fails := (execute_eq_error_iff_unreached loaded compares).mp outcome
      rcases fails with ⟨⟨-, unnamed | ⟨fields, member, short⟩⟩, -⟩
      · exact absurd named unnamed
      · have position := List.idxOf_lt_length_of_mem named
        rw [List.length_take, Nat.min_eq_left (wide fields member)] at short
        exact absurd position (Nat.not_lt.mpr short)

/-- A short record makes the comparison of a later column fail, and a name in
two positions does no harm when all records fill the header. -/
theorem execute_comparing_ragged :
    ((ofText {} "a,b, a\n1,2\n\n3\n4,5,6,7").outcome = .ok
        { schema := ⟨[("a", .number), ("b", .number), ("a", .number)]⟩
          rows := [Row.ofCells [("a", .number 1), ("b", .number 2)],
            Row.ofCells [("a", .number 3)], Row.ofCells [("a", .number 6), ("b", .number 5)]] } ∧
      (execute
          { schema := ⟨[("a", .number), ("b", .number), ("a", .number)]⟩
            rows := [Row.ofCells [("a", .number 1), ("b", .number 2)],
              Row.ofCells [("a", .number 3)], Row.ofCells [("a", .number 6), ("b", .number 5)]] }
          (.mk ["a"] (.applied ⟨"b", .equal, "2"⟩))).outcome =
        .error (.evaluation (.missingColumn "b"))) ∧
    ((ofText {} "a,a\n1,2,3\n4,x").outcome = .ok
        { schema := ⟨[("a", .number), ("a", .text)]⟩
          rows := [Row.ofCells [("a", .text "2")], Row.ofCells [("a", .text "x")]] } ∧
      ∃ results, (execute
          { schema := ⟨[("a", .number), ("a", .text)]⟩
            rows := [Row.ofCells [("a", .text "2")], Row.ofCells [("a", .text "x")]] }
          (.mk ["a"] (.applied ⟨"a", .lessThan, "3"⟩))).outcome = .ok results) := by
  have ragged : (ofText {} "a,b, a\n1,2\n\n3\n4,5,6,7").outcome = .ok
      { schema := ⟨[("a", .number), ("b", .number), ("a", .number)]⟩
        rows := [Row.ofCells [("a", .number 1), ("b", .number 2)],
          Row.ofCells [("a", .number 3)], Row.ofCells [("a", .number 6), ("b", .number 5)]] } := by
    rfl
  have filled : (ofText {} "a,a\n1,2,3\n4,x").outcome = .ok
      { schema := ⟨[("a", .number), ("a", .text)]⟩
        rows := [Row.ofCells [("a", .text "2")], Row.ofCells [("a", .text "x")]] } := by
    rfl
  have short : Format.Unreached {} (Text.lines "a,b, a\n1,2\n\n3\n4,5,6,7") "b" :=
    Or.inr ⟨["3"], by decide, by decide⟩
  refine ⟨⟨ragged, ?_⟩, filled, ?_⟩
  · exact ((execute_comparing ragged rfl).1 _).mpr ⟨⟨List.cons_ne_nil _ _, short⟩, rfl⟩
  · exact (execute_comparing filled rfl).2 (by decide) (by decide)

end Table
end Tabular
