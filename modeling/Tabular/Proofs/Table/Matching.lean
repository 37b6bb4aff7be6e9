import Tabular.Proofs.Delimited.Reading
import Tabular.Proofs.Integer.Words
import Tabular.Proofs.Query.Cells
import Tabular.Proofs.Table.Positions
import Tabular.Proofs.Text.Utf8

namespace Tabular

open Log Delimited Query

/-!
# Cells and the fields they come from

A field is read when its cell is made, and read again as the literal of a
comparison.  Where the first reader made a number, the field is a numeral, and
the second finds the same word in it.  Where the first made a text, the cell is
the field itself.  Hence every cell is equal to its own field.
-/

namespace Schema

variable {kind : Kind} {field : String} {cell : Cell}

/-- A cell is in no other order than equality to the field it was made of. -/
theorem order?_of_typeField (typed : typeField kind field = .ok cell) :
    cell.order? field = some .eq := by
  cases kind with
  | number =>
      rcases map_eq_ok.mp typed with ⟨word, parsed, rfl⟩
      have same : compare word word = .eq := by
        rw [Integer.compare_word, Int.compare_eq_eq]
      rw [Cell.order?, Integer.read?_of_parse parsed, Option.map_some, Integer.Literal.order, same]
  | text =>
      cases typed
      rw [Cell.order?, Text.compareUtf8_eq_iff.mpr rfl]

theorem accepts_of_typeField (typed : typeField kind field = .ok cell) (column : String)
    (operator : Operator) :
    (Comparison.mk column operator field).accepts cell = operator.holds .eq := by
  rw [Comparison.accepts, order?_of_typeField typed, Option.any_some]

end Schema

namespace Table

variable {format : Format} {text : String} {table : Table} {schema : Schema}
  {record : List String} {row : Row} {index position : Nat} {name field : String} {kind : Kind}

/-- Under distinct names every field has its own cell. -/
theorem exists_cell_of_rowOf (distinct : schema.names.Nodup)
    (typed : rowOf schema record = .ok row)
    (column : schema.columns[position]? = some (name, kind))
    (reached : record[position]? = some field) :
    ∃ cell, row.get? name = some cell ∧ Schema.typeField kind field = .ok cell := by
  rcases exists_typed_of_typeRecord (typeRecord_of_rowOf distinct typed) column reached with
    ⟨cell, written, typedField⟩
  exact ⟨cell, Row.mem_cells_iff.mp (List.mem_of_getElem? written), typedField⟩

/-- Behind the header, the row of a line is made of the fields that have a name. -/
theorem exists_row_of_line {line : List Char} {fields : List String}
    (loaded : (ofText format text).outcome = .ok table)
    (behind : (visibleLines (Text.lines text))[index + 1]? = some line)
    (split : fields? format.delimiter line = some fields) :
    ∃ row, table.rows[index]? = some row ∧
      rowOf table.schema (fields.take table.schema.names.length) = .ok row := by
  rcases ofLines_eq_ok.mp loaded with ⟨document, read, made⟩ | ⟨read, -⟩
  · rcases exists_split_of_document read with ⟨header, records, splitLines, names, cut⟩
    have width : table.schema.names.length = header.length := by
      rw [(madeOf_of_ofDocument made).names, names, List.length_map]
    have record : records[index]? = some fields := by
      have here := congrArg (fun results => results[index + 1]?) splitLines
      simp only [List.getElem?_map, behind, Option.map_some, split, List.getElem?_cons_succ] at here
      rcases Option.map_eq_some_iff.mp here.symm with ⟨same, found, equal⟩
      rw [found, Option.some.inj equal]
    have typed := congrArg (fun results => results[index]?) (ofDocument_eq_ok.mp made).2
    simp only [cut, List.getElem?_map, record, Option.map_some] at typed
    rcases Option.map_eq_some_iff.mp typed.symm with ⟨row, found, equal⟩
    exact ⟨row, found, by rw [width, equal]⟩
  · rw [visibleLines_eq_nil read] at behind
    cases behind

/-- A cell of a loaded table is equal to the field it was made of, and neither
above nor below it, when that field is the literal of a comparison. -/
theorem keeps_sourceField {line : List Char} {fields : List String}
    (loaded : (ofText format text).outcome = .ok table) (distinct : table.schema.names.Nodup)
    (behind : (visibleLines (Text.lines text))[index + 1]? = some line)
    (split : fields? format.delimiter line = some fields)
    (named : table.schema.names[position]? = some name)
    (written : fields[position]? = some field) :
    ∃ row, table.rows[index]? = some row ∧
      (keeps row (some ⟨name, .equal, field⟩)).outcome = .ok true ∧
      (keeps row (some ⟨name, .greaterThan, field⟩)).outcome = .ok false ∧
      (keeps row (some ⟨name, .lessThan, field⟩)).outcome = .ok false := by
  rcases exists_row_of_line loaded behind split with ⟨row, found, typed⟩
  rcases exists_column_of_names named with ⟨kind, column⟩
  have reached : (fields.take table.schema.names.length)[position]? = some field := by
    rw [List.getElem?_take_of_lt (List.getElem?_eq_some_iff.mp named).1, written]
  rcases exists_cell_of_rowOf distinct typed column reached with ⟨cell, holds, typedField⟩
  have verdict : ∀ operator : Operator, (keeps row (some ⟨name, operator, field⟩)).outcome =
      .ok (operator.holds .eq) := by
    intro operator
    rw [keeps_of_get? holds, Schema.accepts_of_typeField typedField]
  exact ⟨row, found, verdict .equal, verdict .greaterThan, verdict .lessThan⟩

/-- The greatest word with leading zeros, in the second record of a ragged document. -/
theorem keeps_sourceField_greatest :
    (ofText {} "t,n\n-1\n\n +2,009223372036854775807,x").outcome = .ok
        { schema := ⟨[("t", .text), ("n", .number)]⟩
          rows := [Row.ofCells [("t", .text "-1")],
            Row.ofCells [("t", .text " +2"), ("n", .number Int64.maxValue)]] } ∧
      ∃ row,
        [Row.ofCells [("t", .text "-1")],
          Row.ofCells [("t", .text " +2"), ("n", .number Int64.maxValue)]][1]? = some row ∧
        (keeps row (some ⟨"n", .equal, "009223372036854775807"⟩)).outcome = .ok true ∧
        (keeps row (some ⟨"n", .greaterThan, "009223372036854775807"⟩)).outcome = .ok false ∧
        (keeps row (some ⟨"n", .lessThan, "009223372036854775807"⟩)).outcome = .ok false := by
  have loaded : (ofText {} "t,n\n-1\n\n +2,009223372036854775807,x").outcome = .ok
      { schema := ⟨[("t", .text), ("n", .number)]⟩
        rows := [Row.ofCells [("t", .text "-1")],
          Row.ofCells [("t", .text " +2"), ("n", .number Int64.maxValue)]] } := by
    rfl
  have behind : (visibleLines (Text.lines "t,n\n-1\n\n +2,009223372036854775807,x"))[2]? =
      some " +2,009223372036854775807,x".toList := by
    rfl
  have split : fields? ',' " +2,009223372036854775807,x".toList =
      some [" +2", "009223372036854775807", "x"] := by
    rfl
  have named : (Schema.mk [("t", .text), ("n", .number)]).names[1]? = some "n" := by
    rfl
  exact ⟨loaded, keeps_sourceField loaded (by decide) behind split named rfl⟩

end Table
end Tabular
