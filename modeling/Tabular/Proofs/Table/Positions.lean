import Mathlib.Data.List.Forall2
import Tabular.Proofs.Integer.Words
import Tabular.Proofs.Table.Typing

namespace Tabular

open Log

/-!
# Columns, fields and cells by position

A column is one of numbers when its position is reached at all and every field
that stands there fits a number; the cell of such a field holds the value of its
digits.  In a row a name stands where its first position stood and holds what
its last position held, counting the positions that the record reaches.
-/

namespace Schema

variable {record fields : List String} {records : List (List String)} {position : Nat}
  {field : String} {kind : Kind} {cell : Cell}

/-- A field of ASCII digits, at least one. -/
structure DigitRun (field : String) : Prop where
  filled : field ≠ ""
  digits : ∀ character ∈ field.toList, character.isDigit = true

/-- A field that a column of numbers can hold. -/
structure FitsNumber (field : String) : Prop extends DigitRun field where
  bounded : Nat.ofDigitChars 10 field.toList 0 ≤ 2 ^ 63 - 1

/-- A position at which a column of numbers stands. -/
structure NumericAt (records : List (List String)) (position : Nat) : Prop where
  reached : ∃ record ∈ records, position < record.length
  fits : ∀ record ∈ records, ∀ field, record[position]? = some field → FitsNumber field

/-- The cells that a field can be typed as, by the kind of its column. -/
inductive Types : Kind → String → Cell → Prop where
  | number {field : String} {word : Int64}
      (value : word.toInt = Nat.ofDigitChars 10 field.toList 0) :
      Types .number field (.number word)
  | text (field : String) : Types .text field (.text field)

theorem isDigitRun_iff : Integer.isDigitRun field.toList = true ↔ DigitRun field := by
  rw [Integer.isDigitRun_iff, Ne, String.toList_eq_nil_iff]
  exact ⟨fun ⟨filled, digits⟩ => ⟨filled, digits⟩, fun run => ⟨run.filled, run.digits⟩⟩

/-- Of a run of digits only the size is in question. -/
theorem DigitRun.isNumeral_iff (run : DigitRun field) :
    isNumeral field = true ↔ Nat.ofDigitChars 10 field.toList 0 ≤ 2 ^ 63 - 1 := by
  rw [isNumeral, Bool.and_eq_true, isDigitRun_iff, Integer.parse_isOk_iff (isDigitRun_iff.mpr run)]
  exact and_iff_right run

theorem isNumeral_iff : isNumeral field = true ↔ FitsNumber field := by
  constructor
  · intro numeral
    have run := isDigitRun_iff.mp (isDigitRun_of_isNumeral numeral)
    exact ⟨run, run.isNumeral_iff.mp numeral⟩
  · intro fits
    exact fits.toDigitRun.isNumeral_iff.mpr fits.bounded

/-- A field that suits its column is typed by the value of its digits. -/
theorem types_of_typeField (suited : kind = .number → isNumeral field = true)
    (typed : typeField kind field = .ok cell) : Types kind field cell := by
  cases kind with
  | number =>
      rcases map_eq_ok.mp typed with ⟨word, parsed, rfl⟩
      exact .number (Integer.value_of_parse (isDigitRun_of_isNumeral (suited rfl)) parsed)
  | text =>
      cases typed
      exact .text field

theorem mem_fieldsAt_iff :
    field ∈ fieldsAt position records ↔ ∃ record ∈ records, record[position]? = some field :=
  List.mem_filterMap

theorem kindOf_eq_number_iff :
    kindOf fields = .number ↔ fields ≠ [] ∧ ∀ field ∈ fields, FitsNumber field := by
  have suited : (!fields.isEmpty && fields.all isNumeral) = true ↔
      fields ≠ [] ∧ ∀ field ∈ fields, FitsNumber field := by
    simp [isNumeral_iff]
  rw [← suited, kindOf]
  split
  · next fits => simp only [fits]
  · next unfit => simp only [unfit, reduceCtorEq]

theorem fieldsAt_ne_nil_iff :
    fieldsAt position records ≠ [] ↔ ∃ record ∈ records, position < record.length := by
  constructor
  · intro filled
    rcases List.exists_mem_of_ne_nil _ filled with ⟨field, member⟩
    rcases mem_fieldsAt_iff.mp member with ⟨record, among, found⟩
    exact ⟨record, among, (List.getElem?_eq_some_iff.mp found).1⟩
  · rintro ⟨record, among, inside⟩
    have member := mem_fieldsAt_iff.mpr ⟨record, among, List.getElem?_eq_getElem inside⟩
    exact List.ne_nil_of_mem member

/-- Inference makes a column one of numbers exactly at the numeric positions. -/
theorem kindOf_fieldsAt_eq_number_iff :
    kindOf (fieldsAt position records) = .number ↔ NumericAt records position := by
  rw [kindOf_eq_number_iff, fieldsAt_ne_nil_iff]
  constructor
  · rintro ⟨reached, fits⟩
    refine ⟨reached, ?_⟩
    intro record member field found
    exact fits field (mem_fieldsAt_iff.mpr ⟨record, member, found⟩)
  · intro numeric
    refine ⟨numeric.reached, ?_⟩
    intro field member
    rcases mem_fieldsAt_iff.mp member with ⟨record, among, found⟩
    exact numeric.fits record among field found

theorem inferred_names (header : List String) (records : List (List String)) :
    (inferred header records).names = header := by
  rw [names, inferred, List.map_map]
  exact List.zipIdx_map_fst 0 header

end Schema

/-- The last of the positions under a name, among the first ones. -/
structure LastPosition (names : List String) (width : Nat) (name : String) (position : Nat) :
    Prop where
  reached : position < width
  named : names[position]? = some name
  last : ∀ later, position < later → later < width → names[later]? ≠ some name

namespace Table

/-- The row of a record: its columns and what it answers for each of them. -/
structure HoldsRecord (schema : Schema) (record : List String) (row : Row) : Prop where
  columns : row.columns = (schema.names.take record.length).eraseDups
  cells : ∀ name position, LastPosition schema.names record.length name position →
    ∃ kind field cell, schema.columns[position]? = some (name, kind) ∧
      record[position]? = some field ∧ Schema.Types kind field cell ∧ row.get? name = some cell

/-- The table of a header and records that are not wider than it. -/
structure MadeOf (header : List String) (records : List (List String)) (table : Table) :
    Prop where
  names : table.schema.names = header
  kinds : ∀ position name kind, table.schema.columns[position]? = some (name, kind) →
    (kind = .number ↔ Schema.NumericAt records position)
  rows : List.Forall₂ (HoldsRecord table.schema) records table.rows

variable {schema : Schema} {record : List String} {cells : List (String × Cell)} {row : Row}
  {document : Delimited.Document} {table : Table}

theorem map_fst_typeRecord (typed : typeRecord schema record = .ok cells) :
    cells.map Prod.fst = schema.names.take record.length := by
  have kinds := congrArg (List.map Prod.fst) (kinds_of_typeRecord typed)
  rw [List.map_map, List.map_take] at kinds
  exact kinds

/-- Under distinct names the cells of a row are those that were typed, in order. -/
theorem typeRecord_of_rowOf (distinct : schema.names.Nodup)
    (typed : rowOf schema record = .ok row) : typeRecord schema record = .ok row.cells := by
  rcases map_eq_ok.mp typed with ⟨cells, typedCells, rfl⟩
  have names : (cells.map Prod.fst).Nodup := by
    rw [map_fst_typeRecord typedCells]
    exact distinct.sublist (List.take_sublist record.length schema.names)
  rw [Row.cells_ofCells_of_nodup names, typedCells]

/-- A cell stands where its field stood, and is that field typed by its column. -/
theorem exists_typed_of_typeRecord {position : Nat} {name : String} {kind : Kind} {field : String}
    (typed : typeRecord schema record = .ok cells)
    (column : schema.columns[position]? = some (name, kind))
    (reached : record[position]? = some field) :
    ∃ cell, cells[position]? = some (name, cell) ∧
      Schema.typeField kind field = .ok cell := by
  have paired : (schema.columns.zip record)[position]? = some ((name, kind), field) :=
    List.getElem?_zip_eq_some.mpr ⟨column, reached⟩
  have step := congrArg (fun outcomes => outcomes[position]?) (mapM_eq_ok.mp typed)
  simp only [List.getElem?_map, paired, Option.map_some] at step
  rcases Option.map_eq_some_iff.mp step.symm with ⟨entry, written, same⟩
  split at same
  · next cell typedField =>
      cases same
      exact ⟨cell, written, typedField⟩
  · cases same

theorem exists_column_of_names {position : Nat} {name : String}
    (named : schema.names[position]? = some name) :
    ∃ kind, schema.columns[position]? = some (name, kind) := by
  rw [Schema.names, List.getElem?_map] at named
  rcases Option.map_eq_some_iff.mp named with ⟨column, found, rfl⟩
  exact ⟨column.2, found⟩

theorem columns_of_rowOf (typed : rowOf schema record = .ok row) :
    row.columns = (schema.names.take record.length).eraseDups := by
  rcases map_eq_ok.mp typed with ⟨cells, typedCells, rfl⟩
  rw [Row.columns_ofCells, map_fst_typeRecord typedCells]

theorem holdsRecord_of_rowOf (suits : schema.Suits record)
    (typed : rowOf schema record = .ok row) : HoldsRecord schema record row where
  columns := columns_of_rowOf typed
  cells := by
    intro name position final
    rcases map_eq_ok.mp typed with ⟨cells, typedCells, rfl⟩
    rcases exists_column_of_names final.named with ⟨kind, column⟩
    have filled : ∃ field, record[position]? = some field :=
      ⟨_, List.getElem?_eq_getElem final.reached⟩
    rcases filled with ⟨field, reached⟩
    rcases exists_typed_of_typeRecord typedCells column reached with ⟨cell, written, typedField⟩
    have suited : kind = .number → Schema.isNumeral field = true := by
      rintro rfl
      exact suits position name field column reached
    have types := Schema.types_of_typeField suited typedField
    refine ⟨kind, field, cell, column, reached, types, Row.get?_ofCells_of_last written ?_⟩
    intro later behind
    rw [map_fst_typeRecord typedCells, List.getElem?_take]
    split
    · next inside => exact final.last later behind inside
    · exact Option.some_ne_none name ∘ Eq.symm

theorem madeOf_of_ofDocument (made : (ofDocument document).outcome = .ok table) :
    MadeOf document.header document.records table := by
  rcases ofDocument_eq_ok.mp made with ⟨schema, typed⟩
  refine ⟨?_, ?_, ?_⟩
  · rw [schema, Schema.inferred_names]
  · intro position name kind column
    rw [schema, Schema.inferred_columns_getElem?] at column
    rcases Option.map_eq_some_iff.mp column with ⟨_, _, same⟩
    cases same
    exact Schema.kindOf_fieldsAt_eq_number_iff
  · rw [← List.forall₂_eq_eq_eq, List.forall₂_map_left_iff, List.forall₂_map_right_iff] at typed
    have suits : ∀ record ∈ document.records, table.schema.Suits record := by
      rw [schema]
      exact fun record member => Schema.inferred_suits member
    exact ((List.forall₂_and_left _ _).mpr ⟨suits, typed⟩).imp fun record row step =>
      holdsRecord_of_rowOf step.1 step.2

end Table
end Tabular
