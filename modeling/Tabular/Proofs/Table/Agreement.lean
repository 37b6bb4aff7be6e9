import Tabular.Proofs.Schema.Collecting
import Tabular.Proofs.Table.Positions
import Tabular.Proofs.Table.Typing

namespace Tabular

open Log Delimited

/-!
# Schemas and cells

A schema is a list of positions; a row is a map of names.  Under a repeated name
the schema answers with the kind of the first position, while a row holds the
field of the last position that its record reaches.

A loaded table carries the schema inferred from its fields.  Another one can be
collected from its rows.  Under distinct names the two differ only in columns
that no record reaches.
-/

/-- The records of lines that are read as a document. -/
def Delimited.Format.records (format : Format) (lines : List String) : List (List String) :=
  match (format.readDocument lines).outcome with
  | .ok (some document) => document.records
  | _ => []

/-- The kind of the last column with the given name, among the first columns. -/
def Schema.lastKind? (schema : Schema) (width : Nat) (name : String) : Option Kind :=
  (schema.columns.take width).reverse.lookup name

theorem Schema.kind?_of_lastKind? {schema : Schema} {width : Nat} {name : String} {kind : Kind}
    (distinct : schema.names.Nodup) (last : schema.lastKind? width name = some kind) :
    schema.kind? name = some kind :=
  Row.lookup_of_mem distinct
    (List.mem_of_mem_take (List.mem_reverse.mp (Row.mem_of_lookup last)))

namespace Table

variable {format : Format} {text : String} {table : Table} {schema : Schema}
  {record : List String} {row : Row}

/-- The schema reports the kind of every cell. -/
def KindsAgree (table : Table) : Prop :=
  ∀ row ∈ table.rows, ∀ entry ∈ row.cells, table.schema.kind? entry.1 = some entry.2.kind

/-- A row holds the kinds of the last positions that its record reaches. -/
theorem kind_of_rowOf (typed : rowOf schema record = .ok row) (name : String) :
    (row.get? name).map Cell.kind = schema.lastKind? record.length name := by
  rcases map_eq_ok.mp typed with ⟨cells, typedCells, rfl⟩
  rw [Row.get?_ofCells, ← Row.lookup_map Cell.kind, List.map_reverse,
    kinds_of_typeRecord typedCells, Schema.lastKind?]

theorem row_agrees_iff (typed : rowOf schema record = .ok row) :
    (∀ entry ∈ row.cells, schema.kind? entry.1 = some entry.2.kind) ↔
      ∀ name kind, schema.lastKind? record.length name = some kind →
        schema.kind? name = some kind := by
  constructor
  · intro agrees name kind last
    rw [← kind_of_rowOf typed] at last
    rcases Option.map_eq_some_iff.mp last with ⟨cell, found, rfl⟩
    exact agrees (name, cell) (Row.mem_cells_iff.mpr found)
  · rintro agrees ⟨name, cell⟩ member
    apply agrees
    rw [← kind_of_rowOf typed, Row.mem_cells_iff.mp member]
    rfl

/-- The rows of a loaded table are those of its records. -/
theorem map_rowOf_records (loaded : (ofText format text).outcome = .ok table) :
    (format.records (Text.lines text)).map (rowOf table.schema) = table.rows.map .ok := by
  rw [Format.records]
  rcases ofLines_eq_ok.mp loaded with ⟨document, read, made⟩ | ⟨read, rfl⟩
  · rw [read]
    exact (ofDocument_eq_ok.mp made).2
  · rw [read]
    rfl

theorem exists_record_of_mem_rows (loaded : (ofText format text).outcome = .ok table)
    (member : row ∈ table.rows) :
    ∃ record ∈ format.records (Text.lines text), rowOf table.schema record = .ok row := by
  have among : (.ok row : Except Error Row) ∈ table.rows.map .ok := List.mem_map_of_mem member
  rw [← map_rowOf_records loaded] at among
  exact List.mem_map.mp among

theorem exists_row_of_mem_records (loaded : (ofText format text).outcome = .ok table)
    (member : record ∈ format.records (Text.lines text)) :
    ∃ row ∈ table.rows, rowOf table.schema record = .ok row := by
  have among : rowOf table.schema record ∈
      (format.records (Text.lines text)).map (rowOf table.schema) := List.mem_map_of_mem member
  rw [map_rowOf_records loaded] at among
  rcases List.mem_map.mp among with ⟨row, present, same⟩
  exact ⟨row, present, same.symm⟩

/-- A loaded table agrees with its schema exactly when, in every record and
for every name, the last position that is reached has the kind of the first. -/
theorem kindsAgree_iff (loaded : (ofText format text).outcome = .ok table) :
    table.KindsAgree ↔
      ∀ record ∈ format.records (Text.lines text), ∀ name kind,
        table.schema.lastKind? record.length name = some kind →
          table.schema.kind? name = some kind := by
  constructor
  · intro agree record member
    rcases exists_row_of_mem_records loaded member with ⟨row, present, typed⟩
    exact (row_agrees_iff typed).mp (agree row present)
  · intro suited row member
    rcases exists_record_of_mem_rows loaded member with ⟨record, present, typed⟩
    exact (row_agrees_iff typed).mpr (suited record present)

/-- Both columns of a repeated name hold numbers, and the table agrees. -/
theorem kindsAgree_iff_twoNumbers :
    (ofText {} "a,a\n1,2").outcome = .ok
        { schema := ⟨[("a", .number), ("a", .number)]⟩
          rows := [Row.ofCells [("a", .number 2)]] } ∧
      (KindsAgree
          { schema := ⟨[("a", .number), ("a", .number)]⟩
            rows := [Row.ofCells [("a", .number 2)]] } ↔
        ∀ record ∈ Format.records {} (Text.lines "a,a\n1,2"), ∀ name kind,
          Schema.lastKind? ⟨[("a", .number), ("a", .number)]⟩ record.length name = some kind →
            Schema.kind? ⟨[("a", .number), ("a", .number)]⟩ name = some kind) := by
  have loaded : (ofText {} "a,a\n1,2").outcome = .ok
      { schema := ⟨[("a", .number), ("a", .number)]⟩
        rows := [Row.ofCells [("a", .number 2)]] } := by
    rfl
  exact ⟨loaded, kindsAgree_iff loaded⟩

/-- A repeated name can hide a column of texts behind one of numbers. -/
theorem not_kindsAgree_repeatedName :
    ∃ table, (ofText {} "a,a\n1,x").outcome = .ok table ∧ ¬ table.KindsAgree := by
  refine ⟨{ schema := ⟨[("a", .number), ("a", .text)]⟩
            rows := [Row.ofCells [("a", .text "x")]] }, rfl, ?_⟩
  intro agree
  have reported := agree _ List.mem_cons_self _ List.mem_cons_self
  exact absurd reported (by decide)

/-- Without repeated names there is nothing to disagree about. -/
theorem kindsAgree_of_nodup (loaded : (ofText format text).outcome = .ok table)
    (distinct : table.schema.names.Nodup) : table.KindsAgree := by
  intro row member
  rcases exists_record_of_mem_rows loaded member with ⟨record, -, typed⟩
  rw [row_agrees_iff typed]
  intro name kind last
  exact Schema.kind?_of_lastKind? distinct last

/-! ## Two inferences -/

/-- Under distinct names the cells of a row stand where their columns stand. -/
theorem kinds_of_rowOf (distinct : schema.names.Nodup)
    (typed : rowOf schema record = .ok row) :
    row.kinds = schema.columns.take record.length :=
  kinds_of_typeRecord (typeRecord_of_rowOf distinct typed)

theorem size_of_rowOf (distinct : schema.names.Nodup)
    (typed : rowOf schema record = .ok row) :
    row.size = min record.length schema.columns.length := by
  rw [← Row.length_kinds, kinds_of_rowOf distinct typed, List.length_take]

/-- The schema of a loaded table is the one inferred from its records. -/
theorem exists_schema_eq_inferred (loaded : (ofText format text).outcome = .ok table) :
    ∃ header, table.schema = Schema.inferred header (format.records (Text.lines text)) := by
  rw [Format.records]
  rcases ofLines_eq_ok.mp loaded with ⟨document, read, made⟩ | ⟨read, rfl⟩
  · rw [read]
    exact ⟨document.header, (ofDocument_eq_ok.mp made).1⟩
  · exact ⟨[], rfl⟩

/-- A column of numbers is reached by some record. -/
theorem exists_record_of_number {position : Nat} {name : String}
    (loaded : (ofText format text).outcome = .ok table)
    (column : table.schema.columns[position]? = some (name, .number)) :
    ∃ record ∈ format.records (Text.lines text), position < record.length := by
  rcases exists_schema_eq_inferred loaded with ⟨header, schema⟩
  rw [schema, Schema.inferred_columns_getElem?] at column
  rcases Option.map_eq_some_iff.mp column with ⟨_, _, same⟩
  have number := congrArg Prod.snd same
  exact (Schema.kindOf_fieldsAt_eq_number_iff.mp number).reached

/-- What is collected from the rows of a loaded table is the beginning of its
schema up to the widest row, and behind it there are only columns of texts. -/
theorem ofRows_rows (loaded : (ofText format text).outcome = .ok table)
    (distinct : table.schema.names.Nodup) :
    Schema.ofRows table.rows = ⟨table.schema.columns.take (Row.widest table.rows)⟩ ∧
      ∀ column ∈ table.schema.columns.drop (Row.widest table.rows), column.2 = .text := by
  have beginning : ∀ row ∈ table.rows, row.kinds = table.schema.columns.take row.size := by
    intro row member
    rcases exists_record_of_mem_rows loaded member with ⟨record, -, typed⟩
    rw [size_of_rowOf distinct typed, kinds_of_rowOf distinct typed, List.take_eq_take_min]
  refine ⟨congrArg Schema.mk (Schema.ofRows_of_beginnings distinct beginning), ?_⟩
  rintro ⟨name, kind⟩ member
  rcases List.mem_iff_getElem?.mp member with ⟨offset, found⟩
  rw [List.getElem?_drop] at found
  cases kind with
  | text => rfl
  | number =>
      -- A record that reached this column would have made a wider row.
      rcases exists_record_of_number loaded found with ⟨record, among, reached⟩
      rcases exists_row_of_mem_records loaded among with ⟨row, present, typed⟩
      have inside := (List.getElem?_eq_some_iff.mp found).1
      have bound := Row.size_le_widest present
      rw [size_of_rowOf distinct typed] at bound
      omega

/-- The second record is the wider one, and two columns are never reached. -/
theorem ofRows_rows_ragged :
    (ofText {} "a,b,c,d\n1\n2,x\n").outcome = .ok
        { schema := ⟨[("a", .number), ("b", .text), ("c", .text), ("d", .text)]⟩
          rows := [Row.ofCells [("a", .number 1)],
            Row.ofCells [("a", .number 2), ("b", .text "x")]] } ∧
      Schema.ofRows [Row.ofCells [("a", .number 1)],
          Row.ofCells [("a", .number 2), ("b", .text "x")]] =
        ⟨[("a", .number), ("b", .text)]⟩ ∧
      ∀ column ∈ [("c", Kind.text), ("d", .text)], column.2 = .text := by
  have loaded : (ofText {} "a,b,c,d\n1\n2,x\n").outcome = .ok
      { schema := ⟨[("a", .number), ("b", .text), ("c", .text), ("d", .text)]⟩
        rows := [Row.ofCells [("a", .number 1)],
          Row.ofCells [("a", .number 2), ("b", .text "x")]] } := by
    rfl
  exact ⟨loaded, ofRows_rows loaded (by decide)⟩

end Table

end Tabular
