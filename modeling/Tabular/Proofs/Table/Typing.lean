import Tabular.Proofs.Log.Outcome
import Tabular.Proofs.Row
import Tabular.Table

namespace Tabular

open Log Delimited

/-!
# Typing the records of a document

Inference never fails, and the schema it arrives at suits the records it was
inferred from: a column counts as a column of numbers only when every field
that stands in it can be typed as one.  Hence a document always yields a
table, and the cells of a record have the kinds of the columns they stand in,
position by position.
-/

namespace Schema

variable {ε : Type} {header record : List String} {records : List (List String)}
  {position : Nat} {field : String} {kind : Kind} {cell : Cell}

/-- The schema that inference arrives at. -/
def inferred (header : List String) (records : List (List String)) : Schema where
  columns := header.zipIdx.map fun named => (named.1, kindOf (fieldsAt named.2 records))

theorem inferColumn_outcome (name : String) (fields : List String) :
    (inferColumn name fields : Logged ε (String × Kind)).outcome = .ok (name, kindOf fields) := by
  unfold inferColumn
  split <;> rfl

theorem infer_outcome (header : List String) (records : List (List String)) :
    (infer header records : Logged ε Schema).outcome = .ok (inferred header records) := by
  have columns : (header.zipIdx.mapM fun named =>
      (inferColumn named.1 (fieldsAt named.2 records) : Logged ε (String × Kind))).outcome =
        .ok (inferred header records).columns := by
    rw [Logged.mapM_outcome, mapM_eq_ok, inferred, List.map_map]
    apply List.map_congr_left
    intro named member
    exact inferColumn_outcome named.1 (fieldsAt named.2 records)
  rw [infer, Logged.bind_outcome, columns]
  rfl

theorem inferred_columns_getElem? (header : List String) (records : List (List String))
    (position : Nat) : (inferred header records).columns[position]? =
      header[position]?.map fun name => (name, kindOf (fieldsAt position records)) := by
  rw [inferred, List.getElem?_map, List.getElem?_zipIdx, Option.map_map, Nat.zero_add]
  rfl

/-- A record whose fields under columns of numbers are numerals. -/
def Suits (schema : Schema) (record : List String) : Prop :=
  ∀ (position : Nat) (name field : String),
    schema.columns[position]? = some (name, .number) →
      record[position]? = some field → isNumeral field = true

/-- Inference looks at every field, so what it arrives at suits each record. -/
theorem inferred_suits (member : record ∈ records) : (inferred header records).Suits record := by
  intro position name field column reached
  have among : field ∈ fieldsAt position records :=
    List.mem_filterMap.mpr ⟨record, member, reached⟩
  rw [inferred_columns_getElem?] at column
  rcases Option.map_eq_some_iff.mp column with ⟨_, _, same⟩
  have number : kindOf (fieldsAt position records) = .number := congrArg Prod.snd same
  unfold kindOf at number
  split at number
  · next suited =>
      rw [Bool.and_eq_true] at suited
      exact List.all_eq_true.mp suited.2 field among
  · cases number

theorem isDigitRun_of_isNumeral (numeral : isNumeral field = true) :
    Integer.isDigitRun field.toList = true :=
  (Bool.and_eq_true_iff.mp numeral).1

theorem exists_typeField (suited : kind = .number → isNumeral field = true) :
    ∃ cell, typeField kind field = .ok cell := by
  cases kind with
  | number =>
      have accepted := (Bool.and_eq_true_iff.mp (suited rfl)).2
      cases parsed : Integer.parse field.toList with
      | ok word => exact ⟨.number word, by rw [typeField, parsed]; rfl⟩
      | error reason =>
          rw [parsed] at accepted
          cases accepted
  | text => exact ⟨.text field, rfl⟩

theorem kind_of_typeField (typed : typeField kind field = .ok cell) : cell.kind = kind := by
  cases kind with
  | number =>
      rcases map_eq_ok.mp typed with ⟨word, -, rfl⟩
      rfl
  | text =>
      cases typed
      rfl

end Schema

namespace Table

variable {schema : Schema} {header record : List String} {records : List (List String)}
  {cells : List (String × Cell)} {document : Document} {table : Table}

theorem map_fst_zip_eq_take {α β : Type} (columns : List α) (fields : List β) :
    (columns.zip fields).map Prod.fst = columns.take fields.length := by
  induction columns generalizing fields with
  | nil => rw [List.zip_nil_left, List.take_nil, List.map_nil]
  | cons column columns inductionHypothesis => cases fields with
    | nil => rfl
    | cons field fields => exact congrArg (column :: ·) (inductionHypothesis fields)

/-- The cells of a record stand under the names, and have the kinds, of the
columns the record reaches. -/
theorem kinds_of_typeRecord (typed : typeRecord schema record = .ok cells) :
    cells.map (fun entry => (entry.1, entry.2.kind)) = schema.columns.take record.length := by
  rw [← map_fst_zip_eq_take]
  refine map_of_mapM_eq_ok ?_ typed
  intro paired entry step
  split at step
  · next cell typedField =>
      cases step
      rw [Schema.kind_of_typeField typedField]
  · cases step

/-- A record that suits a schema can be typed by it. -/
theorem exists_rowOf (suits : schema.Suits record) : ∃ row, rowOf schema record = .ok row := by
  have typed : ∃ cells, typeRecord schema record = .ok cells := by
    apply exists_mapM_eq_ok
    rintro ⟨⟨name, kind⟩, field⟩ paired
    rcases List.mem_iff_getElem?.mp paired with ⟨position, found⟩
    rcases List.getElem?_zip_eq_some.mp found with ⟨column, reached⟩
    have suited : kind = .number → Schema.isNumeral field = true := by
      rintro rfl
      exact suits position name field column reached
    rcases Schema.exists_typeField suited with ⟨cell, typedField⟩
    exact ⟨(name, cell), by simp only [typedField]⟩
  rcases typed with ⟨cells, typed⟩
  exact ⟨Row.ofCells cells, by rw [rowOf, typed]; rfl⟩

/-! ## Documents -/

/-- A table is made of a document exactly when it has the inferred schema and
the rows of the records under it. -/
theorem ofDocument_eq_ok : (ofDocument document).outcome = .ok table ↔
    table.schema = Schema.inferred document.header document.records ∧
      document.records.map (rowOf table.schema) = table.rows.map .ok := by
  rw [ofDocument, Logged.bind_outcome, Schema.infer_outcome, ok_bind, Logged.bind_outcome,
    Logged.ofExcept_outcome, bind_eq_ok]
  constructor
  · rintro ⟨rows, typed, same⟩
    cases same
    exact ⟨rfl, mapM_eq_ok.mp typed⟩
  · rintro ⟨schema, typed⟩
    rw [schema] at typed
    refine ⟨table.rows, mapM_eq_ok.mpr typed, ?_⟩
    rw [← schema]
    rfl

/-- A document always yields a table. -/
theorem exists_ofDocument_eq_ok (document : Document) :
    ∃ table, (ofDocument document).outcome = .ok table := by
  have typed : ∃ rows, document.records.mapM
      (rowOf (Schema.inferred document.header document.records)) = .ok rows := by
    apply exists_mapM_eq_ok
    intro record member
    exact exists_rowOf (Schema.inferred_suits member)
  rcases typed with ⟨rows, typed⟩
  exact ⟨⟨_, rows⟩, ofDocument_eq_ok.mpr ⟨rfl, mapM_eq_ok.mp typed⟩⟩

/-- Lines yield a table when they are read as a document, or hold nothing. -/
theorem ofLines_eq_ok {format : Format} {lines : List String} :
    (ofLines format lines).outcome = .ok table ↔
      (∃ document, (format.readDocument lines).outcome = .ok (some document) ∧
        (ofDocument document).outcome = .ok table) ∨
      ((format.readDocument lines).outcome = .ok none ∧ table = empty) := by
  rw [ofLines, Logged.bind_outcome, Logged.mapError_outcome]
  cases read : (format.readDocument lines).outcome with
  | error fault => simp
  | ok document? =>
      cases document? with
      | some document => simp
      | none =>
          simp only [ok_mapError, ok_bind, Logged.bind_outcome, Logged.emit_outcome,
            Logged.pure_outcome, Except.ok.injEq, reduceCtorEq, false_and, exists_false, false_or,
            true_and]
          exact eq_comm

end Table
end Tabular
