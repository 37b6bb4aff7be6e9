import Tabular.Proofs.Delimited.Reading
import Tabular.Proofs.Query.Repeating
import Tabular.Proofs.Schema.Collecting
import Tabular.Proofs.Table.Agreement
import Tabular.Proofs.Table.Positions
import Tabular.Proofs.Table.Querying

namespace Tabular

open Log Delimited Query Text

/-!
# Asking for every column

The names of a schema, joined to a text, are read back when none of them holds a
comma or a filter mark and there is more than a single empty name.  They cover
the columns of the rows.  A loaded row was written under a beginning of these
names and is returned as it is; one of given rows comes back with the same
cells, but maybe with its columns rearranged.
-/

namespace Query

/-- The query for the given columns of all rows. -/
def listing (names : List String) : Query where
  projection := names
  clause := .absent

/-- The text of that query. -/
def listingText (names : List String) : String :=
  "PROJECT " ++ ", ".intercalate names

/-- The names that a text can ask for, once they are trimmed. -/
structure ListableNames (names : List String) : Prop where
  named : names ≠ [""]
  commaFree : ∀ name ∈ names, ',' ∉ name.toList
  unmarked : ∀ name ∈ names, ¬ filterMark <:+: name.toList

variable {names : List String}

theorem listingText_eq_display (names : List String) :
    listingText names = (listing names).display := by
  rw [listingText, display, listing, Clause.display, String.append_empty]

/-- Without names the project mark loses its space, and is a name itself. -/
theorem parse_listingText_nil : (parse (listingText [])).outcome = .ok (listing ["PROJECT"]) := by
  rfl

theorem parse_listingText (listable : ListableNames names) (filled : names ≠ [])
    (trimmed : ∀ name ∈ names, trim name.toList = name.toList) :
    (parse (listingText names)).outcome = .ok (listing names) := by
  have readable : ReadableNames (listing names).projection := ⟨filled, trimmed, listable.commaFree⟩
  rw [listingText_eq_display, parse_display_absent readable rfl]
  exact ⟨listable.named, listable.unmarked⟩

theorem run_listing (names : List String) (rows : List Row) :
    ((listing names).run rows).outcome = .ok (rows.map fun row => row.project names) :=
  run_of_kept fun _ _ => rfl

end Query

namespace Table

variable {format : Format} {text : String} {table : Table} {row : Row} {rows : List Row}

/-- Asking for all names of a schema projects every row to them. -/
theorem query_listingText_of_covered (listable : ListableNames table.schema.names)
    (trimmed : ∀ name ∈ table.schema.names, trim name.toList = name.toList)
    (covered : ∀ row ∈ table.rows, row.columns ⊆ table.schema.names) :
    (table.query (listingText table.schema.names)).outcome =
      .ok (table.rows.map fun row => row.project table.schema.names) := by
  by_cases filled : table.schema.names = []
  · rw [filled, query_outcome_of_parse parse_listingText_nil, run_listing, ok_mapError]
    congr 1
    apply List.map_congr_left
    intro row member
    have bare : row.columns = [] := List.subset_nil.mp (filled ▸ covered row member)
    rw [Row.project_of_columns_eq_nil bare, Row.project_of_columns_eq_nil bare]
  · rw [query_outcome_of_parse (parse_listingText listable filled trimmed), run_listing,
      ok_mapError]

/-! ## Loaded tables -/

/-- The columns of a loaded row are those of a beginning of the schema. -/
theorem exists_take_of_mem_rows (loaded : (ofText format text).outcome = .ok table)
    (member : row ∈ table.rows) :
    ∃ width, row.columns = (table.schema.names.take width).eraseDups := by
  rcases exists_record_of_mem_rows loaded member with ⟨record, -, typed⟩
  exact ⟨record.length, columns_of_rowOf typed⟩

theorem columns_subset_of_mem_rows (loaded : (ofText format text).outcome = .ok table)
    (member : row ∈ table.rows) : row.columns ⊆ table.schema.names := by
  rcases exists_take_of_mem_rows loaded member with ⟨width, columns⟩
  intro name among
  rw [columns, List.mem_eraseDups] at among
  exact List.mem_of_mem_take among

theorem trim_of_mem_names {name : String} (loaded : (ofText format text).outcome = .ok table)
    (member : name ∈ table.schema.names) : trim name.toList = name.toList := by
  rcases ofLines_eq_ok.mp loaded with ⟨document, read, made⟩ | ⟨-, rfl⟩
  · rcases exists_split_of_document read with ⟨header, -, -, names, -⟩
    rw [(madeOf_of_ofDocument made).names, names] at member
    rcases List.mem_map.mp member with ⟨raw, -, rfl⟩
    rw [String.toList_ofList, trim_trim]
  · cases member

/-! ## Both kinds of tables -/

/-- Asking for every column gives back the rows of a table.  They are the same
when the table was loaded, and equal when it was made of rows. -/
theorem query_listingText :
    (∀ (format : Format) (text : String) (table : Table),
      (ofText format text).outcome = .ok table → ListableNames table.schema.names →
        (table.query (listingText table.schema.names)).outcome = .ok table.rows) ∧
    ∀ rows : List Row, ListableNames (ofRows rows).schema.names →
      (∀ name ∈ (ofRows rows).schema.names, trim name.toList = name.toList) →
        ∃ results,
          ((ofRows rows).query (listingText (ofRows rows).schema.names)).outcome = .ok results ∧
            List.Forall₂ (fun result row => (result == row) = true) results (ofRows rows).rows := by
  refine ⟨?_, ?_⟩
  · intro format text table loaded listable
    have same : table.rows.map (fun row => row.project table.schema.names) =
        table.rows.map id := by
      apply List.map_congr_left
      intro row member
      rcases exists_take_of_mem_rows loaded member with ⟨width, columns⟩
      exact Row.project_of_take columns
    rw [query_listingText_of_covered listable (fun _ => trim_of_mem_names loaded)
      (fun _ => columns_subset_of_mem_rows loaded), same, List.map_id]
  · intro rows listable trimmed
    have covered : ∀ row ∈ rows, row.columns ⊆ (ofRows rows).schema.names := fun _ =>
      Schema.columns_subset_names_ofRows
    refine ⟨_, query_listingText_of_covered listable trimmed covered, ?_⟩
    rw [List.forall₂_map_left_iff, List.forall₂_same]
    exact fun row member => Row.project_beq (covered row member)

/-- A repeated name, an empty one, one that holds the project mark and a short
record; then rows that have their columns in different orders. -/
theorem query_listingText_oddNames :
    ((ofText {} "a, PROJECT b,,a\n1,2,,3\n4\n").outcome = .ok
        { schema := ⟨[("a", .number), ("PROJECT b", .number), ("", .text), ("a", .number)]⟩
          rows := [Row.ofCells [("a", .number 3), ("PROJECT b", .number 2), ("", .text "")],
            Row.ofCells [("a", .number 4)]] } ∧
      (query
          { schema := ⟨[("a", .number), ("PROJECT b", .number), ("", .text), ("a", .number)]⟩
            rows := [Row.ofCells [("a", .number 3), ("PROJECT b", .number 2), ("", .text "")],
              Row.ofCells [("a", .number 4)]] }
          (listingText ["a", "PROJECT b", "", "a"])).outcome =
        .ok [Row.ofCells [("a", .number 3), ("PROJECT b", .number 2), ("", .text "")],
          Row.ofCells [("a", .number 4)]]) ∧
      ∃ results,
        ((ofRows [Row.ofCells [("b", .number 1), ("a", .text "x")],
            Row.ofCells [("a", .text "y"), ("b", .number 2)]]).query
          (listingText ["b", "a"])).outcome = .ok results ∧
        List.Forall₂ (fun result row => (result == row) = true) results
          [Row.ofCells [("b", .number 1), ("a", .text "x")],
            Row.ofCells [("a", .text "y"), ("b", .number 2)]] := by
  have loaded : (ofText {} "a, PROJECT b,,a\n1,2,,3\n4\n").outcome = .ok
      { schema := ⟨[("a", .number), ("PROJECT b", .number), ("", .text), ("a", .number)]⟩
        rows := [Row.ofCells [("a", .number 3), ("PROJECT b", .number 2), ("", .text "")],
          Row.ofCells [("a", .number 4)]] } := by
    rfl
  have odd : ListableNames ["a", "PROJECT b", "", "a"] := by
    have uncut : ∀ name ∈ ["a", "PROJECT b", "", "a"], cut? filterMark name.toList = none := by
      decide
    exact ⟨by decide, by decide, fun name member => cut?_eq_none_iff.mp (uncut name member)⟩
  refine ⟨⟨loaded, query_listingText.1 _ _ _ loaded odd⟩, ?_⟩
  exact query_listingText.2 [Row.ofCells [("b", .number 1), ("a", .text "x")],
    Row.ofCells [("a", .text "y"), ("b", .number 2)]] ⟨by decide, by decide, by decide⟩ (by decide)

end Table
end Tabular
