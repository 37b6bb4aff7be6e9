import Tabular.Proofs.Row
import Tabular.Schema

namespace Tabular

/-!
# Collecting the schema of rows

A name that is new is appended with its kind, and one that has been seen with
the same kind changes nothing.  Rows whose names and kinds are beginnings of one
list of columns are therefore noted as the longest of these beginnings.
-/

namespace Row

/-- The names of a row with the kinds of their cells. -/
def kinds (row : Row) : List (String × Kind) :=
  row.cells.map fun entry => (entry.1, entry.2.kind)

/-- The largest number of cells in a row, or zero without rows. -/
def widest (rows : List Row) : Nat :=
  ((rows.map size).max?).getD 0

theorem length_kinds (row : Row) : row.kinds.length = row.size := by
  rw [kinds, List.length_map, length_cells]

theorem size_le_widest {row : Row} {rows : List Row} (member : row ∈ rows) :
    row.size ≤ widest rows :=
  List.le_max?_getD_of_mem (List.mem_map_of_mem member)

/-- The width as a running maximum. -/
theorem foldl_max_size (rows : List Row) : (rows.map size).foldl max 0 = widest rows := by
  cases rows with
  | nil => rfl
  | cons row rows =>
      rw [widest, List.map_cons, List.max?_cons', List.foldl_cons, Nat.zero_max, Option.getD_some]

end Row

namespace Schema

variable {columns : List (String × Kind)} {name : String} {kind : Kind} {rows : List Row}

theorem note_of_mem (distinct : (columns.map Prod.fst).Nodup) (member : (name, kind) ∈ columns) :
    note name kind columns = columns := by
  induction columns with
  | nil => cases member
  | cons column rest inductionHypothesis =>
      rw [List.map_cons, List.nodup_cons] at distinct
      rcases List.mem_cons.mp member with rfl | later
      · cases kind <;> simp [note]
      · have different : column.1 ≠ name := by
          rintro rfl
          exact distinct.1 (List.mem_map.mpr ⟨_, later, rfl⟩)
        rw [note, if_neg different, inductionHypothesis distinct.2 later]

theorem note_of_not_mem (absent : name ∉ columns.map Prod.fst) :
    note name kind columns = columns ++ [(name, kind)] := by
  induction columns with
  | nil => rfl
  | cons column rest inductionHypothesis =>
      rw [List.map_cons, List.mem_cons, not_or] at absent
      rw [note, if_neg (Ne.symm absent.1), inductionHypothesis absent.2, List.cons_append]

/-! ## Names -/

theorem names_note (name : String) (kind : Kind) (columns : List (String × Kind)) :
    (note name kind columns).map Prod.fst =
      if name ∈ columns.map Prod.fst then columns.map Prod.fst
      else columns.map Prod.fst ++ [name] := by
  split
  · next present =>
      induction columns with
      | nil => cases present
      | cons column rest inductionHypothesis =>
          by_cases same : column.1 = name
          · rw [note, if_pos same, List.map_cons, List.map_cons]
          · have later : name ∈ rest.map Prod.fst :=
              (List.mem_cons.mp present).resolve_left (Ne.symm same)
            rw [note, if_neg same, List.map_cons, inductionHypothesis later, List.map_cons]
  · next absent => rw [note_of_not_mem absent, List.map_append, List.map_singleton]

theorem names_foldl_note (cells : List (String × Cell)) :
    (cells.foldl (fun columns entry => note entry.1 entry.2.kind columns) []).map Prod.fst =
      (cells.map Prod.fst).eraseDups := by
  induction cells using List.reverseRecOn with
  | nil => rfl
  | append_singleton cells cell inductionHypothesis =>
      rw [List.foldl_concat, names_note, inductionHypothesis, List.map_append, List.map_singleton,
        Row.eraseDups_concat]
      simp only [List.mem_eraseDups]

/-- The collected names are those of the rows, each where it occurs first. -/
theorem names_ofRows (rows : List Row) :
    (ofRows rows).names = (rows.flatMap Row.columns).eraseDups := by
  simp only [names, ofRows, names_foldl_note, List.map_flatMap, Row.map_fst_cells]

theorem columns_subset_names_ofRows {row : Row} (member : row ∈ rows) :
    row.columns ⊆ (ofRows rows).names := by
  intro name among
  rw [names_ofRows, List.mem_eraseDups, List.mem_flatMap]
  exact ⟨row, member, among⟩

/-! ## Beginnings of the same columns -/

/-- Note several cells, given by their names and kinds, one after another. -/
def noteAll (seen cells : List (String × Kind)) : List (String × Kind) :=
  cells.foldl (fun columns cell => note cell.1 cell.2 columns) seen

theorem ofRows_columns (rows : List Row) :
    (ofRows rows).columns = rows.foldl (fun seen row => noteAll seen row.kinds) [] := by
  simp only [ofRows, List.foldl_flatMap, noteAll, Row.kinds, List.foldl_map]

/-- Cells that have been seen with the same kinds change nothing. -/
theorem noteAll_of_subset {cells : List (String × Kind)}
    (distinct : (columns.map Prod.fst).Nodup) (seen : cells ⊆ columns) :
    noteAll columns cells = columns := by
  induction cells with
  | nil => rfl
  | cons cell cells inductionHypothesis =>
      rw [List.cons_subset] at seen
      calc
        noteAll columns (cell :: cells) = noteAll (note cell.1 cell.2 columns) cells := rfl
        _ = noteAll columns cells := by rw [note_of_mem distinct seen.1]
        _ = columns := inductionHypothesis seen.2

/-- Cells under new names are appended. -/
theorem noteAll_of_new {cells : List (String × Kind)}
    (distinct : ((columns ++ cells).map Prod.fst).Nodup) :
    noteAll columns cells = columns ++ cells := by
  induction cells generalizing columns with
  | nil => exact (List.append_nil columns).symm
  | cons cell cells inductionHypothesis =>
      have absent : cell.1 ∉ columns.map Prod.fst := by
        rw [List.map_append, List.nodup_append] at distinct
        exact fun among => distinct.2.2 cell.1 among cell.1 List.mem_cons_self rfl
      rw [List.append_cons] at distinct ⊢
      calc
        noteAll columns (cell :: cells) = noteAll (note cell.1 cell.2 columns) cells := rfl
        _ = noteAll (columns ++ [cell]) cells := by rw [note_of_not_mem absent]
        _ = columns ++ [cell] ++ cells := inductionHypothesis distinct

/-- Of two beginnings of the same columns the longer one remains. -/
theorem noteAll_take (distinct : (columns.map Prod.fst).Nodup) (reach width : Nat) :
    noteAll (columns.take reach) (columns.take width) = columns.take (max reach width) := by
  have beginning : ∀ count, ((columns.take count).map Prod.fst).Nodup := fun count =>
    distinct.sublist ((List.take_sublist count columns).map Prod.fst)
  rcases Nat.le_total width reach with narrow | wide
  · rw [Nat.max_eq_left narrow]
    exact noteAll_of_subset (beginning reach) (List.take_subset_take_left columns narrow)
  · have split : columns.take width = columns.take reach ++ (columns.take width).drop reach := by
      conv_lhs => rw [← List.take_append_drop reach (columns.take width), List.take_take,
        Nat.min_eq_left wide]
    have again : noteAll (columns.take reach) (columns.take reach) = columns.take reach :=
      noteAll_of_subset (beginning reach) (List.Subset.refl _)
    calc
      noteAll (columns.take reach) (columns.take width) =
          noteAll (noteAll (columns.take reach) (columns.take reach))
            ((columns.take width).drop reach) := by
        conv_lhs => rw [split]
        exact List.foldl_append ..
      _ = noteAll (columns.take reach) ((columns.take width).drop reach) := by rw [again]
      _ = columns.take reach ++ (columns.take width).drop reach :=
        noteAll_of_new (split ▸ beginning width)
      _ = columns.take (max reach width) := by rw [← split, Nat.max_eq_right wide]

theorem foldl_noteAll_take (distinct : (columns.map Prod.fst).Nodup)
    (each : ∀ row ∈ rows, row.kinds = columns.take row.size) (reach : Nat) :
    rows.foldl (fun seen row => noteAll seen row.kinds) (columns.take reach) =
      columns.take ((rows.map Row.size).foldl max reach) := by
  induction rows generalizing reach with
  | nil => rfl
  | cons row rows inductionHypothesis =>
      rw [List.forall_mem_cons] at each
      rw [List.foldl_cons, each.1, noteAll_take distinct, inductionHypothesis each.2,
        List.map_cons, List.foldl_cons]

/-- Rows that begin like the same columns have as many of these as the widest row. -/
theorem ofRows_of_beginnings (distinct : (columns.map Prod.fst).Nodup)
    (each : ∀ row ∈ rows, row.kinds = columns.take row.size) :
    (ofRows rows).columns = columns.take (Row.widest rows) := by
  rw [ofRows_columns, ← Row.foldl_max_size]
  exact foldl_noteAll_take distinct each 0

end Schema
end Tabular
