import Mathlib.Data.List.Nodup
import Mathlib.Data.List.Perm.Subperm
import Tabular.Proofs.Row

namespace Tabular
namespace Row

/-!
# Equality and projection

Equality looks up every cell of the left row on the right and nothing on the
left.  Names do not repeat, so the test still cannot depend on the side: rows
are equal when they answer alike for every name.

A projection answers for the names that were asked for as its source does, and
for no others.  Names that cover all columns give a row that is equal to its
source, and the same one when they come in the order of its columns.
-/

variable {name : String} {left right : Row} {lefts rights : List (String × Cell)}

/-- The test as it is made, its look-up read as membership. -/
theorem beq_iff_size_eq_and_mem : (left == right) = true ↔
    left.size = right.size ∧ ∀ entry ∈ left.cells, entry ∈ right.cells := by
  change (left.size == right.size &&
    left.cells.all fun entry => right.get? entry.1 == some entry.2) = true ↔ _
  rw [Bool.and_eq_true, beq_iff_eq, List.all_eq_true]
  refine and_congr_right fun _ => forall₂_congr fun entry _ => ?_
  rw [beq_iff_eq, ← mem_cells_iff]

theorem nodup_cells (row : Row) : row.cells.Nodup := by
  apply List.Nodup.of_map Prod.fst
  rw [map_fst_cells]
  exact row.distinct

/-- Rows are equal exactly when they list the same cells, each in its own order. -/
theorem beq_iff_perm : (left == right) = true ↔ left.cells.Perm right.cells := by
  rw [beq_iff_size_eq_and_mem, ← length_cells, ← length_cells]
  constructor
  · rintro ⟨sameSize, within⟩
    exact (left.nodup_cells.subperm within).perm_of_length_le (Nat.le_of_eq sameSize.symm)
  · intro same
    exact ⟨same.length_eq, fun _ member => same.mem_iff.mp member⟩

/-- Rows are equal exactly when they answer alike. -/
theorem beq_iff_get?_eq :
    (left == right) = true ↔ ∀ name, left.get? name = right.get? name := by
  rw [beq_iff_perm, List.perm_ext_iff_of_nodup left.nodup_cells right.nodup_cells]
  constructor
  · intro same name
    apply Option.ext
    intro cell
    rw [← mem_cells_iff, ← mem_cells_iff, same]
  · rintro answers ⟨name, cell⟩
    rw [mem_cells_iff, mem_cells_iff, answers]

/-- Equal rows answer alike.  Equality only looks for the cells of the left on
the right; that it finds all cells of the right follows from their number. -/
theorem get?_eq_of_beq (equal : (left == right) = true) (name : String) :
    left.get? name = right.get? name :=
  beq_iff_get?_eq.mp equal name

/-- Rows that answer alike are equal, whatever the order of their columns is. -/
theorem beq_of_get?_eq (answers : ∀ name, left.get? name = right.get? name) :
    (left == right) = true :=
  beq_iff_get?_eq.mpr answers

instance : EquivBEq Row where
  rfl := beq_of_get?_eq fun _ => rfl
  symm := by
    intro left right equal
    exact beq_of_get?_eq fun name => (get?_eq_of_beq equal name).symm
  trans := by
    intro left middle right early late
    exact beq_of_get?_eq fun name => (get?_eq_of_beq early name).trans (get?_eq_of_beq late name)

/-- Cells under distinct names can be written in any order. -/
theorem ofCells_beq_of_perm (distinct : (lefts.map Prod.fst).Nodup)
    (reordered : lefts.Perm rights) :
    (ofCells lefts == ofCells rights) = true := by
  have others : (rights.map Prod.fst).Nodup := (reordered.map Prod.fst).nodup_iff.mp distinct
  rw [beq_iff_perm, cells_ofCells_of_nodup distinct, cells_ofCells_of_nodup others]
  exact reordered

theorem beq_eq_false_of_kind {cell other : Cell} (here : left.get? name = some cell)
    (there : right.get? name = some other) (different : cell.kind ≠ other.kind) :
    (left == right) = false := by
  rw [Bool.eq_false_iff]
  intro equal
  have same := get?_eq_of_beq equal name
  rw [here, there, Option.some.injEq] at same
  exact different (congrArg Cell.kind same)

/-- Equality of rows is equality of finite maps.  It is an equivalence, the
order in which cells are written does not enter it, and a number is never
equal to a text, also not to the one that displays it. -/
theorem beq_extensional :
    (∀ left right : Row, (left == right) = true ↔ ∀ name, left.get? name = right.get? name) ∧
    ((∀ row : Row, (row == row) = true) ∧
      (∀ left right : Row, (left == right) = true → (right == left) = true) ∧
      ∀ left middle right : Row, (left == middle) = true → (middle == right) = true →
        (left == right) = true) ∧
    ((∀ left right : Row, (left == right) = true ↔ left.cells.Perm right.cells) ∧
      ∀ lefts rights : List (String × Cell), (lefts.map Prod.fst).Nodup → lefts.Perm rights →
        (ofCells lefts == ofCells rights) = true) ∧
    ∀ (left right : Row) (name : String) (word : Int64) (content : String),
      left.get? name = some (.number word) → right.get? name = some (.text content) →
        (left == right) = false := by
  refine ⟨fun _ _ => beq_iff_get?_eq, ⟨?_, ?_, ?_⟩, ⟨fun _ _ => beq_iff_perm, ?_⟩, ?_⟩
  · exact fun _ => BEq.rfl
  · exact fun _ _ => BEq.symm
  · exact fun _ _ _ => BEq.trans
  · exact fun _ _ => ofCells_beq_of_perm
  · intro left right name word content here there
    exact beq_eq_false_of_kind here there nofun

example : (ofCells [("a", .number 5), ("b", .text "u")] ==
    ofCells [("b", .text "u"), ("a", .text "5")]) = false := by
  rfl

/-! ## Projections -/

variable {names front behind : List String} {row : Row}

theorem mem_columns_project :
    name ∈ (row.project names).columns ↔ name ∈ names ∧ name ∈ row.columns := by
  rw [(isProjection_project row names).columns, List.mem_eraseDups, List.mem_filter,
    decide_eq_true_iff]

theorem get?_eq_none_iff : row.get? name = none ↔ name ∉ row.columns := by
  rw [mem_columns_iff, not_exists, Option.eq_none_iff_forall_ne_some]

theorem get?_project (row : Row) (names : List String) (name : String) :
    (row.project names).get? name = if name ∈ names then row.get? name else none := by
  by_cases present : name ∈ (row.project names).columns
  · rw [(isProjection_project row names).answers name present,
      if_pos (mem_columns_project.mp present).1]
  · rw [get?_eq_none_iff.mpr present]
    split
    · next asked =>
        rw [eq_comm, get?_eq_none_iff]
        exact fun among => present (mem_columns_project.mpr ⟨asked, among⟩)
    · rfl

/-- The order of a projection comes from the requested names alone. -/
theorem project_congr (answers : ∀ name, left.get? name = right.get? name)
    (names : List String) : left.project names = right.project names := by
  simp only [project, answers]

/-- A row is its own projection when the requested names list its columns in order. -/
theorem project_eq_self (ordered : row.columns = (names.filter (· ∈ row.columns)).eraseDups) :
    row.project names = row := by
  rw [eq_comm, ← isProjection_iff]
  exact ⟨ordered, fun _ _ => rfl⟩

/-- Projecting a second time to the same names changes nothing. -/
theorem project_project (row : Row) (names : List String) :
    (row.project names).project names = row.project names := by
  have kept : names.filter (· ∈ (row.project names).columns) =
      names.filter (· ∈ row.columns) := by
    apply List.filter_congr
    intro name asked
    rw [decide_eq_decide, mem_columns_project]
    exact and_iff_right asked
  apply project_eq_self
  rw [kept, ← (isProjection_project row names).columns]

theorem project_of_columns_eq_nil (bare : row.columns = []) (names : List String) :
    row.project names = row := by
  apply project_eq_self
  rw [bare]
  simp

theorem eraseDups_append_of_subset (within : behind ⊆ front) :
    (front ++ behind).eraseDups = front.eraseDups := by
  have nothing : behind.removeAll front = [] := by
    rw [List.removeAll, List.filter_eq_nil_iff]
    intro name member
    simpa using within member
  rw [List.eraseDups_append, nothing, List.eraseDups_nil, List.append_nil]

/-- A row is its own projection to any names that begin with those under which
it was written, repetitions included. -/
theorem project_of_take {width : Nat} (written : row.columns = (names.take width).eraseDups) :
    row.project names = row := by
  have early : (names.take width).filter (· ∈ row.columns) = names.take width := by
    rw [List.filter_eq_self]
    intro name member
    rw [decide_eq_true_iff, written, List.mem_eraseDups]
    exact member
  have late : (names.drop width).filter (· ∈ row.columns) ⊆ names.take width := by
    intro name member
    rw [List.mem_filter, decide_eq_true_iff, written, List.mem_eraseDups] at member
    exact member.2
  apply project_eq_self
  conv_rhs => rw [← List.take_append_drop width names, List.filter_append, early]
  rw [eraseDups_append_of_subset late, written]

/-- A projection that leaves no column out is equal to its source. -/
theorem project_beq (covered : row.columns ⊆ names) : (row.project names == row) = true := by
  apply beq_of_get?_eq
  intro name
  rw [get?_project]
  split
  · rfl
  · next absent =>
      rw [eq_comm, get?_eq_none_iff]
      exact fun among => absent (covered among)

end Row
end Tabular
