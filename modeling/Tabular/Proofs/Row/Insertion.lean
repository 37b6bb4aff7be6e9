import Tabular.Proofs.Row.Equality

namespace Tabular
namespace Row

/-!
# Rows as they are written

However a row was built, it is settled by the cells that were written.  Every
written name has one column, at the place of its first writing, and holds the
cell of its last writing.  A single write exchanges the value at the place of
its name, or appends a column and a value.
-/

variable {name : String} {cell : Cell} {entries : List (String × Cell)} {row : Row}

/-- The rows that come from writing the given cells in the given order.  Cells
are written one by one, with or without regard to what they replace, or all at
once into a new row. -/
inductive Built : List (String × Cell) → Row → Prop where
  | empty : Built [] Row.empty
  | replace {entries : List (String × Cell)} {row : Row} (built : Built entries row)
      (name : String) (cell : Cell) : Built (entries ++ [(name, cell)]) (row.replace name cell).2
  | insert {entries : List (String × Cell)} {row : Row} (built : Built entries row)
      (name : String) (cell : Cell) : Built (entries ++ [(name, cell)]) (row.insert name cell)
  | ofCells (entries : List (String × Cell)) : Built entries (Row.ofCells entries)

/-- A row keeps the first place and the last cell of every written name. -/
structure Remembers (entries : List (String × Cell)) (row : Row) : Prop where
  aligned : row.values.length = row.columns.length
  distinct : row.columns.Nodup
  ordered : row.columns = (entries.map Prod.fst).eraseDups
  /-- The cell under a name is the one that was written last. -/
  last : ∀ name cell, row.get? name = some cell ↔
    ∃ earlier later, entries = earlier ++ (name, cell) :: later ∧ name ∉ later.map Prod.fst
  contains : ∀ name, row.contains name = true ↔ name ∈ entries.map Prod.fst
  size : row.size = (entries.map Prod.fst).eraseDups.length

/-- What one write may change of a row, and what it hands back. -/
structure Writes (row : Row) (name : String) (cell : Cell) (result : Option Cell × Row) :
    Prop where
  replaced : result.1 = row.get? name
  /-- The value at the place of the name is exchanged, and only that. -/
  inPlace : ∀ place : Nat, row.columns[place]? = some name →
    row.values[place]? = row.get? name ∧ result.2.columns = row.columns ∧
      result.2.values = row.values.set place cell
  appended : name ∉ row.columns →
    result.2.columns = row.columns ++ [name] ∧ result.2.values = row.values ++ [cell]

/-! ## One write -/

/-- Writing acts on the two lists at one and the same place. -/
theorem writes_replace (row : Row) (name : String) (cell : Cell) :
    Writes row name cell (row.replace name cell) where
  replaced := by
    by_cases present : name ∈ row.columns
    · rcases exists_place present with ⟨place, here⟩
      rw [replace_of_column here, get?_of_column here]
    · rw [replace_of_not_mem present, get?_of_not_mem present]
  inPlace := by
    intro place here
    rw [replace_of_column here, get?_of_column here]
    exact ⟨rfl, rfl, rfl⟩
  appended := by
    intro absent
    rw [replace_of_not_mem absent]
    exact ⟨rfl, rfl⟩

/-! ## All writes -/

/-- The ways to build a row differ in nothing but the words. -/
theorem Built.eq_ofCells (built : Built entries row) : row = Row.ofCells entries := by
  induction built with
  | empty => rfl
  | replace _ name cell inductionHypothesis =>
      rw [inductionHypothesis, ofCells_concat]
      rfl
  | insert _ name cell inductionHypothesis => rw [inductionHypothesis, ofCells_concat]
  | ofCells entries => rfl

theorem contains_iff : row.contains name = true ↔ name ∈ row.columns := by
  rw [contains, ← Option.ne_none_iff_isSome, Ne, place?_eq_none_iff, not_not]

theorem remembers_ofCells (entries : List (String × Cell)) :
    Remembers entries (ofCells entries) where
  aligned := (ofCells entries).aligned
  distinct := (ofCells entries).distinct
  ordered := columns_ofCells entries
  last := fun _ _ => get?_ofCells_eq_some_iff
  contains := by
    intro name
    rw [contains_iff, columns_ofCells, List.mem_eraseDups]
  size := by rw [size, columns_ofCells]

/-- A row is a map in the order of first insertion, however it was built, and
the next write keeps it one. -/
theorem remembers_of_built (built : Built entries row) :
    Remembers entries row ∧ ∀ name cell, Writes row name cell (row.replace name cell) := by
  refine ⟨?_, writes_replace row⟩
  rw [built.eq_ofCells]
  exact remembers_ofCells entries

/-- A name that is written again, after another one, keeps its place. -/
theorem remembers_of_built_overwritten :
    Built [("b", .number 1), ("a", .text "1"), ("b", .text "2")]
        (((Row.ofCells [("b", .number 1)]).insert "a" (.text "1")).replace "b" (.text "2")).2 ∧
      Remembers [("b", .number 1), ("a", .text "1"), ("b", .text "2")]
        (Row.mk ["b", "a"] [.text "2", .text "1"]) ∧
      ∀ name cell, Writes (Row.mk ["b", "a"] [.text "2", .text "1"]) name cell
        ((Row.mk ["b", "a"] [.text "2", .text "1"]).replace name cell) :=
  have built : Built [("b", .number 1), ("a", .text "1"), ("b", .text "2")]
      (((Row.ofCells [("b", .number 1)]).insert "a" (.text "1")).replace "b" (.text "2")).2 :=
    ((Built.ofCells [("b", .number 1)]).insert "a" (.text "1")).replace "b" (.text "2")
  ⟨built, remembers_of_built built⟩

end Row
end Tabular
