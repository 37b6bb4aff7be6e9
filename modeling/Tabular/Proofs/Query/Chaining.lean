import Tabular.Proofs.Query.Repeating

namespace Tabular
namespace Query

open Log

/-!
# Filters applied one after the other

A second comparison of the results meets projected rows.  As long as the
projection has its column, its verdict is the one on the source, so the two can
be asked for in either order.  The orders need not fail alike: a row that the
first comparison drops is never shown to the second, whose column it may lack.
-/

variable {names : List String} {rows half results otherHalf otherResults : List Row}
  {first second : Comparison}

/-- The query that projects the rows of which a comparison holds. -/
def filtering (names : List String) (comparison : Comparison) : Query where
  projection := names
  clause := .applied comparison

/-- A filter is run on rows, and then another one on its results. -/
structure Chained (names : List String) (first second : Comparison)
    (rows half results : List Row) : Prop where
  now : (((filtering names first).run rows).mapError Error.evaluation).outcome = .ok half
  later : (((filtering names second).run half).mapError Error.evaluation).outcome = .ok results

/-- A projected column is compared alike before and after the projection. -/
theorem keeps_filtering_project_iff (projected : second.column ∈ names) (row : Row) :
    (filtering names second).Keeps (row.project names) ↔ (filtering names second).Keeps row := by
  have compared : ∀ comparison, (filtering names second).clause = .applied comparison →
      comparison.column ∈ (filtering names second).projection := by
    intro comparison clause
    cases clause
    exact projected
  exact keeps_project_iff compared

theorem filter_map_project (projected : second.column ∈ names) (rows : List Row) :
    (rows.map fun row => row.project names).filter (filtering names second).Keeps =
      (rows.filter (filtering names second).Keeps).map fun row => row.project names := by
  rw [List.filter_map]
  congr 1
  apply List.filter_congr
  intro row _
  exact decide_eq_decide.mpr (keeps_filtering_project_iff projected row)

/-- What is left by two filters are the projections of the rows of which both hold. -/
theorem Chained.results_eq (chained : Chained names first second rows half results)
    (projected : second.column ∈ names) :
    results = (rows.filter fun row => (filtering names first).Keeps row ∧
      (filtering names second).Keeps row).map fun row => row.project names := by
  have now := (run_eq_ok.mp (mapError_eq_ok.mp chained.now)).2
  have later := (run_eq_ok.mp (mapError_eq_ok.mp chained.later)).2
  have both : (rows.filter (filtering names first).Keeps).filter (filtering names second).Keeps =
      rows.filter fun row => (filtering names first).Keeps row ∧
        (filtering names second).Keeps row := by
    rw [List.filter_filter]
    apply List.filter_congr
    intro row _
    rw [Bool.decide_and, Bool.and_comm]
  calc
    results = (half.filter (filtering names second).Keeps).map
        fun row => row.project names := later
    _ = (((rows.filter (filtering names first).Keeps).filter
        (filtering names second).Keeps).map fun row => row.project names).map
          fun row => row.project names := by
      rw [now]
      exact congrArg _ (filter_map_project projected _)
    _ = ((rows.filter (filtering names first).Keeps).filter
        (filtering names second).Keeps).map fun row => row.project names := by
      rw [List.map_map]
      apply List.map_congr_left
      intro row _
      exact row.project_project names
    _ = _ := congrArg _ both

/-- Nothing fails when every row holds the compared column. -/
theorem run_filtering (held : ∀ row ∈ rows, first.column ∈ row.columns) :
    (((filtering names first).run rows).mapError Error.evaluation).outcome =
      .ok ((rows.filter (filtering names first).Keeps).map fun row => row.project names) := by
  apply mapError_eq_ok.mpr
  apply run_eq_ok.mpr
  constructor
  · rintro column ⟨⟨comparison, clause, rfl⟩, row, member, absent⟩
    cases clause
    exact absent (held row member)
  · rfl

theorem exists_chained (projected : second.column ∈ names)
    (heldFirst : ∀ row ∈ rows, first.column ∈ row.columns)
    (heldSecond : ∀ row ∈ rows, second.column ∈ row.columns) :
    ∃ half results, Chained names first second rows half results := by
  refine ⟨_, _, run_filtering heldFirst, run_filtering ?_⟩
  intro row member
  rcases List.mem_map.mp member with ⟨source, kept, rfl⟩
  have present := heldSecond source (List.mem_filter.mp kept).1
  exact Row.mem_columns_project.mpr ⟨projected, present⟩

/-- Two filters whose columns are projected commute.  When both orders succeed
they arrive at the same rows, the projections of those of which both filters
hold, and they do succeed when every row holds both columns. -/
theorem chained_comm (firstProjected : first.column ∈ names)
    (secondProjected : second.column ∈ names) (rows : List Row) :
    (∀ half results otherHalf otherResults,
      Chained names first second rows half results →
        Chained names second first rows otherHalf otherResults →
          results = otherResults ∧
            results = (rows.filter fun row => (filtering names first).Keeps row ∧
              (filtering names second).Keeps row).map fun row => row.project names) ∧
    ((∀ row ∈ rows, first.column ∈ row.columns ∧ second.column ∈ row.columns) →
      (∃ half results, Chained names first second rows half results) ∧
        ∃ otherHalf otherResults, Chained names second first rows otherHalf otherResults) := by
  constructor
  · intro half results otherHalf otherResults chained other
    have left := chained.results_eq secondProjected
    have right := other.results_eq firstProjected
    refine ⟨?_, left⟩
    rw [left, right]
    congr 1
    apply List.filter_congr
    intro row _
    exact decide_eq_decide.mpr and_comm
  · intro held
    have heldFirst : ∀ row ∈ rows, first.column ∈ row.columns := fun row member =>
      (held row member).1
    have heldSecond : ∀ row ∈ rows, second.column ∈ row.columns := fun row member =>
      (held row member).2
    exact ⟨exists_chained secondProjected heldFirst heldSecond,
      exists_chained firstProjected heldSecond heldFirst⟩

/-- A repeated and an unknown name are projected, and the two filters drop different rows. -/
theorem chained_comm_unordered :
    Chained ["b", "x", "a", "b"] ⟨"a", .equal, "u"⟩ ⟨"b", .lessThan, "5"⟩
        [Row.ofCells [("a", .text "u"), ("b", .number 4)],
          Row.ofCells [("b", .number 1), ("a", .text "w")],
          Row.ofCells [("a", .text "u"), ("b", .number 9)]]
        [Row.ofCells [("b", .number 4), ("a", .text "u")],
          Row.ofCells [("b", .number 9), ("a", .text "u")]]
        [Row.ofCells [("b", .number 4), ("a", .text "u")]] ∧
      ∃ otherHalf, Chained ["b", "x", "a", "b"] ⟨"b", .lessThan, "5"⟩ ⟨"a", .equal, "u"⟩
        [Row.ofCells [("a", .text "u"), ("b", .number 4)],
          Row.ofCells [("b", .number 1), ("a", .text "w")],
          Row.ofCells [("a", .text "u"), ("b", .number 9)]]
        otherHalf [Row.ofCells [("b", .number 4), ("a", .text "u")]] := by
  have chained : Chained ["b", "x", "a", "b"] ⟨"a", .equal, "u"⟩ ⟨"b", .lessThan, "5"⟩
      [Row.ofCells [("a", .text "u"), ("b", .number 4)],
        Row.ofCells [("b", .number 1), ("a", .text "w")],
        Row.ofCells [("a", .text "u"), ("b", .number 9)]]
      [Row.ofCells [("b", .number 4), ("a", .text "u")],
        Row.ofCells [("b", .number 9), ("a", .text "u")]]
      [Row.ofCells [("b", .number 4), ("a", .text "u")]] :=
    ⟨rfl, rfl⟩
  have firstProjected : (Comparison.mk "a" .equal "u").column ∈ ["b", "x", "a", "b"] := by decide
  have secondProjected : (Comparison.mk "b" .lessThan "5").column ∈ ["b", "x", "a", "b"] := by
    decide
  rcases chained_comm firstProjected secondProjected
    [Row.ofCells [("a", .text "u"), ("b", .number 4)],
      Row.ofCells [("b", .number 1), ("a", .text "w")],
      Row.ofCells [("a", .text "u"), ("b", .number 9)]] with ⟨agree, succeed⟩
  rcases (succeed (by decide)).2 with ⟨otherHalf, otherResults, other⟩
  rw [← (agree _ _ _ _ chained other).1] at other
  exact ⟨chained, otherHalf, other⟩

/-- A row that the first filter drops may lack the column of the second. -/
example : Chained ["a", "b"] ⟨"a", .equal, "u"⟩ ⟨"b", .equal, "u"⟩
      [Row.ofCells [("a", .text "w")]] [] [] ∧
    ((filtering ["a", "b"] ⟨"b", .equal, "u"⟩).run [Row.ofCells [("a", .text "w")]]).outcome =
      .error (.missingColumn "b") :=
  ⟨⟨rfl, rfl⟩, rfl⟩

end Query
end Tabular
