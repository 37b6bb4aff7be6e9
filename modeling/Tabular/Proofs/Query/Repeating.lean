import Mathlib.Data.List.Forall2
import Tabular.Proofs.Query.Running
import Tabular.Proofs.Row.Equality

namespace Tabular
namespace Query

open Log

/-!
# Queries on results and on equal rows

Whether a row is kept depends on the cell under the compared column.  As long as
that column is projected, what was kept once is kept again, and the results come
back as they are.  Otherwise the second run fails on its first row.

Equal rows hold the same cells under the same names and may list their columns
in different orders.  No query tells them apart.
-/

/-! ## Results -/

variable {query : Query} {rows results : List Row} {row left right : Row} {column : String}
  {comparison : Comparison} {comparison? : Option Comparison}

/-- Rows that hold the same under the compared column are judged alike, and
leave the same trail. -/
theorem keeps_congr
    (same : ∀ comparison ∈ comparison?,
      left.get? comparison.column = right.get? comparison.column) :
    keeps left comparison? = keeps right comparison? := by
  cases comparison? with
  | none => rfl
  | some comparison => rw [keeps, keeps, same comparison rfl]

theorem column_mem_of_keeps (kept : query.Keeps row) (clause : query.clause = .applied comparison) :
    comparison.column ∈ row.columns := by
  by_contra absent
  have fails : (keeps row query.comparison?).outcome = .error (.missingColumn comparison.column) :=
    keeps_eq_error.mpr ⟨comparison, comparison?_eq_some.mpr clause, absent, rfl⟩
  rw [Keeps, fails] at kept
  cases kept

/-- Rows that are all kept are all projected. -/
theorem run_of_kept (kept : ∀ row ∈ rows, query.Keeps row) :
    (query.run rows).outcome = .ok (rows.map fun row => row.project query.projection) := by
  rw [run_eq_ok]
  constructor
  · rintro column ⟨⟨comparison, clause, rfl⟩, row, member, absent⟩
    exact absent (column_mem_of_keeps (kept row member) clause)
  · rw [List.filter_eq_self.mpr fun row member => decide_eq_true (kept row member)]

/-- A kept row is still kept when its projection has the compared column. -/
theorem keeps_project_iff (projected : ∀ comparison, query.clause = .applied comparison →
      comparison.column ∈ query.projection) :
    query.Keeps (row.project query.projection) ↔ query.Keeps row := by
  have judged : keeps (row.project query.projection) query.comparison? =
      keeps row query.comparison? := by
    apply keeps_congr
    intro comparison compared
    rw [Row.get?_project, if_pos (projected comparison (comparison?_eq_some.mp compared))]
  rw [Keeps, judged, Keeps]

/-- With the compared column projected, the projections of kept rows are kept as they are. -/
theorem run_projected (projected : ∀ comparison, query.clause = .applied comparison →
      comparison.column ∈ query.projection) (kept : ∀ row ∈ rows, query.Keeps row) :
    (query.run (rows.map fun row => row.project query.projection)).outcome =
      .ok (rows.map fun row => row.project query.projection) := by
  have still : ∀ result ∈ rows.map fun row => row.project query.projection,
      query.Keeps result := by
    intro result member
    rcases List.mem_map.mp member with ⟨row, among, rfl⟩
    exact (keeps_project_iff projected).mpr (kept row among)
  rw [run_of_kept still, List.map_map]
  congr 1
  apply List.map_congr_left
  intro row _
  exact row.project_project query.projection

/-- Without the compared column no projection of a row can be judged. -/
theorem run_hidden (clause : query.clause = .applied comparison)
    (hidden : comparison.column ∉ query.projection) (filled : rows ≠ []) :
    (query.run (rows.map fun row => row.project query.projection)).outcome =
      .error (.missingColumn comparison.column) := by
  rcases List.exists_mem_of_ne_nil _ filled with ⟨row, member⟩
  refine run_eq_error.mpr ⟨_, ⟨⟨comparison, clause, rfl⟩, ?_⟩, rfl⟩
  refine ⟨_, List.mem_map_of_mem member, ?_⟩
  rw [Row.mem_columns_project, not_and]
  exact fun asked => absurd asked hidden

/-- The outcome of running a query on its own results.  They come back as they
are when the compared column, if there is one, is projected.  Otherwise the
second run fails and names that column, unless there are no results. -/
theorem run_results (done : ((query.run rows).mapError Error.evaluation).outcome = .ok results) :
    ((∀ comparison, query.clause = .applied comparison →
        comparison.column ∈ query.projection) →
      ((query.run results).mapError Error.evaluation).outcome = .ok results) ∧
    ∀ comparison, query.clause = .applied comparison → comparison.column ∉ query.projection →
      (results ≠ [] → ((query.run results).mapError Error.evaluation).outcome =
        .error (.evaluation (.missingColumn comparison.column))) ∧
      (results = [] → ((query.run results).mapError Error.evaluation).outcome = .ok []) := by
  rw [Logged.mapError_outcome, mapError_eq_ok, run_eq_ok] at done
  rcases done with ⟨-, rfl⟩
  refine ⟨?_, ?_⟩
  · intro projected
    have kept : ∀ row ∈ rows.filter query.Keeps, query.Keeps row := fun _ among =>
      of_decide_eq_true (List.mem_filter.mp among).2
    rw [Logged.mapError_outcome, run_projected projected kept, ok_mapError]
  · intro comparison clause hidden
    refine ⟨?_, ?_⟩
    · intro filled
      have present := mt List.map_eq_nil_iff.mpr filled
      rw [Logged.mapError_outcome, run_hidden clause hidden present, error_mapError]
    · intro nothing
      rw [nothing]
      rfl

/-- A repeated and an unknown name do no harm, and the compared column is needed again. -/
theorem run_results_unordered :
    (((Query.mk ["b", "x", "a", "b"] (.applied ⟨"b", .greaterThan, "1"⟩)).run
        [Row.ofCells [("a", .text "u"), ("b", .number 5)],
          Row.ofCells [("b", .number 0)]]).mapError Error.evaluation).outcome =
        .ok [Row.ofCells [("b", .number 5), ("a", .text "u")]] ∧
      (((Query.mk ["b", "x", "a", "b"] (.applied ⟨"b", .greaterThan, "1"⟩)).run
        [Row.ofCells [("b", .number 5), ("a", .text "u")]]).mapError Error.evaluation).outcome =
        .ok [Row.ofCells [("b", .number 5), ("a", .text "u")]] ∧
      (((Query.mk ["a"] (.applied ⟨"b", .greaterThan, "1"⟩)).run
        [Row.ofCells [("a", .text "u"), ("b", .number 5)]]).mapError Error.evaluation).outcome =
        .ok [Row.ofCells [("a", .text "u")]] ∧
      (((Query.mk ["a"] (.applied ⟨"b", .greaterThan, "1"⟩)).run
        [Row.ofCells [("a", .text "u")]]).mapError Error.evaluation).outcome =
        .error (.evaluation (.missingColumn "b")) := by
  have first : (((Query.mk ["b", "x", "a", "b"] (.applied ⟨"b", .greaterThan, "1"⟩)).run
      [Row.ofCells [("a", .text "u"), ("b", .number 5)],
        Row.ofCells [("b", .number 0)]]).mapError Error.evaluation).outcome =
      .ok [Row.ofCells [("b", .number 5), ("a", .text "u")]] := by
    rfl
  have second : (((Query.mk ["a"] (.applied ⟨"b", .greaterThan, "1"⟩)).run
      [Row.ofCells [("a", .text "u"), ("b", .number 5)]]).mapError Error.evaluation).outcome =
      .ok [Row.ofCells [("a", .text "u")]] := by
    rfl
  refine ⟨first, (run_results first).1 ?_, second, ?_⟩
  · rintro comparison ⟨⟩
    decide
  · exact ((run_results second).2 _ rfl (by decide)).1 (by simp)

/-! ## Equal rows -/

variable {lefts rights : List Row}

/-- Rows with the same answers are selected alike, and yield the very same result. -/
theorem select_congr (answers : ∀ name, left.get? name = right.get? name) :
    query.select left = query.select right := by
  have judged : keeps left query.comparison? = keeps right query.comparison? :=
    keeps_congr fun comparison _ => answers comparison.column
  rw [select, select, judged, Row.project_congr answers]

/-- A run does not depend on the order of the columns in the rows it is given. -/
theorem run_congr (equal : List.Forall₂ (fun left right => (left == right) = true) lefts rights) :
    query.run lefts = query.run rights := by
  have selected : lefts.mapM query.select = rights.mapM query.select := by
    induction equal with
    | nil => rfl
    | cons first others inductionHypothesis =>
        rw [List.mapM_cons, List.mapM_cons, select_congr (Row.get?_eq_of_beq first),
          inductionHypothesis]
  rw [run, run, selected, equal.length_eq]

/-- The results are the same in spite of the columns, which the two first rows list differently. -/
theorem run_congr_reordered :
    List.Forall₂ (fun left right => (left == right) = true)
        [Row.ofCells [("a", .text "u"), ("b", .number 5)], Row.ofCells [("b", .number 0)]]
        [Row.ofCells [("b", .number 5), ("a", .text "u")], Row.ofCells [("b", .number 0)]] ∧
      (Query.mk ["b", "x", "a", "b"] (.applied ⟨"b", .greaterThan, "1"⟩)).run
          [Row.ofCells [("a", .text "u"), ("b", .number 5)], Row.ofCells [("b", .number 0)]] =
        (Query.mk ["b", "x", "a", "b"] (.applied ⟨"b", .greaterThan, "1"⟩)).run
          [Row.ofCells [("b", .number 5), ("a", .text "u")], Row.ofCells [("b", .number 0)]] := by
  have equal : List.Forall₂ (fun left right => (left == right) = true)
      [Row.ofCells [("a", .text "u"), ("b", .number 5)], Row.ofCells [("b", .number 0)]]
      [Row.ofCells [("b", .number 5), ("a", .text "u")], Row.ofCells [("b", .number 0)]] :=
    .cons rfl (.cons rfl .nil)
  exact ⟨equal, run_congr equal⟩

end Query
end Tabular
