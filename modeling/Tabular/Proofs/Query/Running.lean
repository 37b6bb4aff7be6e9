import Mathlib.Data.List.Forall2
import Tabular.Table
import Tabular.Proofs.Log.Outcome
import Tabular.Proofs.Row

namespace Tabular
namespace Query

open Log

/-!
# Running queries

A run is all or nothing.  Judging one row fails only when the query compares a
column that the row lacks, and the failure names that column and nothing of
the row.  Hence it does not matter which row fails first: the failure of a run
is the same for every row that could cause it.

A run that does not fail keeps the rows that are kept one by one, in order and
as often as they occur, and puts the projection in the place of each.
-/

variable {query : Query} {rows sources results : List Row} {row : Row}
  {comparison? : Option Comparison} {failure : EvaluationError}

/-- The query keeps the row. -/
def Keeps (query : Query) (row : Row) : Prop :=
  (keeps row query.comparison?).outcome = .ok true

instance (query : Query) : DecidablePred query.Keeps :=
  fun row => decEq (keeps row query.comparison?).outcome (.ok true)

/-- The query compares a column that some row does not have. -/
structure Lacks (query : Query) (rows : List Row) (column : String) : Prop where
  compared : ∃ comparison, query.clause = .applied comparison ∧ comparison.column = column
  missing : ∃ row ∈ rows, column ∉ row.columns

theorem comparison?_eq_some {comparison : Comparison} :
    query.comparison? = some comparison ↔ query.clause = .applied comparison := by
  rw [Query.comparison?]
  cases query.clause <;> simp [Clause.comparison?]

theorem comparison?_eq_none :
    query.comparison? = none ↔ ∀ comparison, query.clause ≠ .applied comparison := by
  simp only [Option.eq_none_iff_forall_ne_some, Ne, comparison?_eq_some]

/-! ## One row -/

theorem keeps_eq_error : (keeps row comparison?).outcome = .error failure ↔
    ∃ comparison, comparison? = some comparison ∧ comparison.column ∉ row.columns ∧
      failure = .missingColumn comparison.column := by
  cases comparison? with
  | none => simp [keeps]
  | some comparison =>
      cases found : row.get? comparison.column with
      | none =>
          have absent : comparison.column ∉ row.columns := by simp [Row.mem_columns_iff, found]
          simp [keeps, found, absent, eq_comm]
      | some cell =>
          have present : comparison.column ∈ row.columns := Row.mem_columns_iff.mpr ⟨cell, found⟩
          simp [keeps, found, present]

theorem select_outcome (query : Query) (row : Row) : (query.select row).outcome =
    (keeps row query.comparison?).outcome.map fun keep =>
      if keep then some (row.project query.projection) else none := by
  rw [select, Logged.bind_outcome]
  cases (keeps row query.comparison?).outcome with
  | error failure => rfl
  | ok keep => cases keep <;> rfl

/-! ## All rows -/

theorem run_outcome_eq (query : Query) (rows : List Row) : (query.run rows).outcome =
    (rows.mapM fun row => (query.select row).outcome).map fun selected =>
      selected.filterMap id := by
  rw [run, Logged.bind_outcome, Logged.mapM_outcome]
  cases rows.mapM fun row => (query.select row).outcome <;> rfl

/-- Along a successful run, what was selected is what was kept. -/
theorem filterMap_selected {selected : List (Option Row)}
    (judged : rows.map (fun row => (query.select row).outcome) = selected.map .ok) :
    selected.filterMap id =
      (rows.filter query.Keeps).map fun row => row.project query.projection := by
  induction rows generalizing selected with
  | nil => cases selected with
    | nil => rfl
    | cons first others => cases judged
  | cons row rows inductionHypothesis => cases selected with
    | nil => cases judged
    | cons first others =>
        rcases List.cons.inj judged with ⟨now, later⟩
        rcases map_eq_ok.mp ((select_outcome query row).symm.trans now) with ⟨keep, verdict, rfl⟩
        have kept : query.Keeps row ↔ keep = true := by simp [Keeps, verdict]
        cases keep with
        | false =>
            rw [List.filter_cons_of_neg (by simp [kept]), ← inductionHypothesis later]
            rfl
        | true =>
            rw [List.filter_cons_of_pos (by simp [kept]), List.map_cons,
              ← inductionHypothesis later]
            rfl

theorem run_eq_error :
    (query.run rows).outcome = .error failure ↔
      ∃ column, query.Lacks rows column ∧ failure = .missingColumn column := by
  have necessary : ∀ failure, (query.run rows).outcome = .error failure →
      ∃ column, query.Lacks rows column ∧ failure = .missingColumn column := by
    intro failure fails
    rw [run_outcome_eq, map_eq_error, mapM_eq_error] at fails
    rcases fails with ⟨front, row, rest, rfl, -, fails⟩
    rw [select_outcome, map_eq_error, keeps_eq_error] at fails
    rcases fails with ⟨comparison, compared, absent, rfl⟩
    refine ⟨comparison.column, ⟨⟨comparison, ?_, rfl⟩, row, ?_, absent⟩, rfl⟩
    · exact comparison?_eq_some.mp compared
    · exact List.mem_append_right front List.mem_cons_self
  constructor
  · exact necessary failure
  · rintro ⟨column, lacks, rfl⟩
    rcases lacks.compared with ⟨comparison, clause, rfl⟩
    -- The run may fail for another row, but then it names the same column.
    cases outcome : (query.run rows).outcome with
    | error other =>
        rcases necessary other outcome with ⟨named, ⟨⟨another, same, rfl⟩, -⟩, rfl⟩
        cases clause.symm.trans same
        rfl
    | ok results =>
        rcases lacks.missing with ⟨row, member, absent⟩
        have fails : (query.select row).outcome = .error (.missingColumn comparison.column) := by
          rw [select_outcome, map_eq_error, keeps_eq_error]
          exact ⟨comparison, comparison?_eq_some.mpr clause, absent, rfl⟩
        rw [run_outcome_eq, map_eq_ok] at outcome
        rcases outcome with ⟨selected, judged, -⟩
        rcases exists_step_of_mapM_eq_ok judged member with ⟨result, succeeds⟩
        cases fails.symm.trans succeeds

theorem run_eq_ok :
    (query.run rows).outcome = .ok results ↔
      (∀ column, ¬ query.Lacks rows column) ∧
        results = (rows.filter query.Keeps).map fun row => row.project query.projection := by
  constructor
  · intro succeeds
    constructor
    · intro column lacks
      have fails := run_eq_error.mpr ⟨column, lacks, rfl⟩
      rw [succeeds] at fails
      cases fails
    · rw [run_outcome_eq, map_eq_ok] at succeeds
      rcases succeeds with ⟨selected, judged, rfl⟩
      exact filterMap_selected (mapM_eq_ok.mp judged)
  · rintro ⟨complete, rfl⟩
    cases outcome : (query.run rows).outcome with
    | error failure =>
        rcases run_eq_error.mp outcome with ⟨column, lacks, -⟩
        exact absurd lacks (complete column)
    | ok results =>
        rw [run_outcome_eq, map_eq_ok] at outcome
        rcases outcome with ⟨selected, judged, rfl⟩
        rw [filterMap_selected (mapM_eq_ok.mp judged)]

theorem forall₂_isProjection_iff {names : List String} :
    List.Forall₂ (Row.IsProjection names) sources results ↔
      results = sources.map fun row => row.project names := by
  constructor
  · intro each
    induction each with
    | nil => rfl
    | cons first others inductionHypothesis =>
        rw [List.map_cons, inductionHypothesis, Row.isProjection_iff.mp first]
  · rintro rfl
    rw [List.forall₂_map_right_iff, List.forall₂_same]
    exact fun row _ => Row.isProjection_project row names

/-- The outcome of a run, for all rows and all queries.  It fails exactly when
a row lacks the compared column, and else lists the projections of the kept
rows.  A query that compares nothing keeps every row. -/
theorem run_outcome (query : Query) (rows : List Row) :
    (∀ failure, ((query.run rows).mapError Error.evaluation).outcome = .error failure ↔
      ∃ column, query.Lacks rows column ∧ failure = .evaluation (.missingColumn column)) ∧
    (∀ results, ((query.run rows).mapError Error.evaluation).outcome = .ok results ↔
      (∀ column, ¬ query.Lacks rows column) ∧
        List.Forall₂ (Row.IsProjection query.projection) (rows.filter query.Keeps) results) ∧
    ((∀ comparison, query.clause ≠ .applied comparison) → rows.filter query.Keeps = rows) := by
  refine ⟨?_, ?_, ?_⟩
  · intro failure
    rw [Logged.mapError_outcome, mapError_eq_error]
    constructor
    · rintro ⟨cause, fails, rfl⟩
      rcases run_eq_error.mp fails with ⟨column, lacks, rfl⟩
      exact ⟨column, lacks, rfl⟩
    · rintro ⟨column, lacks, rfl⟩
      exact ⟨_, run_eq_error.mpr ⟨column, lacks, rfl⟩, rfl⟩
  · intro results
    rw [Logged.mapError_outcome, mapError_eq_ok, run_eq_ok, forall₂_isProjection_iff]
  · intro free
    rw [List.filter_eq_self]
    intro row _
    have nothing : query.comparison? = none := by
      rw [Option.eq_none_iff_forall_ne_some]
      exact fun comparison some => free comparison (comparison?_eq_some.mp some)
    rw [decide_eq_true_iff, Keeps, nothing]
    rfl

end Query
end Tabular
