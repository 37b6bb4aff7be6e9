import Tabular.Proofs.Query.Cells
import Tabular.Proofs.Query.Running
import Tabular.Proofs.Row.Equality

namespace Tabular

open Log

/-!
# The trail of a run

Judging a row by a comparison emits one event, unless the row lacks the compared
column.  Up to the first such row, events and rows correspond one by one, and
every event shows the row's own cell and verdict.  The last event of a run
counts the rows, and it is reached only when no row fails.
-/

/-- The event says of a row that it is kept. -/
def Log.Event.approves : Event → Bool
  | .filterEvaluated _ _ keep => keep
  | _ => false

namespace Query

variable {query : Query} {comparison : Comparison} {row : Row} {rows results : List Row}
  {cell : Cell} {keep : Bool} {event : Event} {events : List Event} {failure : EvaluationError}

/-- An event that tells how a row was judged, with the cell of the row under the
compared column and the verdict on the row. -/
structure Tells (comparison : Comparison) (row : Row) (cell : Cell) (keep : Bool)
    (event : Event) : Prop where
  held : row.get? comparison.column = some cell
  verdict : (keeps row (some comparison)).outcome = .ok keep
  emitted : event = .filterEvaluated comparison.column cell keep
  shown : event.fields =
    [("column", comparison.column), ("cell", cell.display), ("keep", Event.verdict keep)]

/-- One event for each of the rows, in their order, that tells how it was judged. -/
def TellsOf (comparison : Comparison) (rows : List Row) (events : List Event) : Prop :=
  List.Forall₂ (fun row event => ∃ cell keep, Tells comparison row cell keep event) rows events

/-! ## One row -/

theorem select_eq_error : (query.select row).outcome = .error failure ↔
    ∃ comparison, query.comparison? = some comparison ∧ comparison.column ∉ row.columns ∧
      failure = .missingColumn comparison.column := by
  rw [select_outcome, map_eq_error, keeps_eq_error]

theorem select_events (query : Query) (row : Row) :
    (query.select row).events = (keeps row query.comparison?).events := by
  rw [select, Logged.bind_events]
  cases (keeps row query.comparison?).outcome with
  | error failure => exact List.append_nil _
  | ok keep => cases keep <;> exact List.append_nil _

/-- A row that is not compared with anything is kept, and nothing is said about it. -/
theorem select_events_of_free (free : query.comparison? = none) :
    (query.select row).events = [] := by
  rw [select_events, free]
  rfl

theorem keeps_of_free (free : query.comparison? = none) (row : Row) : query.Keeps row := by
  rw [Keeps, free]
  rfl

/-- Where the judging fails, nothing is said either. -/
theorem select_events_of_error (fails : (query.select row).outcome = .error failure) :
    (query.select row).events = [] := by
  rcases select_eq_error.mp fails with ⟨comparison, compared, missing, -⟩
  rw [select_events, compared, keeps, Row.get?_eq_none_iff.mpr missing]
  rfl

/-- A row that has the compared column leaves one event, which tells how it was judged. -/
theorem exists_event_of_select (compared : query.comparison? = some comparison)
    (held : comparison.column ∈ row.columns) :
    ∃ event, (query.select row).events = [event] ∧
      ∃ cell keep, Tells comparison row cell keep event := by
  rcases Row.mem_columns_iff.mp held with ⟨cell, found⟩
  refine ⟨.filterEvaluated comparison.column cell (comparison.accepts cell), ?_, cell,
    comparison.accepts cell, ?_⟩
  · rw [select_events, compared, keeps, found]
    rfl
  · exact
      { held := found
        verdict := keeps_of_get? found
        emitted := rfl
        shown := rfl }

theorem Tells.approves_iff (tells : Tells comparison row cell keep event)
    (compared : query.comparison? = some comparison) :
    event.approves = true ↔ query.Keeps row := by
  rw [Keeps, compared, tells.verdict, tells.emitted, Except.ok.injEq]
  rfl

/-! ## Rows that have the compared column -/

theorem tellsOf_flatMap_select (compared : query.comparison? = some comparison)
    (held : ∀ row ∈ rows, comparison.column ∈ row.columns) :
    TellsOf comparison rows (rows.flatMap fun row => (query.select row).events) := by
  induction rows with
  | nil => exact .nil
  | cons row rows inductionHypothesis =>
      rw [List.forall_mem_cons] at held
      rcases exists_event_of_select compared held.1 with ⟨event, emitted, tells⟩
      rw [List.flatMap_cons, emitted]
      exact .cons tells (inductionHypothesis held.2)

/-- As many events say `true` as rows are kept. -/
theorem TellsOf.countP_approves (told : TellsOf comparison rows events)
    (compared : query.comparison? = some comparison) :
    events.countP Event.approves = rows.countP query.Keeps := by
  induction told with
  | nil => rfl
  | cons first _ inductionHypothesis =>
      rcases first with ⟨cell, keep, tells⟩
      rw [List.countP_cons, List.countP_cons, inductionHypothesis]
      simp only [tells.approves_iff compared, decide_eq_true_eq]

/-! ## The whole run -/

/-- A run that does not fail says what is said of each row, and then counts. -/
theorem run_events_of_ok (done : (query.run rows).outcome = .ok results) :
    (query.run rows).events = (rows.flatMap fun row => (query.select row).events) ++
      [.queryFinished rows.length results.length query.comparison?.isSome] := by
  rw [run_outcome_eq, map_eq_ok] at done
  rcases done with ⟨selected, judged, rfl⟩
  have succeeds : ∀ row ∈ rows, ∃ result, (query.select row).outcome = .ok result := by
    intro row member
    rcases exists_step_of_mapM_eq_ok judged member with ⟨result, succeeds⟩
    exact ⟨result, succeeds⟩
  rw [run, Logged.bind_events, Logged.mapM_outcome, judged, Logged.mapM_events succeeds]
  rfl

/-- When no row lacks the compared column, the kept rows are counted. -/
theorem run_events_of_held (held : ∀ comparison, query.comparison? = some comparison →
      ∀ row ∈ rows, comparison.column ∈ row.columns) :
    ∃ results, (query.run rows).outcome = .ok results ∧
      results.length = rows.countP query.Keeps ∧
      (query.run rows).events = (rows.flatMap fun row => (query.select row).events) ++
        [.queryFinished rows.length results.length query.comparison?.isSome] := by
  have complete : ∀ column, ¬ query.Lacks rows column := by
    intro column lacks
    rcases lacks.compared with ⟨comparison, clause, rfl⟩
    rcases lacks.missing with ⟨row, member, missing⟩
    exact missing (held comparison (comparison?_eq_some.mpr clause) row member)
  have done := run_eq_ok.mpr ⟨complete, rfl⟩
  refine ⟨_, done, ?_, run_events_of_ok done⟩
  rw [List.length_map, List.countP_eq_length_filter]

/-- A run fails at the first row that lacks the compared column.  Of that row and
the later ones nothing is said. -/
theorem exists_first_of_run_eq_error (fails : (query.run rows).outcome = .error failure) :
    ∃ comparison front row rest, query.comparison? = some comparison ∧
      rows = front ++ row :: rest ∧ (∀ earlier ∈ front, comparison.column ∈ earlier.columns) ∧
      comparison.column ∉ row.columns ∧
      (query.run rows).events = front.flatMap fun earlier => (query.select earlier).events := by
  have judging : (rows.mapM fun row => (query.select row).outcome) = .error failure := by
    rwa [run_outcome_eq, map_eq_error] at fails
  rcases mapM_eq_error.mp judging with ⟨front, row, rest, rfl, succeed, failing⟩
  rcases select_eq_error.mp failing with ⟨comparison, compared, missing, -⟩
  refine ⟨comparison, front, row, rest, compared, rfl, ?_, missing, ?_⟩
  · intro earlier member
    by_contra lacking
    rcases succeed earlier member with ⟨result, judged⟩
    cases judged.symm.trans (select_eq_error.mpr ⟨comparison, compared, lacking, rfl⟩)
  · rw [run, Logged.bind_events, Logged.mapM_outcome, judging,
      Logged.mapM_events_of_error succeed failing, select_events_of_error failing]
    simp only [List.append_nil]

theorem findIdx?_append_cons {α : Type} {test : α → Bool} {front rest : List α} {value : α}
    (early : ∀ earlier ∈ front, test earlier = false) (found : test value = true) :
    (front ++ value :: rest).findIdx? test = some front.length := by
  rw [List.findIdx?_append, List.findIdx?_eq_none_iff.mpr early, List.findIdx?_cons, if_pos found,
    Option.none_or, Option.map_some, Nat.zero_add]

/-- The trail of every run.  Without a comparison there is only the closing event.
With a comparison of a column that all rows have, an event for each row stands in
front of it.  A run that fails tells of the rows in front of the first that lacks
the column, and of nothing else. -/
theorem run_trail (query : Query) (rows : List Row) :
    ((∀ comparison, query.clause ≠ .applied comparison) →
      ∃ results, (query.run rows).outcome = .ok results ∧ results.length = rows.length ∧
        (query.run rows).events = [.queryFinished rows.length results.length false]) ∧
    (∀ comparison, query.clause = .applied comparison →
      (∀ row ∈ rows, comparison.column ∈ row.columns) →
      ∃ results judgements, (query.run rows).outcome = .ok results ∧
        TellsOf comparison rows judgements ∧
        results.length = judgements.countP Event.approves ∧
        (query.run rows).events =
          judgements ++ [.queryFinished rows.length results.length true]) ∧
    (∀ failure, (query.run rows).outcome = .error failure →
      ∃ comparison first, query.clause = .applied comparison ∧
        rows.findIdx? (fun row => comparison.column ∉ row.columns) = some first ∧
        (query.run rows).events.length = first ∧
        TellsOf comparison (rows.take first) (query.run rows).events) := by
  refine ⟨?_, ?_, ?_⟩
  · intro unfiltered
    have free := comparison?_eq_none.mpr unfiltered
    have held : ∀ comparison, query.comparison? = some comparison →
        ∀ row ∈ rows, comparison.column ∈ row.columns := by
      simp only [free, reduceCtorEq, false_implies, implies_true]
    rcases run_events_of_held held with ⟨results, done, kept, events⟩
    refine ⟨results, done, ?_, ?_⟩
    · rw [kept, List.countP_eq_length]
      exact fun row _ => decide_eq_true (keeps_of_free free row)
    · have silent : (rows.flatMap fun row => (query.select row).events) = [] :=
        List.flatMap_eq_nil_iff.mpr fun row _ => select_events_of_free free
      rw [events, silent, free, List.nil_append, Option.isSome_none]
  · intro comparison clause held
    have compared := comparison?_eq_some.mpr clause
    have told := tellsOf_flatMap_select compared held
    have complete : ∀ other, query.comparison? = some other →
        ∀ row ∈ rows, other.column ∈ row.columns := by
      intro other same
      rw [compared, Option.some.injEq] at same
      exact same ▸ held
    rcases run_events_of_held complete with ⟨results, done, kept, events⟩
    refine ⟨results, _, done, told, ?_, ?_⟩
    · rw [kept, told.countP_approves compared]
    · rw [events, compared, Option.isSome_some]
  · intro failure fails
    rcases exists_first_of_run_eq_error fails with
      ⟨comparison, front, row, rest, compared, rfl, held, missing, events⟩
    have told := tellsOf_flatMap_select compared held
    rw [← events] at told
    refine ⟨comparison, front.length, comparison?_eq_some.mp compared, ?_, ?_, ?_⟩
    · apply findIdx?_append_cons
      · intro earlier member
        exact decide_eq_false (not_not_intro (held earlier member))
      · exact decide_eq_true missing
    · exact told.length_eq.symm
    · rw [List.take_left]
      exact told

/-- The third row lacks the column, and the fourth is not looked at. -/
example : (run ⟨["a"], .applied ⟨"n", .greaterThan, "4"⟩⟩ [.ofCells [("n", .number 5)],
    .ofCells [("n", .text "31")], .ofCells [("a", .number 5)], .ofCells [("n", .number 7)]]).events =
      [.filterEvaluated "n" (.number 5) true, .filterEvaluated "n" (.text "31") false] := by
  decide +kernel

end Query
end Tabular
