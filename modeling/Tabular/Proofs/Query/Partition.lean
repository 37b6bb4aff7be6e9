import Tabular.Proofs.Query.Cells
import Tabular.Proofs.Query.Running

namespace Tabular

open Log

/-!
# Rows divided by the three operators

A cell that can be compared with a literal stands in one of three orders to it,
and each operator holds of exactly one of these.  Hence the three comparisons of
a column with a literal divide the rows among them.  Left over are numbers that
meet a literal without an integer at its start.
-/

/-- The operator that holds of an order. -/
def Operator.ofOrdering : Ordering → Operator
  | .lt => .lessThan
  | .eq => .equal
  | .gt => .greaterThan

theorem Operator.holds_iff {operator : Operator} {order : Ordering} :
    operator.holds order = true ↔ ofOrdering order = operator := by
  cases operator <;> cases order <;> decide

namespace Row

/-- The operator that relates the cell under a column to a literal, if any does. -/
def relation? (column literal : String) (row : Row) : Option Operator :=
  ((row.get? column).bind (Cell.order? literal)).map Operator.ofOrdering

/-- The cell under a column is a number. -/
def HoldsNumber (column : String) (row : Row) : Prop :=
  (row.get? column).map Cell.kind = some .number

instance (column : String) : DecidablePred (HoldsNumber column) :=
  fun row => decEq ((row.get? column).map Cell.kind) (some .number)

end Row

namespace Query

/-- The query that keeps the rows whose cell under a column is related to a literal. -/
def comparing (names : List String) (column literal : String) (operator : Operator) : Query where
  projection := names
  clause := .applied ⟨column, operator, literal⟩

variable {names : List String} {column literal : String} {operator : Operator} {row : Row}
  {rows : List Row}

/-! ## One row -/

theorem accepts_iff {cell : Cell} : (Comparison.mk column operator literal).accepts cell = true ↔
    (cell.order? literal).map Operator.ofOrdering = some operator := by
  rw [Comparison.accepts, Option.any_eq_true, Option.map_eq_some_iff]
  simp only [Operator.holds_iff]

theorem keeps_comparing_iff (held : column ∈ row.columns) :
    (comparing names column literal operator).Keeps row ↔
      row.relation? column literal = some operator := by
  rcases Row.mem_columns_iff.mp held with ⟨cell, found⟩
  have verdict : (keeps row (comparing names column literal operator).comparison?).outcome =
      .ok ((Comparison.mk column operator literal).accepts cell) :=
    keeps_of_get? found
  rw [Keeps, verdict, Except.ok.injEq, accepts_iff, Row.relation?, found, Option.bind_some]

/-- Only a number can be related to a literal by no operator, and it is when
the literal starts with no integer. -/
theorem relation?_eq_none_iff (held : column ∈ row.columns) :
    row.relation? column literal = none ↔
      row.HoldsNumber column ∧ Integer.Literal.read? literal.toList = none := by
  rcases Row.mem_columns_iff.mp held with ⟨cell, found⟩
  rw [Row.relation?, Row.HoldsNumber, found, Option.bind_some, Option.map_some,
    Option.map_eq_none_iff]
  cases cell with
  | number word => simp [Cell.order?, Cell.kind]
  | text content => simp [Cell.order?, Cell.kind]

/-! ## All rows -/

/-- Nothing fails when every row holds the compared column. -/
theorem run_comparing (held : ∀ row ∈ rows, column ∈ row.columns) (operator : Operator) :
    ((comparing names column literal operator).run rows).outcome =
      .ok ((rows.filter (comparing names column literal operator).Keeps).map
        fun row => row.project names) := by
  rw [run_eq_ok]
  refine ⟨?_, rfl⟩
  rintro missing ⟨⟨comparison, ⟨⟩, rfl⟩, row, member, absent⟩
  exact absent (held row member)

/-- Every row is counted under one operator or under none. -/
theorem length_eq_sum_relations (column literal : String) (rows : List Row) :
    rows.countP (fun row => row.relation? column literal = some .equal) +
        rows.countP (fun row => row.relation? column literal = some .greaterThan) +
        rows.countP (fun row => row.relation? column literal = some .lessThan) +
        rows.countP (fun row => row.relation? column literal = none) = rows.length := by
  induction rows with
  | nil => rfl
  | cons row rows inductionHypothesis =>
      simp only [List.countP_cons, List.length_cons, ← inductionHypothesis]
      cases row.relation? column literal with
      | none => simp; omega
      | some operator => cases operator <;> simp <;> omega

theorem countP_relation?_eq_none (held : ∀ row ∈ rows, column ∈ row.columns) :
    rows.countP (fun row => row.relation? column literal = none) =
      if Integer.Literal.read? literal.toList = none then rows.countP (Row.HoldsNumber column)
      else 0 := by
  split
  · next unread =>
      apply List.countP_congr
      intro row member
      rw [decide_eq_true_iff, decide_eq_true_iff, relation?_eq_none_iff (held row member)]
      exact and_iff_left unread
  · next reads =>
      rw [List.countP_eq_zero]
      intro row member
      rw [decide_eq_true_iff, relation?_eq_none_iff (held row member)]
      exact fun unrelated => reads unrelated.2

theorem length_kept (held : ∀ row ∈ rows, column ∈ row.columns) (operator : Operator) :
    ((rows.filter (comparing names column literal operator).Keeps).map
        fun row => row.project names).length =
      rows.countP fun row => row.relation? column literal = some operator := by
  rw [List.length_map, ← List.countP_eq_length_filter]
  apply List.countP_congr
  intro row member
  rw [decide_eq_true_iff, decide_eq_true_iff, keeps_comparing_iff (held row member)]

/-- Rows that all hold a column are divided by its three comparisons with a
literal.  The runs succeed, each of them projects the rows it keeps, in order,
and no row is kept by two of them.  Left over are the numbers, and only when
the literal starts with no integer. -/
theorem run_partition (names : List String) (literal : String)
    (held : ∀ row ∈ rows, column ∈ row.columns) :
    (∀ row ∈ rows,
      (∀ one other, (comparing names column literal one).Keeps row →
        (comparing names column literal other).Keeps row → one = other) ∧
      ((∀ operator, ¬ (comparing names column literal operator).Keeps row) ↔
        row.HoldsNumber column ∧ Integer.Literal.read? literal.toList = none) ∧
      (¬ (row.HoldsNumber column ∧ Integer.Literal.read? literal.toList = none) →
        ∃! operator, (comparing names column literal operator).Keeps row)) ∧
    ∃ results : Operator → List Row,
      (∀ operator,
        ((comparing names column literal operator).run rows).outcome = .ok (results operator) ∧
          results operator = (rows.filter (comparing names column literal operator).Keeps).map
            fun row => row.project names) ∧
      (results .equal).length + (results .greaterThan).length + (results .lessThan).length +
        (if Integer.Literal.read? literal.toList = none then rows.countP (Row.HoldsNumber column)
          else 0) = rows.length := by
  refine ⟨?_, ?_⟩
  · intro row member
    simp only [keeps_comparing_iff (held row member),
      ← relation?_eq_none_iff (held row member)]
    refine ⟨?_, ?_, ?_⟩
    · intro one other keepsOne keepsOther
      exact Option.some.inj (keepsOne.symm.trans keepsOther)
    · exact Option.eq_none_iff_forall_ne_some.symm
    · intro related
      rcases Option.ne_none_iff_exists'.mp related with ⟨operator, relation⟩
      refine ⟨operator, relation, ?_⟩
      intro other also
      exact Option.some.inj (also.symm.trans relation)
  · refine ⟨_, fun operator => ⟨run_comparing held operator, rfl⟩, ?_⟩
    rw [length_kept held, length_kept held, length_kept held, ← countP_relation?_eq_none held]
    exact length_eq_sum_relations column literal rows

/-- A number and two texts under one column, compared with a literal that is no
number.  The number is left over. -/
theorem run_partition_mixedKinds :
    (∀ operator, ¬ (comparing ["n"] "n" "x" operator).Keeps (Row.ofCells [("n", .number 5)])) ∧
      (∃! operator, (comparing ["n"] "n" "x" operator).Keeps (Row.ofCells [("n", .text "w")])) ∧
      ((comparing ["n"] "n" "x" .equal).run
          [Row.ofCells [("n", .number 5)], Row.ofCells [("n", .text "w")],
            Row.ofCells [("m", .number 1), ("n", .text "x")]]).outcome =
        .ok [Row.ofCells [("n", .text "x")]] ∧
      ((comparing ["n"] "n" "x" .greaterThan).run
          [Row.ofCells [("n", .number 5)], Row.ofCells [("n", .text "w")],
            Row.ofCells [("m", .number 1), ("n", .text "x")]]).outcome =
        .ok [] ∧
      ((comparing ["n"] "n" "x" .lessThan).run
          [Row.ofCells [("n", .number 5)], Row.ofCells [("n", .text "w")],
            Row.ofCells [("m", .number 1), ("n", .text "x")]]).outcome =
        .ok [Row.ofCells [("n", .text "w")]] ∧
      [Row.ofCells [("n", .text "x")]].length + ([] : List Row).length +
        [Row.ofCells [("n", .text "w")]].length + 1 = 3 := by
  have held : ∀ row ∈ [Row.ofCells [("n", .number 5)], Row.ofCells [("n", .text "w")],
      Row.ofCells [("m", .number 1), ("n", .text "x")]], "n" ∈ row.columns := by
    decide
  rcases run_partition ["n"] "x" held with ⟨each, results, runs, lengths⟩
  have equal : results .equal = [Row.ofCells [("n", .text "x")]] :=
    (runs .equal).2.trans rfl
  have greater : results .greaterThan = [] :=
    (runs .greaterThan).2.trans rfl
  have less : results .lessThan = [Row.ofCells [("n", .text "w")]] :=
    (runs .lessThan).2.trans rfl
  have unread : Integer.Literal.read? "x".toList = none := by
    decide
  have one : List.countP (Row.HoldsNumber "n") [Row.ofCells [("n", .number 5)],
      Row.ofCells [("n", .text "w")], Row.ofCells [("m", .number 1), ("n", .text "x")]] = 1 := by
    decide
  rw [equal, greater, less, if_pos unread, one] at lengths
  exact ⟨(each _ (by simp)).2.1.mpr (by decide), (each _ (by simp)).2.2 (by decide),
    (runs .equal).1.trans (congrArg _ equal), (runs .greaterThan).1.trans (congrArg _ greater),
    (runs .lessThan).1.trans (congrArg _ less), lengths⟩

end Query
end Tabular
