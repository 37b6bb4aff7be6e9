import Tabular.Proofs.Integer.Unbounded
import Tabular.Proofs.Log.Outcome
import Tabular.Proofs.Text.EncodedOrder
import Tabular.Query.Semantics

namespace Tabular

open Text

/-!
# Comparisons of cells

A number cell is compared with the integer its literal starts with as if both
were unbounded.  A text cell is compared with the whole literal, by the bytes of
the two or by their code points, which is the same.
-/

/-! ## Numbers -/

/-- The relation between integers that an operator stands for. -/
def Operator.Relates : Operator → Int → Int → Prop
  | .equal, left, right => left = right
  | .greaterThan, left, right => right < left
  | .lessThan, left, right => left < right

/-- An operator holds of an order of integers when its relation does. -/
theorem Operator.holds_compare (operator : Operator) (left right : Int) :
    operator.holds (compare left right) = true ↔ operator.Relates left right := by
  cases operator with
  | equal => exact Ordering.isEq_iff_eq_eq.trans Int.compare_eq_eq
  | greaterThan => exact Ordering.isGT_iff_eq_gt.trans Int.compare_eq_gt
  | lessThan => exact Ordering.isLT_iff_eq_lt.trans Int.compare_eq_lt

/-- A number cell satisfies a comparison when the literal starts with an
integer to which the cell is related. -/
theorem Comparison.accepts_number (comparison : Comparison) (word : Int64) :
    comparison.accepts (.number word) = true ↔
      ∃ value, Integer.leadingInteger? comparison.literal.toList = some value ∧
        comparison.operator.Relates word.toInt value := by
  rw [accepts, Cell.order?, Integer.read?_eq, Option.map_map, Option.any_map, Option.any_eq_true]
  simp only [Function.comp_apply, Integer.order_ofInt, Operator.holds_compare]

namespace Query

/-- A cell that is present decides whether its row is kept. -/
theorem keeps_of_get? {row : Row} {comparison : Comparison} {cell : Cell}
    (found : row.get? comparison.column = some cell) :
    (keeps row (some comparison)).outcome = .ok (comparison.accepts cell) := by
  rw [keeps, found]
  rfl

/-- A comparison with a number cell never fails.  It keeps the row exactly when
the literal starts with an integer of any size to which the cell is related. -/
theorem keeps_number {row : Row} {comparison : Comparison} {word : Int64}
    (found : row.get? comparison.column = some (.number word)) :
    ∃ keep, (keeps row (some comparison)).outcome = .ok keep ∧
      (keep = true ↔
        ∃ value, Integer.leadingInteger? comparison.literal.toList = some value ∧
          comparison.operator.Relates word.toInt value) :=
  ⟨_, keeps_of_get? found, comparison.accepts_number word⟩

/-- The least word is above the integer just below it, however that is written. -/
theorem keeps_number_belowRange :
    (Row.ofCells [("n", .number Int64.minValue)]).get? "n" = some (.number Int64.minValue) ∧
      ∃ keep, (keeps (Row.ofCells [("n", .number Int64.minValue)])
          (some ⟨"n", .greaterThan, "\u00a0 -0009223372036854775809x"⟩)).outcome = .ok keep ∧
        (keep = true ↔
          ∃ value, Integer.leadingInteger? "\u00a0 -0009223372036854775809x".toList = some value ∧
            Operator.greaterThan.Relates Int64.minValue.toInt value) := by
  have found : (Row.ofCells [("n", .number Int64.minValue)]).get? "n" =
      some (.number Int64.minValue) := by
    rfl
  exact ⟨found, keeps_number found⟩

end Query

/-! ## Texts -/

/-- The relation between two lists that an operator stands for.  The lists are
in lexicographic order, so a proper start of a list comes before the list. -/
def Operator.Arranges {α : Type} [LT α] : Operator → List α → List α → Prop
  | .equal, left, right => left = right
  | .greaterThan, left, right => right < left
  | .lessThan, left, right => left < right

/-- An operator holds of an order of texts when it arranges their bytes. -/
theorem Operator.holds_compareUtf8 (operator : Operator) (left right : String) :
    operator.holds (compareUtf8 left right) = true ↔
      operator.Arranges (utf8 left) (utf8 right) := by
  cases operator with
  | equal =>
      exact Ordering.isEq_iff_eq_eq.trans (compareUtf8_eq_iff.trans utf8_injective.eq_iff.symm)
  | greaterThan => exact Ordering.isGT_iff_eq_gt.trans compareUtf8_eq_gt_iff
  | lessThan => exact Ordering.isLT_iff_eq_lt.trans compareUtf8_eq_lt_iff

/-- An operator arranges the bytes of two texts as it arranges their code points. -/
theorem Operator.arranges_utf8_iff (operator : Operator) (left right : String) :
    operator.Arranges (utf8 left) (utf8 right) ↔
      operator.Arranges (codePoints left) (codePoints right) := by
  cases operator with
  | equal => exact utf8_injective.eq_iff.trans codePoints_injective.eq_iff.symm
  | greaterThan => exact utf8_lt_iff
  | lessThan => exact utf8_lt_iff

theorem Comparison.accepts_text (comparison : Comparison) (content : String) :
    comparison.accepts (.text content) = true ↔
      comparison.operator.Arranges (utf8 content) (utf8 comparison.literal) := by
  rw [accepts, Cell.order?, Option.any_some, Operator.holds_compareUtf8]

namespace Query

/-- A comparison with a text cell never fails.  It keeps the row exactly when
the bytes of the cell and of the literal are in the order it asks for, and these
are in that order exactly when the code points are.  Equality of bytes is
equality of texts. -/
theorem keeps_text {row : Row} {comparison : Comparison} {content : String}
    (found : row.get? comparison.column = some (.text content)) :
    ∃ keep, (keeps row (some comparison)).outcome = .ok keep ∧
      (keep = true ↔ comparison.operator.Arranges (utf8 content) (utf8 comparison.literal)) ∧
      (keep = true ↔
        comparison.operator.Arranges (codePoints content) (codePoints comparison.literal)) ∧
      (comparison.operator = .equal → (keep = true ↔ content = comparison.literal)) := by
  have bytes := comparison.accepts_text content
  have points := bytes.trans (comparison.operator.arranges_utf8_iff content comparison.literal)
  refine ⟨_, keeps_of_get? found, bytes, points, ?_⟩
  intro equal
  rw [equal] at points
  exact points.trans codePoints_injective.eq_iff

/-- The last character of the basic plane is below one outside it, although it
is above the surrogates that stand for that one in sixteen-bit units. -/
theorem keeps_text_planes :
    (Row.ofCells [("n", .number 7), ("t", .text "a\uffff")]).get? "t" = some (.text "a\uffff") ∧
      ∃ keep, (keeps (Row.ofCells [("n", .number 7), ("t", .text "a\uffff")])
          (some ⟨"t", .lessThan, "a😀"⟩)).outcome = .ok keep ∧
        (keep = true ↔ Operator.lessThan.Arranges (utf8 "a\uffff") (utf8 "a😀")) ∧
        (keep = true ↔ Operator.lessThan.Arranges (codePoints "a\uffff") (codePoints "a😀")) ∧
        (Operator.lessThan = .equal → (keep = true ↔ "a\uffff" = "a😀")) := by
  have found : (Row.ofCells [("n", .number 7), ("t", .text "a\uffff")]).get? "t" =
      some (.text "a\uffff") := by
    rfl
  exact ⟨found, keeps_text found⟩

end Query

end Tabular
