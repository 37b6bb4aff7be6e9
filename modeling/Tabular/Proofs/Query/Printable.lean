import Tabular.Proofs.Query.Printed

namespace Tabular

open Log Text

/-!
# Queries that survive printing

The queries that are read back from their printed form are described part by
part, for every list of names and every clause.  Each part has to be of the form
in which reading leaves it.  For a clause this is enough; names have to keep the
marks apart as well.
-/

namespace Query

/-! ## Printable clauses -/

/-- The comparisons that are read back from their printed form.  The column
decides where the operator is found, the literal only where it ends. -/
structure PrintableComparison (comparison : Comparison) : Prop where
  filled : comparison.column ≠ ""
  start : ∀ head ∈ comparison.column.toList.head?, isBlank head = false
  free : ¬ paddedSymbol comparison.operator <:+: comparison.column.toList
  /-- The space printed behind the column completes no padded operator. -/
  apart : ¬ [' ', comparison.operator.symbol] <:+ comparison.column.toList
  leftmost : ∀ operator ∈ leftmostOperator? comparison.column.toList,
    operator = comparison.operator
  literalFree : ¬ paddedSymbol comparison.operator <:+: comparison.literal.toList

/-- The ignored clauses that are read back from their own text. -/
structure PrintableIgnored (text : String) (operator : Operator) : Prop where
  filled : text ≠ ""
  trimmed : trim text.toList = text.toList
  leftmost : leftmostOperator? text.toList = some operator
  free : ¬ paddedSymbol operator <:+: text.toList

def PrintableClause : Clause → Prop
  | .absent => True
  | .applied comparison => PrintableComparison comparison
  | .ignored text operator => PrintableIgnored text operator

variable {column : List Char} {clause : Clause} {operator : Operator}

theorem leftmostOperator?_padded_iff :
    leftmostOperator? (column ++ paddedSymbol operator) = some operator ↔
      ∀ found ∈ leftmostOperator? column, found = operator := by
  have padded : leftmostOperator? (paddedSymbol operator) = some operator := by
    cases operator <;> rfl
  rw [leftmostOperator?, List.findSome?_append, ← leftmostOperator?, ← leftmostOperator?, padded]
  cases leftmostOperator? column <;> simp

/-- Printing a padded operator behind a column brings up an earlier one only
when the column ends in the operator with a space in front. -/
theorem paddedSymbol_infix_dropLast_iff :
    paddedSymbol operator <:+: (column ++ paddedSymbol operator).dropLast ↔
      paddedSymbol operator <:+: column ∨ [' ', operator.symbol] <:+ column := by
  have parts : paddedSymbol operator = [' ', operator.symbol] ++ [' '] := rfl
  have upTo : (column ++ paddedSymbol operator).dropLast =
      column ++ [' '] ++ [operator.symbol] := by
    rw [parts, ← List.append_assoc, List.dropLast_concat, List.append_assoc]
    rfl
  have visible : operator.symbol ≠ ' ' := by
    cases operator <;> decide
  have beforeLast : paddedSymbol operator <:+ column ++ [' '] ↔
      [' ', operator.symbol] <:+ column := by
    rw [parts, List.suffix_concat_iff]
    constructor
    · rintro (empty | ⟨front, same, inside⟩)
      · cases empty
      · rwa [List.append_cancel_right same]
    · exact fun inside => Or.inr ⟨_, rfl, inside⟩
  -- The text that is searched ends in the symbol, and no padded operator does.
  rw [upTo, paddedSymbol_infix_concat visible, List.infix_concat_iff, beforeLast, or_comm]

theorem printable_of_read {part : List Char} (filled : part ≠ []) (trimmed : trim part = part)
    (read : (readClause part).outcome = .ok clause) : PrintableClause clause := by
  rcases readClause_eq_ok.mp read with ⟨operator, leftmost, ⟨absent, rfl⟩ | found⟩
  · exact
      { filled := by simpa using filled
        trimmed := by rw [String.toList_ofList, trimmed]
        leftmost := by rw [String.toList_ofList, leftmost]
        free := by rwa [String.toList_ofList] }
  · rcases found with ⟨column, rest, cut, rfl⟩
    have padded := paddedSymbol_ne_nil operator
    rw [eq_append_of_cut? cut] at leftmost trimmed cut
    rcases start_of_trimmed trimmed with ⟨columnFilled, start⟩
    have first := mt paddedSymbol_infix_dropLast_iff.mpr
      ((cut?_append_iff padded column rest).mp cut)
    rw [not_or] at first
    rw [leftmostOperator?_append, leftmostOperator?_padded_iff] at leftmost
    exact
      { filled := by simpa using columnFilled
        start := by simpa using start
        free := by simpa using first.1
        apart := by simpa using first.2
        leftmost := by simpa using leftmost
        literalFree := by
          rw [String.toList_ofList]
          exact fun inside => not_infix_before padded rest (inside.trans (stripQuotes_isInfix _)) }

/-- A printable clause is read from some trimmed text. -/
theorem exists_read_of_printable (printable : PrintableClause clause)
    (present : clause ≠ .absent) :
    ∃ part, part ≠ [] ∧ trim part = part ∧ (readClause part).outcome = .ok clause := by
  cases clause with
  | absent => exact absurd rfl present
  | applied comparison =>
      have filled : comparison.column.toList ≠ [] := by
        rw [Ne, String.toList_eq_nil_iff]
        exact printable.filled
      have first : ¬ paddedSymbol comparison.operator <:+:
          (comparison.column.toList ++ paddedSymbol comparison.operator).dropLast := by
        rw [paddedSymbol_infix_dropLast_iff, not_or]
        exact ⟨printable.free, printable.apart⟩
      have read := readClause_quoted (leftmostOperator?_padded_iff.mpr printable.leftmost) first
        printable.literalFree
      rw [String.ofList_toList, String.ofList_toList] at read
      exact ⟨_, List.append_ne_nil_of_right_ne_nil _ (List.cons_ne_nil _ _),
        trim_comparison _ filled printable.start, read⟩
  | ignored text operator =>
      refine ⟨text.toList, ?_, printable.trimmed, ?_⟩
      · rw [Ne, String.toList_eq_nil_iff]
        exact printable.filled
      · rw [readClause_eq_ok]
        refine ⟨operator, printable.leftmost, Or.inl ⟨printable.free, ?_⟩⟩
        rw [String.ofList_toList]

/-! ## Printable queries -/

/-- The queries that are read back from their printed form. -/
structure Printable (query : Query) : Prop
    extends ReadableNames query.projection, MarksApart query where
  clause : PrintableClause query.clause

/-- A query, however it was made, is read back from its printed form exactly
when its names and its clause are printable. -/
theorem parse_display_iff_printable (query : Query) :
    (parse query.display).outcome = .ok query ↔ Printable query := by
  constructor
  · intro reread
    rcases parts_of_parse reread with ⟨names, read⟩
    have readable : ReadableNames query.projection := by
      rw [names]
      exact readableNames_readNames _
    rcases read with absent | ⟨part, filled, trimmed, read⟩
    · have unmarked := (parse_display_absent readable absent).mp reread
      have clause : PrintableClause query.clause := by
        rw [absent]
        trivial
      exact ⟨readable, ⟨unmarked, Or.inl absent⟩, clause⟩
    · rcases exists_printed_clause filled trimmed read with
        ⟨printed, display, visible, printedTrimmed, printedRead⟩
      have names :=
        (parse_display_printed readable display visible printedTrimmed printedRead).mp reread
      exact ⟨readable, ⟨names.toUnmarkedNames, Or.inr names.separate⟩,
        printable_of_read filled trimmed read⟩
  · intro printable
    by_cases absent : query.clause = .absent
    · rw [parse_display_absent printable.toReadableNames absent]
      exact printable.toUnmarkedNames
    · rcases exists_read_of_printable printable.clause absent with ⟨part, filled, trimmed, read⟩
      rcases exists_printed_clause filled trimmed read with
        ⟨printed, display, visible, printedTrimmed, printedRead⟩
      rw [parse_display_printed printable.toReadableNames display visible printedTrimmed
        printedRead]
      exact ⟨printable.toUnmarkedNames, printable.separate.resolve_left absent⟩

/-- A symbol in the name of a column is taken for the operator, and the
comparison comes back as an ignored clause. -/
example : (parse (display (.mk ["x"] (.applied ⟨"a<b", .equal, "1"⟩)))).outcome =
    .ok (.mk ["x"] (.ignored "a<b = \"1\"" .lessThan)) := by
  rfl

end Query
end Tabular
