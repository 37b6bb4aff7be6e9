import Tabular.Proofs.Log.Outcome
import Tabular.Proofs.Text.Split
import Tabular.Proofs.Text.Trim
import Tabular.Query.Semantics

namespace Tabular
namespace Query

open Log Text

/-!
# What the query reader yields

The outcome of reading is stated here without the trail of events.  The column
names that can come out of it are trimmed, hold no comma and are never an empty
list.  Apart from blanks, commas and the letters of the project mark, every
character of the names part reaches them.
-/

variable {text part front behind : List Char} {clause : Clause} {query : Query}
  {operator : Operator}

/-! ## Operators -/

theorem ofSymbol?_eq_some_iff {character : Char} :
    Operator.ofSymbol? character = some operator ↔ character = operator.symbol := by
  constructor
  · intro found
    have suited := List.find?_some found
    exact (of_decide_eq_true suited).symm
  · rintro rfl
    exact Operator.ofSymbol?_symbol operator

/-! ## Clauses -/

/-- The two rules by which a clause is read, and nothing else. -/
theorem readClause_eq_ok : (readClause text).outcome = .ok clause ↔
    ∃ operator, leftmostOperator? text = some operator ∧
      ((¬ paddedSymbol operator <:+: text ∧ clause = .ignored (String.ofList text) operator) ∨
        ∃ column rest, cut? (paddedSymbol operator) text = some (column, rest) ∧
          clause = .applied
            { column := String.ofList column
              operator := operator
              literal := String.ofList (stripQuotes (before (paddedSymbol operator) rest)) }) := by
  cases leftmost : leftmostOperator? text with
  | none => simp [readClause, leftmost, Logged.fail]
  | some operator =>
      simp only [Option.some.injEq, exists_eq_left', ← cut?_eq_none_iff]
      cases found : cut? (paddedSymbol operator) text with
      | none => simp [readClause, leftmost, found, eq_comm]
      | some parts => simp [readClause, leftmost, found, Prod.ext_iff, eq_comm]

/-- The only complaint about a clause. -/
theorem readClause_eq_error {failure : ParseError} :
    (readClause text).outcome = .error failure ↔
      leftmostOperator? text = none ∧ failure = .noOperator (String.ofList text) := by
  cases leftmost : leftmostOperator? text with
  | none => simp [readClause, leftmost, eq_comm]
  | some operator =>
      cases found : cut? (paddedSymbol operator) text with
      | none => simp [readClause, leftmost, found]
      | some parts => simp [readClause, leftmost, found]

/-! ## Whole texts -/

theorem parse_outcome (text : String) :
    (parse text).outcome =
      (if (divide text.toList).2.isEmpty then .ok .absent
        else (readClause (divide text.toList).2).outcome).map
          fun clause => { projection := readNames (divide text.toList).1, clause := clause } := by
  simp only [parse]
  split
  · simp
  · simp only [Logged.bind_outcome, Logged.emit_outcome, Logged.pure_outcome, ok_bind]
    cases (readClause (divide text.toList).2).outcome <;> rfl

theorem parse_of_unmarked {text : String} (unmarked : ¬ filterMark <:+: text.toList) :
    (parse text).outcome =
      .ok { projection := readNames (trim text.toList), clause := .absent } := by
  have whole : divide text.toList = (trim text.toList, []) := by
    rw [divide, cut?_eq_none_iff.mpr unmarked]
  rw [parse_outcome, whole]
  rfl

theorem parse_of_cut {text : String}
    (found : cut? filterMark text.toList = some (front, behind)) (visible : trim behind ≠ []) :
    (parse text).outcome = (readClause (trim behind)).outcome.map
      fun clause => { projection := readNames (trim front), clause := clause } := by
  have parts : divide text.toList = (trim front, trim behind) := by
    rw [divide, found]
  rw [parse_outcome, parts, if_neg (by simpa using visible)]

/-- The parts that a query was read from.  The clause part, when there is one,
is trimmed and not empty. -/
theorem parts_of_parse {text : String} (read : (parse text).outcome = .ok query) :
    query.projection = readNames (divide text.toList).1 ∧
      (query.clause = .absent ∨ ∃ part, part ≠ [] ∧ trim part = part ∧
        (readClause part).outcome = .ok query.clause) := by
  have trimmed : trim (divide text.toList).2 = (divide text.toList).2 := by
    unfold divide
    split
    · exact trim_trim _
    · rfl
  rw [parse_outcome, map_eq_ok] at read
  rcases read with ⟨clause, outcome, rfl⟩
  refine ⟨rfl, ?_⟩
  split at outcome
  · cases outcome
    exact Or.inl rfl
  · next nonempty => exact Or.inr ⟨_, by simpa using nonempty, trimmed, outcome⟩

/-- The names of a text with a filter mark come from the part in front of it. -/
theorem projection_of_cut {text : String} (read : (parse text).outcome = .ok query)
    (found : cut? filterMark text.toList = some (front, behind)) :
    query.projection = readNames (trim front) := by
  rw [(parts_of_parse read).1, divide, found]

/-! ## Column names -/

/-- What holds of every list of names that was read. -/
structure ReadableNames (names : List String) : Prop where
  nonempty : names ≠ []
  trimmed : ∀ name ∈ names, trim name.toList = name.toList
  commaFree : ∀ name ∈ names, ',' ∉ name.toList

theorem readableNames_readNames (part : List Char) : ReadableNames (readNames part) where
  nonempty := by simp [readNames, pieces_ne_nil]
  trimmed := by
    intro name member
    rcases List.mem_map.mp member with ⟨piece, -, rfl⟩
    rw [String.toList_ofList, trim_trim]
  commaFree := by
    intro name member
    rcases List.mem_map.mp member with ⟨piece, listed, rfl⟩
    rw [String.toList_ofList]
    exact fun inside => not_mem_of_mem_pieces listed (trim_subset piece inside)

/-- Reading names drops only blanks, commas and one project mark. -/
theorem count_readNames {character : Char} (visible : isBlank character = false)
    (notComma : character ≠ ',') (notMark : character ∉ projectMark) (part : List Char) :
    ((readNames part).map String.toList).flatten.count character = part.count character := by
  have kept : ∀ pieces : List (List Char),
      (pieces.map fun piece => trim piece).flatten.count character =
        pieces.flatten.count character := by
    intro pieces
    rw [List.count_flatten, List.count_flatten, List.map_map]
    congr 1
    exact List.map_congr_left fun piece _ => count_trim visible piece
  calc
    ((readNames part).map String.toList).flatten.count character =
        ((pieces ',' (eraseFirst projectMark part)).map fun piece => trim piece).flatten.count
          character := by
      simp [readNames, Function.comp_def]
    _ = (pieces ',' (eraseFirst projectMark part)).flatten.count character := kept _
    _ = ([','].intercalate (pieces ',' (eraseFirst projectMark part))).count character :=
      (count_intercalate (by simpa using notComma) _).symm
    _ = part.count character := by
      rw [intercalate_pieces, count_eraseFirst notMark]

/-- Blanks in front of a piece or behind the last one do not reach the names. -/
theorem map_trim_pieces_cons {character : Char} (blank : isBlank character = true)
    (notComma : character ≠ ',') (text : List Char) :
    (pieces ',' (character :: text)).map trim = (pieces ',' text).map trim := by
  rw [pieces, if_neg notComma]
  cases pieces ',' text with
  | nil => rfl
  | cons first others => simp [trim_cons_of_blank blank]

theorem map_trim_pieces_trimEnd (text : List Char) :
    (pieces ',' (trimEnd text)).map trim = (pieces ',' text).map trim := by
  rcases exists_blanks_behind text with ⟨blanks, blank, same⟩
  have free : ',' ∉ blanks := by
    intro inside
    exact absurd (blank ',' inside) (by decide)
  rcases pieces_append free (trimEnd text) with ⟨early, last, short, long⟩
  rw [← same] at long
  rw [short, long]
  simp [trim_append_of_blank blank]

end Query
end Tabular
