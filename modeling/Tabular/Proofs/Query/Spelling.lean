import Tabular.Proofs.Query.Outcomes

namespace Tabular
namespace Query

open Log Text

/-!
# Spellings of a literal

A literal can be written bare, between two quotation marks, which need not be of
the same kind, or with a mark at one end only.  All spellings are read alike
when the literal has no quotation mark at its ends and does not end in a blank.
Inside it everything is allowed but the padded operator.
-/

/-- What is written around a literal, one quotation mark or none at each end. -/
structure Quoting where
  opening : Option Char
  closing : Option Char
  opens : ∀ mark ∈ opening, isQuote mark = true
  closes : ∀ mark ∈ closing, isQuote mark = true

def Quoting.write (quoting : Quoting) (literal : List Char) : List Char :=
  quoting.opening.toList ++ literal ++ quoting.closing.toList

/-- The literals that can be written without quotation marks as well. -/
structure PlainLiteral (literal : String) : Prop where
  filled : literal ≠ ""
  unopened : ∀ head ∈ literal.toList.head?, isQuote head = false
  unclosed : ∀ last ∈ literal.toList.getLast?, isQuote last = false
  visibleEnd : ∀ last ∈ literal.toList.getLast?, isBlank last = false

/-- The text of a comparison with its literal in the given spelling.  What
stands in front of the filter mark is given as well. -/
def spelledText (front : String) (comparison : Comparison) (quoting : Quoting) : String :=
  front ++ "FILTER " ++ comparison.column ++ " " ++ comparison.operator.display ++ " " ++
    String.ofList (quoting.write comparison.literal.toList)

/-- The clause of a comparison with its literal in the given spelling. -/
def spelledClause (comparison : Comparison) (quoting : Quoting) : List Char :=
  comparison.column.toList ++ paddedSymbol comparison.operator ++
    quoting.write comparison.literal.toList

variable {mark : Char} {literal : List Char} {quoting : Quoting} {operator : Operator}
  {comparison : Comparison}

theorem isBlank_of_isQuote (quote : isQuote mark = true) : isBlank mark = false := by
  rw [isQuote, Bool.or_eq_true, decide_eq_true_eq, decide_eq_true_eq] at quote
  rcases quote with rfl | rfl <;> decide

theorem ne_space_of_isQuote (quote : isQuote mark = true) : mark ≠ ' ' := by
  rintro rfl
  cases quote

namespace Quoting

theorem stripQuotes_write (filled : literal ≠ [])
    (unopened : ∀ head ∈ literal.head?, isQuote head = false)
    (unclosed : ∀ last ∈ literal.getLast?, isQuote last = false) :
    stripQuotes (quoting.write literal) = literal := by
  rw [stripQuotes_eq_iff]
  rcases quoting with ⟨_ | opening, _ | closing, opens, closes⟩
  · have bare : write ⟨none, none, opens, closes⟩ literal = literal := List.append_nil literal
    rw [bare]
    exact .neither unopened unclosed
  · refine .closing ?_ (closes closing rfl)
    intro head first
    exact unopened head (by rwa [← List.head?_append_of_ne_nil _ filled])
  · have open' : write ⟨some opening, none, opens, closes⟩ literal = opening :: literal :=
      List.append_nil (opening :: literal)
    rw [open']
    exact .opening (opens opening rfl) unclosed
  · exact .both (opens opening rfl) (closes closing rfl)

/-- Quotation marks bring no padded operator about. -/
theorem paddedSymbol_infix_write :
    paddedSymbol operator <:+: quoting.write literal ↔ paddedSymbol operator <:+: literal := by
  rcases quoting with ⟨opening, closing, opens, closes⟩
  have front : ∀ text, paddedSymbol operator <:+: opening.toList ++ text ↔
      paddedSymbol operator <:+: text := by
    intro text
    cases opening with
    | none => rfl
    | some mark => exact paddedSymbol_infix_cons (ne_space_of_isQuote (opens mark rfl))
  have behind : ∀ text, paddedSymbol operator <:+: text ++ closing.toList ↔
      paddedSymbol operator <:+: text := by
    intro text
    cases closing with
    | none => rw [Option.toList_none, List.append_nil]
    | some mark => exact paddedSymbol_infix_concat (ne_space_of_isQuote (closes mark rfl))
  rw [write, behind, front]

theorem isBlank_getLast?_write (filled : literal ≠ [])
    (visibleEnd : ∀ last ∈ literal.getLast?, isBlank last = false) :
    ∀ last ∈ (quoting.write literal).getLast?, isBlank last = false := by
  rcases quoting with ⟨opening, _ | mark, opens, closes⟩
  · rw [write, Option.toList_none, List.append_nil, List.getLast?_append_of_ne_nil _ filled]
    exact visibleEnd
  · intro last final
    rw [write, Option.toList_some, List.getLast?_concat] at final
    rw [← Option.some.inj final]
    exact isBlank_of_isQuote (closes mark rfl)

theorem write_ne_nil (filled : literal ≠ []) : quoting.write literal ≠ [] := by
  rw [write]
  exact List.append_ne_nil_of_left_ne_nil (List.append_ne_nil_of_right_ne_nil _ filled) _

end Quoting

theorem spelledText_toList (front : String) (comparison : Comparison) (quoting : Quoting) :
    (spelledText front comparison quoting).toList =
      front.toList ++ filterMark ++ spelledClause comparison quoting := by
  have symbol : comparison.operator.display.toList = [comparison.operator.symbol] :=
    String.toList_singleton comparison.operator.symbol
  simp only [spelledText, spelledClause, String.toList_append, symbol, String.toList_ofList,
    List.append_assoc]
  rfl

theorem trim_spelledClause (printable : PrintableComparison comparison)
    (plain : PlainLiteral comparison.literal) (quoting : Quoting) :
    trim (spelledClause comparison quoting) = spelledClause comparison quoting := by
  have filledColumn := mt String.toList_eq_nil_iff.mp printable.filled
  have filled := mt String.toList_eq_nil_iff.mp plain.filled
  exact trim_padded filledColumn printable.start (quoting.write_ne_nil filled)
    (quoting.isBlank_getLast?_write filled plain.visibleEnd)

theorem readClause_spelledClause (printable : PrintableComparison comparison)
    (plain : PlainLiteral comparison.literal) (quoting : Quoting) :
    (readClause (spelledClause comparison quoting)).outcome = .ok (.applied comparison) := by
  have filled := mt String.toList_eq_nil_iff.mp plain.filled
  have first : ¬ paddedSymbol comparison.operator <:+:
      (comparison.column.toList ++ paddedSymbol comparison.operator).dropLast := by
    rw [paddedSymbol_infix_dropLast_iff, not_or]
    exact ⟨printable.free, printable.apart⟩
  have free : ¬ paddedSymbol comparison.operator <:+: quoting.write comparison.literal.toList := by
    rw [quoting.paddedSymbol_infix_write]
    exact printable.literalFree
  rw [spelledClause, readClause_padded (leftmostOperator?_padded_iff.mpr printable.leftmost) first
    free, quoting.stripQuotes_write filled plain.unopened plain.unclosed, String.ofList_toList,
    String.ofList_toList]

/-- A comparison is read from its text in any spelling of its literal. -/
theorem parse_spelledText {front : String}
    (marked : Leftmost filterMark (front ++ "FILTER ").toList front.toList [])
    (printable : PrintableComparison comparison) (plain : PlainLiteral comparison.literal)
    (quoting : Quoting) :
    (parse (spelledText front comparison quoting)).outcome =
      .ok { projection := readNames (trim front.toList), clause := .applied comparison } := by
  have found := cut?_eq_some_iff.mpr
    (marked.exchange filterMark_ne_nil (spelledClause comparison quoting))
  rw [← spelledText_toList] at found
  have trimmed := trim_spelledClause printable plain quoting
  have filled : spelledClause comparison quoting ≠ [] :=
    List.append_ne_nil_of_right_ne_nil _
      (quoting.write_ne_nil (mt String.toList_eq_nil_iff.mp plain.filled))
  rw [parse_of_cut found (by rwa [trimmed]), trimmed, readClause_spelledClause printable plain]
  rfl

end Query
end Tabular
