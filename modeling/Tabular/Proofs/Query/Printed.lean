import Mathlib.Data.List.Basic
import Tabular.Proofs.Query.Parsing

namespace Tabular
namespace Query

open Log Text

/-!
# Reading printed queries

The filter mark has to be found where it was printed; then the names and the
clause are read back separately.  Whatever a text yields as a clause is printed
in a form that yields the same clause.

With names there are three obstacles.  Deleting the project mark can put a
filter mark together; the last name can complete a mark with the space printed
behind it; and a single empty name leaves the project mark to be trimmed.  That
an early mark is always noticed is shown by counting the letter `F`.
-/

variable {text front behind printed : List Char} {names : List String} {clause : Clause}
  {query : Query}

/-! ## The printed form -/

/-- The column names as they are printed. -/
def namesText (names : List String) : List Char :=
  [',', ' '].intercalate (names.map String.toList)

/-- The filter mark without its space. -/
def filterWord : List Char :=
  "FILTER".toList

theorem filterMark_eq : filterMark = filterWord ++ [' '] :=
  rfl

theorem filterMark_ne_nil : filterMark ≠ [] :=
  List.cons_ne_nil _ _

theorem paddedSymbol_ne_nil (operator : Operator) : paddedSymbol operator ≠ [] :=
  List.cons_ne_nil _ _

theorem namesText_cons_cons (first second : String) (others : List String) :
    namesText (first :: second :: others) =
      first.toList ++ ',' :: ' ' :: namesText (second :: others) := by
  simp [namesText]

theorem display_toList (query : Query) : query.display.toList =
    projectMark ++ namesText query.projection ++ query.clause.display.toList := by
  rw [display, String.toList_append, String.toList_append, String.toList_intercalate]
  rfl

theorem absent_display : Clause.absent.display.toList = [] :=
  rfl

theorem applied_display (comparison : Comparison) :
    (Clause.applied comparison).display.toList =
      ' ' :: filterMark ++ (comparison.column.toList ++ paddedSymbol comparison.operator ++
        ('"' :: (comparison.literal.toList ++ ['"']))) := by
  have symbol : comparison.operator.display.toList = [comparison.operator.symbol] :=
    String.toList_singleton comparison.operator.symbol
  simp only [Clause.display, Comparison.display, String.toList_append, symbol, List.append_assoc]
  rfl

theorem ignored_display (text : String) (operator : Operator) :
    (Clause.ignored text operator).display.toList = ' ' :: filterMark ++ text.toList := by
  rw [Clause.display, String.toList_append]
  rfl

/-! ## Clauses -/

theorem stripQuotes_isInfix (literal : List Char) : stripQuotes literal <:+: literal :=
  (dropLastIf_isPrefix isQuote _).isInfix.trans (dropFirstIf_isSuffix isQuote literal).isInfix

/-- Exactly the two printed quotation marks are taken off again. -/
theorem stripQuotes_quoted (literal : List Char) :
    stripQuotes ('"' :: (literal ++ ['"'])) = literal := by
  have opening : dropFirstIf isQuote ('"' :: (literal ++ ['"'])) = literal ++ ['"'] := rfl
  rw [stripQuotes, opening, dropLastIf_concat]
  rfl

/-- A character in front of a text begins no padded operator, unless it is a space. -/
theorem paddedSymbol_infix_cons {operator : Operator} {head : Char} (visible : head ≠ ' ') :
    paddedSymbol operator <:+: head :: text ↔ paddedSymbol operator <:+: text := by
  rw [List.infix_cons_iff, paddedSymbol, List.cons_prefix_cons]
  simp only [visible.symm, false_and, false_or]

/-- A character behind a text ends no padded operator, unless it is a space. -/
theorem paddedSymbol_infix_concat {operator : Operator} {last : Char} (visible : last ≠ ' ') :
    paddedSymbol operator <:+: text ++ [last] ↔ paddedSymbol operator <:+: text := by
  have parts : paddedSymbol operator = [' ', operator.symbol] ++ [' '] := rfl
  rw [List.infix_concat_iff, or_iff_right]
  rintro ⟨front, same⟩
  rw [parts, ← List.append_assoc] at same
  have ends := congrArg List.getLast? same
  rw [List.getLast?_concat, List.getLast?_concat] at ends
  exact visible (Option.some.inj ends).symm

/-- Quotation marks around a literal bring no padded operator about. -/
theorem not_infix_quoted {operator : Operator} {literal : List Char}
    (absent : ¬ paddedSymbol operator <:+: literal) :
    ¬ paddedSymbol operator <:+: '"' :: (literal ++ ['"']) := by
  rwa [paddedSymbol_infix_cons (by decide), paddedSymbol_infix_concat (by decide)]

theorem leftmostOperator?_append {operator : Operator} {column : List Char}
    (rest : List Char) :
    leftmostOperator? (column ++ paddedSymbol operator ++ rest) =
      leftmostOperator? (column ++ paddedSymbol operator) := by
  have seen : (leftmostOperator? (column ++ paddedSymbol operator)).isSome := by
    rw [leftmostOperator?, List.findSome?_isSome_iff]
    refine ⟨operator.symbol, by simp [paddedSymbol], ?_⟩
    rw [Operator.ofSymbol?_symbol]
    rfl
  rcases Option.isSome_iff_exists.mp seen with ⟨found, leftmost⟩
  have reached := leftmost
  rw [leftmostOperator?] at reached
  rw [leftmost, leftmostOperator?, List.findSome?_append, reached]
  rfl

/-- In front of a padded operator in a trimmed text something visible stands. -/
theorem start_of_trimmed {column rest : List Char} {operator : Operator}
    (trimmed : trim (column ++ paddedSymbol operator ++ rest) =
      column ++ paddedSymbol operator ++ rest) :
    column ≠ [] ∧ ∀ head ∈ column.head?, isBlank head = false := by
  have start := (trim_eq_self_iff.mp trimmed).1
  cases column with
  | nil => exact absurd (start ' ' rfl) (by decide)
  | cons head others => exact ⟨List.cons_ne_nil head others, start⟩

/-- A comparison is a trimmed text when its column starts, and its literal ends,
with something visible. -/
theorem trim_padded {column raw : List Char} {operator : Operator} (filled : column ≠ [])
    (start : ∀ head ∈ column.head?, isBlank head = false) (written : raw ≠ [])
    (final : ∀ last ∈ raw.getLast?, isBlank last = false) :
    trim (column ++ paddedSymbol operator ++ raw) = column ++ paddedSymbol operator ++ raw := by
  rw [trim_eq_self_iff]
  constructor
  · cases column with
    | nil => exact absurd rfl filled
    | cons head others => exact start
  · rwa [List.getLast?_append_of_ne_nil _ written]

theorem trim_comparison {column : List Char} {operator : Operator} (literal : List Char)
    (filled : column ≠ []) (start : ∀ head ∈ column.head?, isBlank head = false) :
    trim (column ++ paddedSymbol operator ++ ('"' :: (literal ++ ['"']))) =
      column ++ paddedSymbol operator ++ ('"' :: (literal ++ ['"'])) := by
  refine trim_padded filled start (List.cons_ne_nil _ _) ?_
  intro last final
  rw [← List.cons_append, List.getLast?_concat] at final
  rw [← Option.some.inj final]
  decide

/-- A comparison is read when its column lets the padded operator be found and
what follows does not hold that operator again. -/
theorem readClause_padded {column raw : List Char} {operator : Operator}
    (leftmost : leftmostOperator? (column ++ paddedSymbol operator) = some operator)
    (first : ¬ paddedSymbol operator <:+: (column ++ paddedSymbol operator).dropLast)
    (free : ¬ paddedSymbol operator <:+: raw) :
    (readClause (column ++ paddedSymbol operator ++ raw)).outcome =
      .ok (.applied
        { column := String.ofList column
          operator := operator
          literal := String.ofList (stripQuotes raw) }) := by
  have cut := (cut?_append_iff (paddedSymbol_ne_nil operator) column raw).mpr first
  rw [readClause_eq_ok]
  refine ⟨operator, ?_, Or.inr ⟨column, raw, cut, ?_⟩⟩
  · rw [leftmostOperator?_append, leftmost]
  · rw [before_eq_self free]

theorem readClause_quoted {column literal : List Char} {operator : Operator}
    (leftmost : leftmostOperator? (column ++ paddedSymbol operator) = some operator)
    (first : ¬ paddedSymbol operator <:+: (column ++ paddedSymbol operator).dropLast)
    (free : ¬ paddedSymbol operator <:+: literal) :
    (readClause (column ++ paddedSymbol operator ++ ('"' :: (literal ++ ['"'])))).outcome =
      .ok (.applied
        { column := String.ofList column
          operator := operator
          literal := String.ofList literal }) := by
  rw [readClause_padded leftmost first (not_infix_quoted free), stripQuotes_quoted]

/-- What was read as a clause is printed so that it is read as the same clause. -/
theorem exists_printed_clause (nonempty : text ≠ []) (trimmed : trim text = text)
    (read : (readClause text).outcome = .ok clause) :
    ∃ printed, clause.display.toList = ' ' :: filterMark ++ printed ∧ printed ≠ [] ∧
      trim printed = printed ∧ (readClause printed).outcome = .ok clause := by
  rcases readClause_eq_ok.mp read with ⟨operator, leftmost, ⟨absent, rfl⟩ | found⟩
  · refine ⟨text, ?_, nonempty, trimmed, read⟩
    rw [ignored_display, String.toList_ofList]
  · rcases found with ⟨column, rest, cut, rfl⟩
    have padded := paddedSymbol_ne_nil operator
    rw [eq_append_of_cut? cut] at leftmost trimmed cut
    have free : ¬ paddedSymbol operator <:+:
        stripQuotes (before (paddedSymbol operator) rest) := by
      intro inside
      exact not_infix_before padded rest (inside.trans (stripQuotes_isInfix _))
    refine ⟨_, applied_display _, ?_, ?_, ?_⟩ <;> simp only [String.toList_ofList]
    · exact List.append_ne_nil_of_right_ne_nil _ (List.cons_ne_nil _ _)
    · rcases start_of_trimmed trimmed with ⟨filled, start⟩
      exact trim_comparison _ filled start
    · rw [leftmostOperator?_append] at leftmost
      exact readClause_quoted leftmost ((cut?_append_iff padded column rest).mp cut) free

/-! ## Marks among the names -/

theorem filterMark_infix_cons {character : Char} (other : character ≠ 'F') :
    filterMark <:+: character :: text ↔ filterMark <:+: text := by
  have letters : filterMark = 'F' :: "ILTER ".toList := rfl
  rw [List.infix_cons_iff, letters, List.cons_prefix_cons]
  simp only [other.symm, false_and, false_or]

theorem filterMark_infix_project (text : List Char) :
    filterMark <:+: projectMark ++ text ↔ filterMark <:+: text := by
  have letters : projectMark = ['P', 'R', 'O', 'J', 'E', 'C', 'T', ' '] := rfl
  rw [letters]
  simp only [List.cons_append, List.nil_append]
  iterate 8 rw [filterMark_infix_cons (by decide)]

/-- Joining names brings no mark about, except through what follows the last one. -/
theorem filterMark_infix_names (nonempty : names ≠ []) (behind : List Char) :
    filterMark <:+: namesText names ++ behind ↔
      (∃ name ∈ names, filterMark <:+: name.toList) ∨
        filterMark <:+: (names.getLast nonempty).toList ++ behind := by
  induction names with
  | nil => exact absurd rfl nonempty
  | cons first others inductionHypothesis =>
      cases others with
      | nil =>
          have single : namesText [first] = first.toList := List.intercalate_singleton
          rw [single, List.getLast_singleton]
          constructor
          · exact Or.inr
          · rintro (⟨name, member, inside⟩ | inside)
            · rw [List.mem_singleton.mp member] at inside
              exact inside.trans List.infix_append_left
            · exact inside
      | cons second others =>
          rw [namesText_cons_cons, List.append_assoc, List.cons_append, List.cons_append,
            infix_append_cons_iff (by decide), filterMark_infix_cons (by decide),
            inductionHypothesis (List.cons_ne_nil _ _), List.getLast_cons (List.cons_ne_nil _ _),
            ← or_assoc]
          simp only [List.mem_cons, or_and_right, exists_or, exists_eq_left]

/-- A space completes a mark exactly when the text in front of it ends in the
word of the mark.  No mark reaches across a space. -/
theorem filterMark_infix_append_space (front behind : List Char) :
    filterMark <:+: front ++ ' ' :: behind ↔
      filterMark <:+: front ∨ filterWord <:+ front ∨ filterMark <:+: behind := by
  constructor
  · intro inside
    rcases List.infix_append_iff.mp inside with left | right | ⟨start, rest, same, early, late⟩
    · exact Or.inl left
    · rw [filterMark_infix_cons (by decide)] at right
      exact Or.inr (Or.inr right)
    · rcases List.prefix_cons_iff.mp late with rfl | ⟨others, rfl, -⟩
      · rw [List.append_nil] at same
        rw [same]
        exact Or.inl early.isInfix
      · rw [filterMark_eq, List.append_cons_inj_of_notMem (by decide) (by decide)] at same
        rw [same.1]
        exact Or.inr (Or.inl early)
  · rintro (inside | ⟨start, rfl⟩ | inside)
    · exact inside.trans List.infix_append_left
    · refine ⟨start, behind, ?_⟩
      simp [filterMark_eq]
    · exact inside.trans ((List.suffix_cons ' ' behind).isInfix.trans List.infix_append_right)

theorem filterMark_infix_space (name : List Char) :
    filterMark <:+: name ++ ' ' :: filterWord ↔ filterMark <:+: name ∨ filterWord <:+ name := by
  have short : ¬ filterMark <:+: filterWord := fun inside => absurd inside.length_le (by decide)
  rw [filterMark_infix_append_space, or_iff_left short]

/-- The mark printed in front of a clause is the leftmost one when the names
neither hold a mark nor begin one. -/
theorem cut?_printed_iff (nonempty : names ≠ []) (printed : List Char) :
    cut? filterMark (projectMark ++ namesText names ++ [' '] ++ filterMark ++ printed) =
        some (projectMark ++ namesText names ++ [' '], printed) ↔
      (∀ name ∈ names, ¬ filterMark <:+: name.toList) ∧
        ∀ last ∈ names.getLast?, ¬ filterWord <:+ last.toList := by
  have upTo : (projectMark ++ namesText names ++ [' '] ++ filterMark).dropLast =
      projectMark ++ (namesText names ++ ' ' :: filterWord) := by
    rw [filterMark_eq, ← List.append_assoc, List.dropLast_concat]
    simp
  rw [cut?_append_iff (by decide), upTo, filterMark_infix_project,
    filterMark_infix_names nonempty, filterMark_infix_space, List.getLast?_eq_some_getLast nonempty]
  constructor
  · intro absent
    rw [not_or, not_or, not_exists] at absent
    refine ⟨fun name member inside => absent.1 name ⟨member, inside⟩, ?_⟩
    intro last final
    rw [← Option.some.inj final]
    exact absent.2.2
  · rintro ⟨unmarked, separate⟩ (⟨name, member, inside⟩ | inside | inside)
    · exact unmarked name member inside
    · exact unmarked _ (List.getLast_mem nonempty) inside
    · exact separate _ rfl inside

/-- Cutting inside the printed names loses an `F`, which reading names cannot
make up for. -/
theorem readNames_ne_of_cut {rest : List Char}
    (early : projectMark ++ namesText names = front ++ 'F' :: rest) :
    readNames (trim front) ≠ names := by
  intro same
  have printedCount : (namesText names).count 'F' = front.count 'F' := by
    have kept := count_readNames (by decide : isBlank 'F' = false) (by decide) (by decide)
      (trim front)
    rw [same, count_trim (by decide)] at kept
    rw [namesText, count_intercalate (by decide), kept]
  have whole := congrArg (List.count 'F') early
  have noMark : projectMark.count 'F' = 0 := by decide
  rw [List.count_append, List.count_append, List.count_cons_self, noMark, printedCount] at whole
  omega

/-! ## Reading the names back -/

theorem exists_visible_namesText (readable : ReadableNames names) (named : names ≠ [""]) :
    ∃ character ∈ namesText names, isBlank character = false := by
  cases names with
  | nil => exact absurd rfl readable.nonempty
  | cons first others =>
      cases others with
      | nil =>
          have single : namesText [first] = first.toList := List.intercalate_singleton
          cases letters : first.toList with
          | nil =>
              rw [String.toList_eq_nil_iff.mp letters] at named
              exact absurd rfl named
          | cons head rest =>
              have start := (trim_eq_self_iff.mp (readable.trimmed first List.mem_cons_self)).1
              rw [letters] at start
              refine ⟨head, ?_, start head rfl⟩
              rw [single, letters]
              exact List.mem_cons_self
      | cons second others =>
          refine ⟨',', ?_, by decide⟩
          rw [namesText_cons_cons]
          exact List.mem_append_right _ List.mem_cons_self

theorem map_trim_pieces_namesText (readable : ReadableNames names) :
    (pieces ',' (namesText names)).map trim = names.map String.toList := by
  induction names with
  | nil => exact absurd rfl readable.nonempty
  | cons first others inductionHypothesis =>
      have firstTrimmed := readable.trimmed first List.mem_cons_self
      have firstFree := readable.commaFree first List.mem_cons_self
      cases others with
      | nil =>
          have single : namesText [first] = first.toList := List.intercalate_singleton
          rw [single, pieces_eq_splitOn, List.splitOn_eq_singleton firstFree]
          simp [firstTrimmed]
      | cons second others =>
          have later : ReadableNames (second :: others) :=
            { nonempty := List.cons_ne_nil _ _
              trimmed := fun name member =>
                readable.trimmed name (List.mem_cons_of_mem first member)
              commaFree := fun name member =>
                readable.commaFree name (List.mem_cons_of_mem first member) }
          rw [namesText_cons_cons, pieces_eq_splitOn,
            List.splitOn_append_cons_self_of_not_mem firstFree, ← pieces_eq_splitOn,
            List.map_cons, firstTrimmed, map_trim_pieces_cons (by decide) (by decide),
            inductionHypothesis later]
          rfl

/-- Printed names are read back, whatever blanks are printed behind them. -/
theorem readNames_printed {blanks : List Char} (readable : ReadableNames names)
    (named : names ≠ [""]) (blank : ∀ character ∈ blanks, isBlank character = true) :
    readNames (trim (projectMark ++ namesText names ++ blanks)) = names := by
  have visible := exists_visible_namesText readable named
  have start : trimStart (projectMark ++ namesText names) = projectMark ++ namesText names :=
    trimStart_cons_of_visible (by decide)
  have kept : trim (projectMark ++ namesText names ++ blanks) =
      projectMark ++ trimEnd (namesText names) := by
    rw [trim_append_of_blank blank, trim, start, trimEnd_append_of_visible visible]
  have texts := map_trim_pieces_namesText readable
  rw [← map_trim_pieces_trimEnd] at texts
  have restored := congrArg (List.map String.ofList) texts
  simp only [List.map_map, Function.comp_def, String.ofList_toList, List.map_id'] at restored
  rw [kept, readNames, eraseFirst_append_left, restored]

/-! ## Reading the query back -/

/-- Names that can be printed with nothing behind them. -/
structure UnmarkedNames (names : List String) : Prop where
  named : names ≠ [""]
  unmarked : ∀ name ∈ names, ¬ filterMark <:+: name.toList

/-- Names that can be printed in front of a filter mark. -/
structure SeparateNames (names : List String) : Prop extends UnmarkedNames names where
  separate : ∀ last ∈ names.getLast?, ¬ filterWord <:+ last.toList

/-- The conditions under which the marks of a printed query are found where
they were printed. -/
structure MarksApart (query : Query) : Prop extends UnmarkedNames query.projection where
  separate : query.clause = .absent ∨
    ∀ last ∈ query.projection.getLast?, ¬ filterWord <:+ last.toList

/-- Without a clause, only a mark inside a name or a missing name is noticed. -/
theorem parse_display_absent (readable : ReadableNames query.projection)
    (absent : query.clause = .absent) :
    (parse query.display).outcome = .ok query ↔ UnmarkedNames query.projection := by
  have whole : query.display.toList = projectMark ++ namesText query.projection := by
    rw [display_toList, absent, absent_display, List.append_nil]
  have marked : filterMark <:+: query.display.toList ↔
      ∃ name ∈ query.projection, filterMark <:+: name.toList := by
    have joined := filterMark_infix_names readable.nonempty []
    rw [List.append_nil, List.append_nil] at joined
    rw [whole, filterMark_infix_project, joined]
    constructor
    · rintro (inside | last)
      · exact inside
      · exact ⟨_, List.getLast_mem readable.nonempty, last⟩
    · exact Or.inl
  constructor
  · intro reread
    refine ⟨?_, ?_⟩
    · intro single
      have names := (parts_of_parse reread).1
      rw [whole, single] at names
      exact absurd names (by decide)
    · intro name member inside
      cases found : cut? filterMark query.display.toList with
      | none => exact cut?_eq_none_iff.mp found (marked.mpr ⟨name, member, inside⟩)
      | some parts =>
          have early := eq_append_of_cut? found
          rw [whole, List.append_assoc] at early
          exact readNames_ne_of_cut early (projection_of_cut reread found).symm
  · rintro ⟨named, unmarked⟩
    have free : ¬ filterMark <:+: query.display.toList := by
      rw [marked]
      rintro ⟨name, member, inside⟩
      exact unmarked name member inside
    have names := readNames_printed readable named (List.forall_mem_nil _)
    rw [List.append_nil] at names
    rw [parse_of_unmarked free, whole, names, ← absent]

/-- When the projection survives, the mark was found in front of the clause. -/
theorem cut?_of_reread {text : String}
    (whole : text.toList =
      projectMark ++ namesText query.projection ++ [' '] ++ filterMark ++ printed)
    (reread : (parse text).outcome = .ok query) :
    cut? filterMark text.toList =
      some (projectMark ++ namesText query.projection ++ [' '], printed) := by
  cases found : cut? filterMark text.toList with
  | none => exact absurd ⟨_, _, whole.symm⟩ (cut?_eq_none_iff.mp found)
  | some parts =>
      rcases parts with ⟨front, behind⟩
      have split := eq_append_of_cut? found
      rcases List.prefix_concat_iff.mp (front_prefix_of_cut? found whole) with same | shorter
      · rw [whole, same] at split
        rw [same, List.append_cancel_left split]
      · rcases shorter with ⟨rest, joined⟩
        rw [whole, ← joined] at split
        simp only [List.append_assoc] at split
        have aligned := List.append_cancel_left split
        cases rest with
        | nil => exact absurd (List.cons.inj aligned).1 (by decide)
        | cons head rest =>
            rw [(List.cons.inj aligned).1] at joined
            exact absurd (projection_of_cut reread found).symm (readNames_ne_of_cut joined.symm)

/-- With a clause that is read back from its own printed form, only the names decide. -/
theorem parse_display_printed (readable : ReadableNames query.projection)
    (display : query.clause.display.toList = ' ' :: filterMark ++ printed)
    (visible : printed ≠ []) (trimmed : trim printed = printed)
    (read : (readClause printed).outcome = .ok query.clause) :
    (parse query.display).outcome = .ok query ↔ SeparateNames query.projection := by
  have whole : query.display.toList =
      projectMark ++ namesText query.projection ++ [' '] ++ filterMark ++ printed := by
    rw [display_toList, display]
    simp
  have marked := cut?_printed_iff readable.nonempty printed
  rw [← whole] at marked
  constructor
  · intro reread
    have cut := cut?_of_reread whole reread
    rcases marked.mp cut with ⟨unmarked, separate⟩
    refine ⟨⟨?_, unmarked⟩, separate⟩
    intro single
    have names := projection_of_cut reread cut
    rw [single] at names
    exact absurd names (by decide)
  · intro apart
    have cut := marked.mpr ⟨apart.unmarked, apart.separate⟩
    have blank : ∀ character ∈ [' '], isBlank character = true :=
      List.forall_mem_singleton.mpr rfl
    have names := readNames_printed readable apart.named blank
    rw [parse_of_cut cut (by rw [trimmed]; exact visible), trimmed, read, names]
    rfl

/-- A query that was read from a text is read again from its printed form
exactly when its marks are apart.  No clause that was read stands in the way. -/
theorem parse_display_iff {text : String} {query : Query}
    (read : (parse text).outcome = .ok query) :
    (parse query.display).outcome = .ok query ↔ MarksApart query := by
  rcases parts_of_parse read with ⟨names, clause⟩
  have readable : ReadableNames query.projection := by
    rw [names]
    exact readableNames_readNames _
  rcases clause with absent | ⟨part, nonempty, trimmed, clauseRead⟩
  · rw [parse_display_absent readable absent]
    constructor
    · intro unmarked
      exact ⟨unmarked, Or.inl absent⟩
    · intro apart
      exact apart.toUnmarkedNames
  · rcases exists_printed_clause nonempty trimmed clauseRead with
      ⟨printed, display, visible, printedTrimmed, printedRead⟩
    have present : query.clause ≠ .absent := by
      intro absent
      rw [absent, absent_display] at display
      cases display
    rw [parse_display_printed readable display visible printedTrimmed printedRead]
    constructor
    · intro names
      exact ⟨names.toUnmarkedNames, Or.inr names.separate⟩
    · intro apart
      exact ⟨apart.toUnmarkedNames, apart.separate.resolve_left present⟩

/-- A query with an empty name, a further mark and an odd quotation mark in its
clause is read back. -/
theorem parse_display_iff_doubledMark :
    (parse "PROJECT a, FILTER FILTER b = 'it''s = 1").outcome =
        .ok (.mk ["a", ""] (.applied ⟨"FILTER b", .equal, "it''s"⟩)) ∧
      ((parse (display (.mk ["a", ""] (.applied ⟨"FILTER b", .equal, "it''s"⟩)))).outcome =
          .ok (.mk ["a", ""] (.applied ⟨"FILTER b", .equal, "it''s"⟩)) ↔
        MarksApart (.mk ["a", ""] (.applied ⟨"FILTER b", .equal, "it''s"⟩))) := by
  have read : (parse "PROJECT a, FILTER FILTER b = 'it''s = 1").outcome =
      .ok (.mk ["a", ""] (.applied ⟨"FILTER b", .equal, "it''s"⟩)) := by
    rfl
  exact ⟨read, parse_display_iff read⟩

/-- Deleting the project mark can put a filter mark together, which the printed
form then holds. -/
example : (parse "FILPROJECT TER x").outcome = .ok (.mk ["FILTER x"] .absent) := by
  rfl

end Query
end Tabular
