import Tabular.Proofs.Query.Printable
import Tabular.Proofs.Text.Split

namespace Tabular
namespace Query

open Log Text

/-!
# What a text is read as

There is one reading for every text, a query or the complaint that a clause
holds no operator.  It is described by where things stand in the text: the first
filter mark, the first project mark in front of it, the first operator symbol
behind it, the first place at which this operator is set apart by spaces, and
the next such place.
-/

variable {text part raw literal front : List Char} {behind? : Option (List Char)}
  {names : List String} {operator : Operator} {clause : Except ParseError Clause}
  {outcome : Except ParseError Query}

/-! ## Descriptions -/

/-- The first symbol in a text that writes an operator. -/
def FirstSymbol (text : List Char) (operator : Operator) : Prop :=
  ∃ front behind, text = front ++ operator.symbol :: behind ∧
    ∀ other : Operator, other.symbol ∉ front

/-- A literal with one quotation mark less at each end that has one. -/
inductive Unquotes : List Char → List Char → Prop where
  | both {opening closing : Char} {literal : List Char} (opens : isQuote opening = true)
      (closes : isQuote closing = true) : Unquotes (opening :: (literal ++ [closing])) literal
  | opening {opening : Char} {literal : List Char} (opens : isQuote opening = true)
      (unclosed : ∀ last ∈ literal.getLast?, isQuote last = false) :
      Unquotes (opening :: literal) literal
  | closing {closing : Char} {literal : List Char}
      (unopened : ∀ head ∈ (literal ++ [closing]).head?, isQuote head = false)
      (closes : isQuote closing = true) : Unquotes (literal ++ [closing]) literal
  | neither {literal : List Char} (unopened : ∀ head ∈ literal.head?, isQuote head = false)
      (unclosed : ∀ last ∈ literal.getLast?, isQuote last = false) : Unquotes literal literal

/-- The names in a trimmed part, which are the pieces between its commas once
the first project mark is taken out. -/
def ReadsNames (part : List Char) (names : List String) : Prop :=
  ∃ front behind? pieces, Divides projectMark part front behind? ∧
    pieces ≠ [] ∧ (∀ piece ∈ pieces, ',' ∉ piece) ∧
    front ++ behind?.getD [] = [','].intercalate pieces ∧
    names = pieces.map fun piece => String.ofList (trim piece)

/-- The clause that a trimmed text is read as, or the complaint about it. -/
inductive ReadsClause (text : List Char) : Except ParseError Clause → Prop where
  | noOperator (plain : ∀ operator : Operator, operator.symbol ∉ text) :
      ReadsClause text (.error (.noOperator (String.ofList text)))
  | ignored {operator : Operator} (first : FirstSymbol text operator)
      (together : ¬ paddedSymbol operator <:+: text) :
      ReadsClause text (.ok (.ignored (String.ofList text) operator))
  | applied {operator : Operator} {column rest raw literal : List Char}
      {later? : Option (List Char)} (first : FirstSymbol text operator)
      (apart : Leftmost (paddedSymbol operator) text column rest)
      (cut : Divides (paddedSymbol operator) rest raw later?) (unquoted : Unquotes raw literal) :
      ReadsClause text
        (.ok (.applied ⟨String.ofList column, operator, String.ofList literal⟩))

/-- The clause behind the filter mark, if there is a mark. -/
inductive ReadsFilter : Option (List Char) → Except ParseError Clause → Prop where
  | missing : ReadsFilter none (.ok .absent)
  | blank {behind : List Char} (empty : trim behind = []) :
      ReadsFilter (some behind) (.ok .absent)
  | present {behind : List Char} {clause : Except ParseError Clause} (filled : trim behind ≠ [])
      (read : ReadsClause (trim behind) clause) : ReadsFilter (some behind) clause

/-- The query that a text is read as, or the complaint about its clause. -/
inductive Reads (text : List Char) : Except ParseError Query → Prop where
  | divided {front : List Char} {behind? : Option (List Char)} {names : List String}
      {clause : Except ParseError Clause} (mark : Divides filterMark text front behind?)
      (named : ReadsNames (trim front) names) (filter : ReadsFilter behind? clause) :
      Reads text (clause.map fun clause => { projection := names, clause := clause })

/-! ## The parts of a clause -/

theorem forall_ofSymbol?_eq_none_iff : (∀ character ∈ text, Operator.ofSymbol? character = none) ↔
    ∀ operator : Operator, operator.symbol ∉ text := by
  simp only [Option.eq_none_iff_forall_ne_some, Ne, ofSymbol?_eq_some_iff]
  constructor
  · intro plain operator member
    exact plain _ member operator rfl
  · rintro plain character member operator rfl
    exact plain operator member

theorem leftmostOperator?_eq_none_iff :
    leftmostOperator? text = none ↔ ∀ operator : Operator, operator.symbol ∉ text := by
  rw [leftmostOperator?, List.findSome?_eq_none_iff, forall_ofSymbol?_eq_none_iff]

theorem leftmostOperator?_eq_some_iff :
    leftmostOperator? text = some operator ↔ FirstSymbol text operator := by
  rw [leftmostOperator?, List.findSome?_eq_some_iff]
  simp only [ofSymbol?_eq_some_iff, forall_ofSymbol?_eq_none_iff]
  constructor
  · rintro ⟨front, _, behind, whole, rfl, plain⟩
    exact ⟨front, behind, whole, plain⟩
  · rintro ⟨front, behind, whole, plain⟩
    exact ⟨front, _, behind, whole, rfl, plain⟩

theorem stripQuotes_eq_iff : stripQuotes raw = literal ↔ Unquotes raw literal := by
  have steps : stripQuotes raw = literal ↔
      ∃ middle, dropFirstIf isQuote raw = middle ∧ dropLastIf isQuote middle = literal := by
    rw [stripQuotes, exists_eq_left']
  rw [steps]
  simp only [dropFirstIf_eq_iff, dropLastIf_eq_iff]
  constructor
  · rintro ⟨middle, ⟨opening, opens, rfl⟩ | ⟨unopened, rfl⟩,
      ⟨closing, closes, rfl⟩ | ⟨unclosed, rfl⟩⟩
    · exact .both opens closes
    · exact .opening opens unclosed
    · exact .closing unopened closes
    · exact .neither unopened unclosed
  · intro unquotes
    cases unquotes with
    | both opens closes => exact ⟨_, Or.inl ⟨_, opens, rfl⟩, Or.inl ⟨_, closes, rfl⟩⟩
    | opening opens unclosed => exact ⟨_, Or.inl ⟨_, opens, rfl⟩, Or.inr ⟨unclosed, rfl⟩⟩
    | closing unopened closes => exact ⟨_, Or.inr ⟨unopened, rfl⟩, Or.inl ⟨_, closes, rfl⟩⟩
    | neither unopened unclosed => exact ⟨_, Or.inr ⟨unopened, rfl⟩, Or.inr ⟨unclosed, rfl⟩⟩

/-! ## The parts of a text -/

theorem readNames_eq_iff : readNames part = names ↔ ReadsNames part names := by
  have steps : readNames part = names ↔ ∃ rest pieces, eraseFirst projectMark part = rest ∧
      Text.pieces ',' rest = pieces ∧
        names = pieces.map fun piece => String.ofList (trim piece) := by
    simp only [readNames, ↓existsAndEq, true_and, eq_comm]
  rw [steps]
  simp only [eraseFirst_eq_iff, pieces_eq_iff, ReadsNames]
  constructor
  · rintro ⟨_, pieces, ⟨front, behind?, divided, rfl⟩, ⟨nonempty, free, joined⟩, named⟩
    exact ⟨front, behind?, pieces, divided, nonempty, free, joined, named⟩
  · rintro ⟨front, behind?, pieces, divided, nonempty, free, joined, named⟩
    exact ⟨_, pieces, ⟨front, behind?, divided, rfl⟩, ⟨nonempty, free, joined⟩, named⟩

theorem readClause_eq_iff : (readClause text).outcome = clause ↔ ReadsClause text clause := by
  cases clause with
  | error failure =>
      rw [readClause_eq_error, leftmostOperator?_eq_none_iff]
      constructor
      · rintro ⟨plain, rfl⟩
        exact .noOperator plain
      · intro reads
        cases reads with
        | noOperator plain => exact ⟨plain, rfl⟩
  | ok clause =>
      rw [readClause_eq_ok]
      simp only [leftmostOperator?_eq_some_iff, cut?_eq_some_iff]
      constructor
      · rintro ⟨operator, first, ⟨together, rfl⟩ | ⟨column, rest, apart, rfl⟩⟩
        · exact .ignored first together
        · rcases divides_before (paddedSymbol operator) rest with ⟨later?, cut⟩
          exact .applied first apart cut (stripQuotes_eq_iff.mp rfl)
      · intro reads
        cases reads with
        | ignored first together => exact ⟨_, first, Or.inl ⟨together, rfl⟩⟩
        | applied first apart cut unquoted =>
            refine ⟨_, first, Or.inr ⟨_, _, apart, ?_⟩⟩
            rw [before_eq_iff.mpr ⟨_, cut⟩, stripQuotes_eq_iff.mpr unquoted]

/-- Where there is no mark, and where only blanks follow it, there is no clause. -/
theorem filter_eq_iff : (if (trim (behind?.getD [])).isEmpty then .ok .absent
      else (readClause (trim (behind?.getD []))).outcome) = clause ↔
    ReadsFilter behind? clause := by
  cases behind? with
  | none =>
      constructor
      · rintro rfl
        exact .missing
      · intro reads
        cases reads
        rfl
  | some behind =>
      rw [Option.getD_some]
      by_cases empty : trim behind = []
      · rw [empty, List.isEmpty_nil, if_pos rfl]
        constructor
        · rintro rfl
          exact .blank empty
        · intro reads
          cases reads with
          | blank _ => rfl
          | present filled _ => exact absurd empty filled
      · rw [if_neg (mt List.isEmpty_iff.mp empty), readClause_eq_iff]
        constructor
        · exact .present empty
        · intro reads
          cases reads with
          | blank blank => exact absurd blank empty
          | present _ read => exact read

theorem divide_of_divides (mark : Divides filterMark text front behind?) :
    divide text = (trim front, trim (behind?.getD [])) := by
  rcases divides_iff.mp mark with ⟨missing, rfl, rfl⟩ | ⟨behind, found, rfl⟩
  · rw [divide, missing]
    rfl
  · rw [divide, found]
    rfl

/-- There is one reading of a text, and it is what the description says. -/
theorem parse_eq_iff {text : String} :
    (parse text).outcome = outcome ↔ Reads text.toList outcome := by
  rw [parse_outcome]
  constructor
  · rintro rfl
    rcases divides_before filterMark text.toList with ⟨behind?, mark⟩
    rw [divide_of_divides mark]
    exact .divided mark (readNames_eq_iff.mp rfl) (filter_eq_iff.mp rfl)
  · intro reads
    cases reads with
    | divided mark named filter =>
        rw [divide_of_divides mark, readNames_eq_iff.mpr named, filter_eq_iff.mpr filter]

theorem printable_of_parse {text : String} {query : Query}
    (read : (parse text).outcome = .ok query) : PrintableClause query.clause := by
  rcases (parts_of_parse read).2 with absent | ⟨part, filled, trimmed, clause⟩
  · rw [absent]
    trivial
  · exact printable_of_read filled trimmed clause

/-- The outcome of reading, for every text.  What is read as a comparison has a
column with a visible start and a literal in which the operator is not set
apart again. -/
theorem parse_reads (text : String) :
    (∀ outcome, (parse text).outcome = outcome ↔ Reads text.toList outcome) ∧
    ∀ query comparison, (parse text).outcome = .ok query → query.clause = .applied comparison →
      (∃ head rest, comparison.column.toList = head :: rest ∧ isBlank head = false) ∧
        ¬ paddedSymbol comparison.operator <:+: comparison.literal.toList := by
  refine ⟨fun _ => parse_eq_iff, ?_⟩
  intro query comparison read clause
  have printable : PrintableComparison comparison := by
    have whole := printable_of_parse read
    rwa [clause] at whole
  refine ⟨?_, printable.literalFree⟩
  cases letters : comparison.column.toList with
  | nil => exact absurd (String.toList_eq_nil_iff.mp letters) printable.filled
  | cons head rest =>
      refine ⟨head, rest, rfl, printable.start head ?_⟩
      rw [letters]
      rfl

/-- A project mark is looked for only after trimming, so a bare one is a name. -/
example : (parse "PROJECT FILTER a> > 'x > y'").outcome =
    .ok (.mk ["PROJECT"] (.applied ⟨"a>", .greaterThan, "x"⟩)) := by
  rfl

end Query
end Tabular
