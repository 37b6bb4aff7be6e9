import Mathlib.Data.List.Forall2
import Mathlib.Data.List.TakeWhile
import Tabular.Delimited

namespace Tabular
namespace Delimited

/-!
# The grammar of records

A record is a list of pieces with delimiters between them.  A piece is plain, or
it consists of a quoted body in which every mark is doubled and of a plain rest
that still belongs to the field.

The splitter passes over a line once, and the two agree because at the end of a
piece the splitter has forgotten how the piece began.  It is then enough that a
line it accepts begins with some piece whose value is the first field.
-/

variable {delimiter head : Char} {piece text value body rest line : List Char}
  {fields : List (List Char)} {record : List String}

/-- The inside of quotation marks and what it stands for. -/
inductive Body : List Char → List Char → Prop where
  | nil : Body [] []
  | plain {head : Char} {body value : List Char} (other : head ≠ '"') (inside : Body body value) :
      Body (head :: body) (head :: value)
  | doubled {body value : List Char} (inside : Body body value) :
      Body ('"' :: '"' :: body) ('"' :: value)

/-- A text that stands for itself.  Quotation marks in it are content unless
one comes first. -/
structure Plain (delimiter : Char) (text : List Char) : Prop where
  free : delimiter ∉ text
  unquoted : text.head? ≠ some '"'

/-- The pieces of a record and what they stand for. -/
inductive Piece (delimiter : Char) : List Char → List Char → Prop where
  | bare {text : List Char} (plain : Plain delimiter text) : Piece delimiter text text
  | quoted {body value tail : List Char} (inside : Body body value)
      (behind : Plain delimiter tail) :
      Piece delimiter ('"' :: (body ++ '"' :: tail)) (value ++ tail)

/-- A line that is a list of pieces, and the fields they stand for. -/
def SplitsInto (delimiter : Char) (line : List Char) (record : List String) : Prop :=
  ∃ pieces, pieces ≠ [] ∧ List.Forall₂ (Piece delimiter) pieces (record.map String.toList) ∧
    line = [delimiter].intercalate pieces

/-- The rest of a line at the end of a piece. -/
def Ended (delimiter : Char) (rest : List Char) : Prop :=
  ∀ next ∈ rest.head?, next = delimiter

/-! ## Steps of the splitter -/

/-- A mark at the start of a field opens quotes, also where it is the delimiter. -/
theorem splitFrom_opening :
    splitFrom delimiter .start ('"' :: rest) = splitFrom delimiter .quoted rest :=
  rfl

/-- What a mark inside quotes is depends on the next character. -/
theorem splitFrom_mark :
    splitFrom delimiter .quoted ('"' :: rest) = splitFrom delimiter .behindQuote rest :=
  rfl

theorem splitFrom_doubled :
    splitFrom delimiter .behindQuote ('"' :: rest) =
      (splitFrom delimiter .quoted rest).map (prepend '"') :=
  rfl

theorem splitFrom_quoted (other : head ≠ '"') :
    splitFrom delimiter .quoted (head :: rest) =
      (splitFrom delimiter .quoted rest).map (prepend head) :=
  if_neg other

theorem splitFrom_bare_cons (different : head ≠ delimiter) :
    splitFrom delimiter .bare (head :: rest) =
      (splitFrom delimiter .bare rest).map (prepend head) :=
  if_neg different

/-- Outside quotes a delimiter ends the field. -/
theorem splitFrom_delimiter {place : Place} (closed : place ≠ .quoted) (other : delimiter ≠ '"') :
    splitFrom delimiter place (delimiter :: rest) =
      (splitFrom delimiter .start rest).map ([] :: ·) := by
  cases place with
  | quoted => exact absurd rfl closed
  | start => rw [splitFrom, if_neg other, if_pos rfl]
  | bare => rw [splitFrom, if_pos rfl]
  | behindQuote => rw [splitFrom, if_neg other, if_pos rfl]

/-- Outside quotes any other character belongs to the field. -/
theorem splitFrom_content {place : Place} (closed : place ≠ .quoted) (notMark : head ≠ '"')
    (different : head ≠ delimiter) :
    splitFrom delimiter place (head :: rest) =
      (splitFrom delimiter .bare rest).map (prepend head) := by
  cases place with
  | quoted => exact absurd rfl closed
  | start => rw [splitFrom, if_neg notMark, if_neg different]
  | bare => exact splitFrom_bare_cons different
  | behindQuote => rw [splitFrom, if_neg notMark, if_neg different]

/-- A record may end anywhere outside quotes. -/
theorem splitFrom_nil {place : Place} (closed : place ≠ .quoted) :
    splitFrom delimiter place [] = some [[]] := by
  cases place with
  | quoted => exact absurd rfl closed
  | start | bare | behindQuote => rfl

/-! ## Reading a piece -/

/-- Put a text in front of the first of several fields. -/
def prependAll (text : List Char) (fields : List (List Char)) : List (List Char) :=
  fields.modifyHead (text ++ ·)

theorem prependAll_nil : prependAll [] = id := by
  funext fields
  cases fields <;> rfl

theorem map_prepend_prependAll (head : Char) (text : List Char)
    (fields? : Option (List (List Char))) :
    (fields?.map (prependAll text)).map (prepend head) =
      fields?.map (prependAll (head :: text)) := by
  rw [Option.map_map]
  congr 1
  funext fields
  cases fields <;> rfl

theorem map_prependAll_append (front text : List Char) (fields? : Option (List (List Char))) :
    (fields?.map (prependAll text)).map (prependAll front) =
      fields?.map (prependAll (front ++ text)) := by
  rw [Option.map_map]
  congr 1
  funext fields
  cases fields <;> simp [prependAll]

theorem splitFrom_bare (free : delimiter ∉ text) (rest : List Char) :
    splitFrom delimiter .bare (text ++ rest) =
      (splitFrom delimiter .bare rest).map (prependAll text) := by
  induction text with
  | nil => rw [prependAll_nil, Option.map_id, List.nil_append, id]
  | cons head text inductionHypothesis =>
      rw [List.mem_cons, not_or] at free
      rcases free with ⟨different, later⟩
      rw [List.cons_append, splitFrom_bare_cons (Ne.symm different), inductionHypothesis later,
        map_prepend_prependAll]

theorem splitFrom_body (inside : Body body value) (rest : List Char) :
    splitFrom delimiter .quoted (body ++ '"' :: rest) =
      (splitFrom delimiter .behindQuote rest).map (prependAll value) := by
  induction inside with
  | nil => rw [prependAll_nil, Option.map_id, id, List.nil_append, splitFrom_mark]
  | plain other inside inductionHypothesis =>
      rw [List.cons_append, splitFrom_quoted other, inductionHypothesis, map_prepend_prependAll]
  | doubled inside inductionHypothesis =>
      rw [List.cons_append, List.cons_append, splitFrom_mark, splitFrom_doubled,
        inductionHypothesis, map_prepend_prependAll]

/-- At the end of a piece it does not matter how the piece was read. -/
theorem splitFrom_end {place : Place} (closed : place ≠ .quoted) (other : delimiter ≠ '"')
    (ends : Ended delimiter rest) :
    splitFrom delimiter place rest = splitFrom delimiter .bare rest := by
  cases rest with
  | nil => rw [splitFrom_nil closed, splitFrom_nil Place.noConfusion]
  | cons next rest =>
      rw [ends next rfl, splitFrom_delimiter closed other,
        splitFrom_delimiter Place.noConfusion other]

/-- Outside quotation marks a plain text is read as it is. -/
theorem splitFrom_plain {place : Place} (closed : place ≠ .quoted) (plain : Plain delimiter text)
    (other : delimiter ≠ '"') (ends : Ended delimiter rest) :
    splitFrom delimiter place (text ++ rest) =
      (splitFrom delimiter .bare rest).map (prependAll text) := by
  rcases plain with ⟨free, unquoted⟩
  cases text with
  | nil => rw [List.nil_append, splitFrom_end closed other ends, prependAll_nil, Option.map_id, id]
  | cons head text =>
      have notMark : head ≠ '"' := fun same => unquoted (congrArg some same)
      have notDelimiter : head ≠ delimiter := fun same => free (same ▸ List.mem_cons_self)
      rw [List.cons_append, splitFrom_content closed notMark notDelimiter,
        splitFrom_bare (fun later => free (List.mem_cons_of_mem head later)),
        map_prepend_prependAll]

/-- A piece is read up to its end. -/
theorem splitFrom_piece (read : Piece delimiter piece value) (other : delimiter ≠ '"')
    (ends : Ended delimiter rest) :
    splitFrom delimiter .start (piece ++ rest) =
      (splitFrom delimiter .bare rest).map (prependAll value) := by
  cases read with
  | bare plain => exact splitFrom_plain Place.noConfusion plain other ends
  | quoted inside behind =>
      rw [List.cons_append, splitFrom_opening, List.append_assoc, List.cons_append,
        splitFrom_body inside, splitFrom_plain Place.noConfusion behind other ends,
        map_prependAll_append]

theorem splitFrom_last (read : Piece delimiter piece value) (other : delimiter ≠ '"') :
    splitFrom delimiter .start piece = some [value] := by
  have nothing : Ended delimiter [] := nofun
  have split := splitFrom_piece read other nothing
  rw [List.append_nil] at split
  rw [split, splitFrom_nil Place.noConfusion, Option.map_some, prependAll,
    List.modifyHead_cons, List.append_nil]

theorem splitFrom_next (read : Piece delimiter piece value) (other : delimiter ≠ '"')
    (later : List Char) :
    splitFrom delimiter .start (piece ++ delimiter :: later) =
      (splitFrom delimiter .start later).map (value :: ·) := by
  have ends : Ended delimiter (delimiter :: later) := fun next found => (Option.some.inj found).symm
  rw [splitFrom_piece read other ends, splitFrom_delimiter Place.noConfusion other, Option.map_map]
  congr 1
  funext fields
  rw [Function.comp_apply, prependAll, List.modifyHead_cons, List.append_nil]

/-! ## Reading a record -/

theorem splitFrom_pieces {pieces : List (List Char)}
    (read : List.Forall₂ (Piece delimiter) pieces fields) (other : delimiter ≠ '"')
    (nonempty : pieces ≠ []) :
    splitFrom delimiter .start ([delimiter].intercalate pieces) = some fields := by
  induction read with
  | nil => exact absurd rfl nonempty
  | cons first others inductionHypothesis =>
      cases others with
      | nil => rw [List.intercalate_singleton, splitFrom_last first other]
      | cons second others =>
          rw [List.intercalate_cons_cons, List.append_assoc, List.singleton_append,
            splitFrom_next first other, inductionHypothesis (List.cons_ne_nil _ _),
            Option.map_some]

/-! ## Finding the pieces -/

/-- A text that stands inside quotation marks up to a closing one. -/
def Closes (text : List Char) : Prop :=
  ∃ body value behind, text = body ++ '"' :: behind ∧ Body body value ∧ behind.head? ≠ some '"'

/-- Behind a mark inside quotes the splitter is where it would be if that mark
were still to come, which is why both places are treated together. -/
theorem closes_of_splitFrom (text : List Char) :
    (∀ fields, splitFrom delimiter .quoted text = some fields → Closes text) ∧
      ∀ fields, splitFrom delimiter .behindQuote text = some fields → Closes ('"' :: text) := by
  induction text with
  | nil =>
      refine ⟨nofun, ?_⟩
      intro fields _
      exact ⟨[], [], [], rfl, .nil, nofun⟩
  | cons head rest inductionHypothesis =>
      rcases inductionHypothesis with ⟨quoted, behindQuote⟩
      constructor
      · intro fields split
        by_cases mark : head = '"'
        · rw [mark, splitFrom_mark] at split
          rw [mark]
          exact behindQuote fields split
        · rw [splitFrom_quoted mark] at split
          rcases Option.map_eq_some_iff.mp split with ⟨later, read, -⟩
          rcases quoted later read with ⟨body, value, behind, rfl, inside, left⟩
          exact ⟨head :: body, head :: value, behind, rfl, .plain mark inside, left⟩
      · intro fields split
        by_cases mark : head = '"'
        · rw [mark, splitFrom_doubled] at split
          rcases Option.map_eq_some_iff.mp split with ⟨later, read, -⟩
          rcases quoted later read with ⟨body, value, behind, rfl, inside, left⟩
          rw [mark]
          exact ⟨'"' :: '"' :: body, '"' :: value, behind, rfl, .doubled inside, left⟩
        · refine ⟨[], [], head :: rest, rfl, .nil, ?_⟩
          rw [List.head?_cons, Ne, Option.some.injEq]
          exact mark

theorem exists_plain (unquoted : text.head? ≠ some '"') :
    ∃ front rest, text = front ++ rest ∧ Plain delimiter front ∧ Ended delimiter rest := by
  refine ⟨text.takeWhile (· ≠ delimiter), text.dropWhile (· ≠ delimiter),
    List.takeWhile_append_dropWhile.symm, ⟨?_, ?_⟩, ?_⟩
  · intro inside
    have different := List.mem_takeWhile_imp inside
    exact of_decide_eq_true different rfl
  · rw [List.head?_takeWhile]
    intro found
    exact unquoted (Option.filter_eq_some_iff.mp found).1
  · intro next found
    have stopped := List.head?_dropWhile_not (decide <| · ≠ delimiter) text
    rw [Option.mem_def.mp found] at stopped
    exact not_not.mp (of_decide_eq_false stopped)

/-- A line that is accepted begins with a piece. -/
theorem exists_first_piece (split : splitFrom delimiter .start line = some fields) :
    ∃ piece value rest, line = piece ++ rest ∧ Piece delimiter piece value ∧
      Ended delimiter rest := by
  by_cases mark : line.head? = some '"'
  · rcases List.head?_eq_some_iff.mp mark with ⟨text, rfl⟩
    rw [splitFrom_opening] at split
    rcases (closes_of_splitFrom text).1 fields split with
      ⟨body, value, behind, rfl, inside, unquoted⟩
    rcases exists_plain unquoted with ⟨tail, rest, rfl, plain, ends⟩
    exact ⟨_, _, rest, by simp, .quoted inside plain, ends⟩
  · rcases exists_plain mark with ⟨front, rest, same, plain, ends⟩
    exact ⟨front, front, rest, same, .bare plain, ends⟩

/-- A line that is accepted is a list of pieces with the fields as their values. -/
theorem exists_pieces {line : List Char} {fields : List (List Char)} (other : delimiter ≠ '"')
    (split : splitFrom delimiter .start line = some fields) :
    ∃ pieces, pieces ≠ [] ∧ List.Forall₂ (Piece delimiter) pieces fields ∧
      line = [delimiter].intercalate pieces := by
  rcases exists_first_piece split with ⟨piece, value, rest, same, first, ends⟩
  cases rest with
  | nil =>
      rw [same, List.append_nil, splitFrom_last first other] at split
      cases split
      refine ⟨[piece], List.cons_ne_nil _ _, .cons first .nil, ?_⟩
      rw [same, List.append_nil, List.intercalate_singleton]
  | cons next later =>
      rw [ends next rfl] at same
      rw [same, splitFrom_next first other] at split
      rcases Option.map_eq_some_iff.mp split with ⟨others, read, rfl⟩
      have shorter : later.length < line.length := by
        rw [same, List.length_append, List.length_cons]
        omega
      rcases exists_pieces other read with ⟨pieces, nonempty, each, rfl⟩
      refine ⟨piece :: pieces, List.cons_ne_nil _ _, .cons first each, ?_⟩
      rw [same, List.intercalate_cons_of_ne_nil nonempty, List.append_assoc,
        List.singleton_append]
termination_by line.length

theorem fields?_eq_some_iff (other : delimiter ≠ '"') :
    fields? delimiter line = some record ↔ SplitsInto delimiter line record := by
  have asTexts : ∀ fields : List (List Char),
      fields.map String.ofList = record ↔ fields = record.map String.toList := by
    intro fields
    constructor
    · rintro rfl
      simp
    · rintro rfl
      simp
  simp only [fields?, Option.map_eq_some_iff, asTexts, exists_eq_right]
  constructor
  · exact exists_pieces other
  · rintro ⟨pieces, nonempty, read, rfl⟩
    exact splitFrom_pieces read other nonempty

/-- The splitter accepts exactly the lines of the grammar, with the values of
their pieces as fields, and refuses every other line under its number. -/
theorem readFields_grammar (other : delimiter ≠ '"') (number : Nat) (line : List Char) :
    (∀ record, readFields delimiter number line = .ok record ↔
      SplitsInto delimiter line record) ∧
    ((∀ record, ¬ SplitsInto delimiter line record) →
      ∃ fault, readFields delimiter number line = .error fault ∧ fault.line = number ∧
        fault.defect.message = "unterminated quoted field") ∧
    ∀ record another, SplitsInto delimiter line record → SplitsInto delimiter line another →
      record = another := by
  simp only [← fields?_eq_some_iff other]
  refine ⟨?_, ?_, ?_⟩
  · intro record
    unfold readFields
    cases fields? delimiter line <;> simp
  · intro refused
    have nothing : fields? delimiter line = none :=
      Option.eq_none_iff_forall_ne_some.mpr refused
    exact ⟨⟨number, .unterminatedQuote⟩, by rw [readFields, nothing], rfl, rfl⟩
  · intro record another one two
    exact Option.some.inj (one.symm.trans two)

/-- A delimiter and a mark inside quotes, text behind them, a mark that is
content, and an empty field; and a line in which a doubled mark closes nothing. -/
theorem readFields_grammar_tailed :
    ',' ≠ '"' ∧
      readFields ',' 7 "\"a,\"\"b\"c,d\"e,".toList = .ok ["a,\"bc", "d\"e", ""] ∧
      ∃ fault, readFields ',' 7 "x,\"a\"\"".toList = .error fault ∧ fault.line = 7 ∧
        fault.defect.message = "unterminated quoted field" := by
  have other : ',' ≠ '"' := by decide
  have body : Body "a,\"\"b".toList "a,\"b".toList :=
    .plain (by decide) (.plain (by decide) (.doubled (.plain (by decide) .nil)))
  have tail : Plain ',' ['c'] := ⟨by decide, by decide⟩
  have split : SplitsInto ',' "\"a,\"\"b\"c,d\"e,".toList ["a,\"bc", "d\"e", ""] :=
    ⟨["\"a,\"\"b\"c".toList, "d\"e".toList, []], List.cons_ne_nil _ _,
      .cons (.quoted body tail)
        (.cons (.bare ⟨by decide, by decide⟩) (.cons (.bare ⟨by decide, by decide⟩) .nil)), rfl⟩
  refine ⟨other, (readFields_grammar other 7 _).1 _ |>.mpr split, ?_⟩
  apply (readFields_grammar other 7 _).2.1
  intro record splits
  have read := ((readFields_grammar other 7 _).1 record).mpr splits
  cases read

end Delimited
end Tabular
