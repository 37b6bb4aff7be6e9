import Tabular.Delimited
import Tabular.Proofs.Delimited.Grammar
import Tabular.Proofs.Log.Outcome
import Tabular.Proofs.Text.Lines
import Tabular.Proofs.Text.Split
import Tabular.Proofs.Text.Trim

namespace Tabular
namespace Delimited

open Log

/-!
# Written documents

In quotation marks every field can be written, its own marks doubled.  Bare, a
field can be written when it holds no delimiter and does not start with a
quotation mark.  The writer is free to choose anew for every field, so writing
is a relation and not a function.

A line of a document may not be blank and may not end in a carriage return.
Under these conditions the document is read back, its column names trimmed.
-/

/-! ## Records -/

variable {delimiter : Char} {piece : List Char} {field : String}

/-- A field with every quotation mark doubled. -/
def doubled (field : List Char) : List Char :=
  field.flatMap fun character => if character = '"' then ['"', '"'] else [character]

/-- The ways to write one field. -/
inductive WritesField (delimiter : Char) : List Char → String → Prop where
  | quoted (field : String) :
      WritesField delimiter ('"' :: (doubled field.toList ++ ['"'])) field
  | bare {field : String} (free : delimiter ∉ field.toList)
      (plain : field.toList.head? ≠ some '"') : WritesField delimiter field.toList field

/-- The ways to write a record on one line. -/
def WritesRecord (delimiter : Char) (line : List Char) (record : List String) : Prop :=
  ∃ pieces, List.Forall₂ (WritesField delimiter) pieces record ∧
    line = [delimiter].intercalate pieces

/-! ## Characters of a written record -/

theorem exists_of_forall₂ {α β : Type} {relation : α → β → Prop} {left : List α} {right : List β}
    {element : α} (each : List.Forall₂ relation left right) (member : element ∈ left) :
    ∃ partner ∈ right, relation element partner := by
  induction each with
  | nil => cases member
  | cons related others inductionHypothesis =>
      rcases List.mem_cons.mp member with rfl | later
      · exact ⟨_, List.mem_cons_self, related⟩
      · rcases inductionHypothesis later with ⟨partner, present, found⟩
        exact ⟨partner, List.mem_cons_of_mem _ present, found⟩

theorem not_mem_of_writesField {character : Char} (written : WritesField delimiter piece field)
    (other : character ≠ '"') (free : character ∉ field.toList) : character ∉ piece := by
  cases written with
  | quoted field =>
      simp only [doubled, List.mem_cons, List.mem_append, List.mem_flatMap, List.not_mem_nil,
        or_false, other, false_or, not_exists, not_and]
      intro letter member inside
      split at inside
      · simp [other] at inside
      · rw [List.mem_singleton.mp inside] at free
        exact free member
  | bare free' plain => exact free

/-- A written record holds no characters but marks, delimiters and those of its fields. -/
theorem not_mem_of_writesRecord {character : Char} {line : List Char} {record : List String}
    (written : WritesRecord delimiter line record) (other : character ≠ '"')
    (different : character ≠ delimiter) (free : ∀ field ∈ record, character ∉ field.toList) :
    character ∉ line := by
  rcases written with ⟨pieces, each, rfl⟩
  have absent : character ∉ [delimiter] := by
    rw [List.mem_singleton]
    exact different
  rw [← List.count_eq_zero, Text.count_intercalate absent, List.count_eq_zero]
  intro inside
  rcases List.mem_flatten.mp inside with ⟨piece, member, found⟩
  rcases exists_of_forall₂ each member with ⟨field, present, writes⟩
  exact not_mem_of_writesField writes other (free field present) found

/-! ## Reading a record -/

theorem body_doubled (field : List Char) : Body (doubled field) field := by
  induction field with
  | nil => exact .nil
  | cons head field inductionHypothesis =>
      rw [doubled, List.flatMap_cons, ← doubled]
      by_cases mark : head = '"'
      · rw [if_pos mark, mark]
        exact .doubled inductionHypothesis
      · rw [if_neg mark]
        exact .plain mark inductionHypothesis

/-- A written field is a piece of the grammar, with nothing behind closing quotes. -/
theorem piece_of_writesField (written : WritesField delimiter piece field) :
    Piece delimiter piece field.toList := by
  cases written with
  | quoted field =>
      have nothing : Plain delimiter [] := ⟨List.not_mem_nil, nofun⟩
      have quoted := Piece.quoted (body_doubled field.toList) nothing
      rwa [List.append_nil] at quoted
  | bare free plain => exact .bare ⟨free, plain⟩

/-- Splitting a written record gives its fields. -/
theorem fields?_written {line : List Char} {record : List String}
    (written : WritesRecord delimiter line record) (other : delimiter ≠ '"')
    (nonempty : record ≠ []) : fields? delimiter line = some record := by
  rcases written with ⟨pieces, each, rfl⟩
  have filled : pieces ≠ [] := by
    rintro rfl
    cases each
    exact nonempty rfl
  have read : List.Forall₂ (Piece delimiter) pieces (record.map String.toList) :=
    List.forall₂_map_right_iff.mpr (each.imp fun _ _ => piece_of_writesField)
  exact (fields?_eq_some_iff other).mpr ⟨pieces, filled, read, rfl⟩

/-! ## Documents -/

variable {document : Document} {lines : List (List Char)}

/-- A document that can be written: rectangular on the right side only, and
without line feeds. -/
structure Writable (document : Document) : Prop where
  named : document.header ≠ []
  filled : ∀ record ∈ document.records, record ≠ []
  narrow : ∀ record ∈ document.records, record.length ≤ document.header.length
  feedFree : ∀ record ∈ document.header :: document.records, ∀ field ∈ record,
    '\n' ∉ field.toList

/-- The ways to write a document as lines. -/
structure WritesDocument (delimiter : Char) (document : Document) (lines : List (List Char)) :
    Prop where
  written : List.Forall₂ (WritesRecord delimiter) lines (document.header :: document.records)
  visible : ∀ line ∈ lines, ∃ character ∈ line, Text.isBlank character = false
  closed : ∀ line ∈ lines, line.getLast? ≠ some '\r'

/-- Lines joined to a text, with or without a feed behind the last one. -/
def joined (lines : List (List Char)) (finalFeed : Bool) : String :=
  String.ofList (['\n'].intercalate lines ++ if finalFeed then ['\n'] else [])

/-- A column name as a document is read with it. -/
def trimmedName (name : String) : String :=
  String.ofList (Text.trim name.toList)

/-! ## Lines -/

/-- The lines of a joined text are those that were joined. -/
theorem lines_joined (writable : Writable document)
    (writes : WritesDocument delimiter document lines) (other : delimiter ≠ '\n')
    (finalFeed : Bool) : Text.lines (joined lines finalFeed) = lines.map String.ofList := by
  have free : ∀ line ∈ lines, '\n' ∉ line := by
    intro line member
    rcases exists_of_forall₂ writes.written member with ⟨record, present, written⟩
    exact not_mem_of_writesRecord written (by decide) (Ne.symm other)
      (writable.feedFree record present)
  have filled : ∀ line ∈ lines, line ≠ [] := by
    intro line member empty
    rcases writes.visible line member with ⟨character, inside, -⟩
    rw [empty] at inside
    cases inside
  have nonempty : lines ≠ [] := by
    intro empty
    rw [empty] at writes
    cases writes.written
  rw [Text.lines, joined, String.toList_ofList]
  cases finalFeed with
  | true => rw [if_pos rfl, Text.linesOf_intercalate_feed nonempty free writes.closed]
  | false =>
      rw [if_neg Bool.false_ne_true, List.append_nil,
        Text.linesOf_intercalate free writes.closed filled]

theorem withoutReturn_of_closed {line : List Char} (closed : line.getLast? ≠ some '\r') :
    withoutReturn (String.ofList line) = line := by
  rw [withoutReturn, String.toList_ofList]
  exact Text.dropLastIf_eq_self closed

/-- No written line is passed over. -/
theorem contentLines_written (writes : WritesDocument delimiter document lines) :
    contentLines (lines.map String.ofList) = (lines.zipIdx 1).map Prod.swap := by
  rw [contentLines, List.zipIdx_map, List.filterMap_map, ← List.filterMap_eq_map]
  apply List.filterMap_congr
  rintro ⟨line, number⟩ member
  have present : line ∈ lines := List.fst_mem_of_mem_zipIdx member
  have content := withoutReturn_of_closed (writes.closed line present)
  have shown := Text.trim_ne_nil_of_visible (writes.visible line present)
  simp [content, shown]

/-! ## Reading back -/

/-- A written record that is not too wide is read as it was, strictly or not. -/
theorem readRecord_written {format : Format} {line : List Char} {record : List String}
    {width : Nat} (number : Nat) (written : WritesRecord format.delimiter line record)
    (other : format.delimiter ≠ '"') (filled : record ≠ []) (narrow : record.length ≤ width) :
    (format.readRecord width (number, line)).outcome = .ok record := by
  have fields : readFields format.delimiter number line = .ok record := by
    rw [readFields, fields?_written written other filled]
  rw [Format.readRecord, Logged.bind_outcome, Logged.ofExcept_outcome, fields, ok_bind,
    Format.fit, if_pos narrow, Logged.pure_outcome]

theorem readRecords_written {format : Format} {records : List (List String)} {width : Nat}
    (start : Nat) (written : List.Forall₂ (WritesRecord format.delimiter) lines records)
    (other : format.delimiter ≠ '"') (filled : ∀ record ∈ records, record ≠ [])
    (narrow : ∀ record ∈ records, record.length ≤ width) :
    (((lines.zipIdx start).map Prod.swap).mapM (format.readRecord width)).outcome =
      .ok records := by
  rw [Logged.mapM_outcome, mapM_eq_ok]
  induction written generalizing start with
  | nil => rfl
  | cons first others inductionHypothesis =>
      rw [List.forall_mem_cons] at filled narrow
      rw [List.zipIdx_cons, List.map_cons, List.map_cons, List.map_cons,
        inductionHypothesis (start + 1) filled.2 narrow.2]
      exact congrArg (· :: _) (readRecord_written start first other filled.1 narrow.1)

/-- A written document is read back, its column names trimmed. -/
theorem readDocument_written {format : Format} (writable : Writable document)
    (writes : WritesDocument format.delimiter document lines) (other : format.delimiter ≠ '"') :
    (format.readDocument (lines.map String.ofList)).outcome =
      .ok (some { document with header := document.header.map trimmedName }) := by
  rw [Format.readDocument, contentLines_written writes]
  cases lines with
  | nil => cases writes.written
  | cons line rest =>
      cases writes.written with
      | cons first others =>
          have header : readFields format.delimiter 1 line = .ok document.header := by
            rw [readFields, fields?_written first other writable.named]
          have records := readRecords_written (1 + 1) others other writable.filled writable.narrow
          rw [List.zipIdx_cons, List.map_cons, Prod.swap_prod_mk]
          simp only [Logged.bind_outcome, Logged.ofExcept_outcome, header, ok_bind, records,
            Logged.pure_outcome]
          rfl

end Delimited
end Tabular
