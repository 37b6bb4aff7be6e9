import Tabular.Proofs.Delimited.Faults
import Tabular.Proofs.Delimited.Writing
import Tabular.Proofs.Table.Positions
import Tabular.Proofs.Text.Utf8

namespace Tabular
namespace Table

open Log Delimited

/-!
# What loading yields

Only lines can make loading fail.  Once the document is read, inference has
looked at every field that typing will look at, so a failure is the fault of the
first line that offends.  What a table holds is described from the split lines
alone.

Bytes are loaded as the text that they encode, down to the events on the way.
Those that encode no text are refused for that reason alone.
-/

variable {format : Format} {lines : List String} {table : Table} {text : String}
  {failure : Error}

/-- The table of given lines.  Without a line that is not blank it is empty. -/
inductive LoadedFrom (format : Format) (lines : List String) : Table → Prop where
  | nothing (blank : visibleLines lines = []) : LoadedFrom format lines empty
  | document {header : List String} {records : List (List String)} {table : Table}
      (split : (visibleLines lines).map (fields? format.delimiter) =
        (header :: records).map some)
      (made : MadeOf (header.map trimmedName) (records.map (List.take header.length)) table) :
      LoadedFrom format lines table

/-- Every table that is loaded is the table of its lines, for all texts and formats. -/
theorem loadedFrom_of_ofText (loaded : (ofText format text).outcome = .ok table) :
    LoadedFrom format (Text.lines text) table := by
  rcases ofLines_eq_ok.mp loaded with ⟨document, read, made⟩ | ⟨read, rfl⟩
  · rcases exists_split_of_document read with ⟨header, records, split, names, cut⟩
    have contents := madeOf_of_ofDocument made
    rw [names, cut] at contents
    exact .document split contents
  · exact .nothing (visibleLines_eq_nil read)

/-- A repeated name, a record that is too wide, a short one and a number with
leading zeros. -/
theorem loadedFrom_of_ofText_repeatedName :
    (ofText {} " a,b,a\r\n\r\n\"1\",x,007,9\n2\n").outcome = .ok
        { schema := ⟨[("a", .number), ("b", .text), ("a", .number)]⟩
          rows := [Row.ofCells [("a", .number 7), ("b", .text "x")],
            Row.ofCells [("a", .number 2)]] } ∧
      LoadedFrom {} (Text.lines " a,b,a\r\n\r\n\"1\",x,007,9\n2\n")
        { schema := ⟨[("a", .number), ("b", .text), ("a", .number)]⟩
          rows := [Row.ofCells [("a", .number 7), ("b", .text "x")],
            Row.ofCells [("a", .number 2)]] } := by
  have loaded : (ofText {} " a,b,a\r\n\r\n\"1\",x,007,9\n2\n").outcome = .ok
      { schema := ⟨[("a", .number), ("b", .text), ("a", .number)]⟩
        rows := [Row.ofCells [("a", .number 7), ("b", .text "x")],
          Row.ofCells [("a", .number 2)]] } := by
    rfl
  exact ⟨loaded, loadedFrom_of_ofText loaded⟩

theorem ofLines_eq_error : (ofLines format lines).outcome = .error failure ↔
    ∃ fault, (format.readDocument lines).outcome = .error fault ∧ failure = .data fault := by
  rw [ofLines, Logged.bind_outcome, Logged.mapError_outcome]
  cases read : (format.readDocument lines).outcome with
  | error fault => simp [eq_comm]
  | ok document? =>
      cases document? with
      | none => simp
      | some document =>
          -- Typing cannot fail on what inference has seen.
          rcases exists_ofDocument_eq_ok document with ⟨table, made⟩
          simp [made]

/-- Loading fails exactly when a line offends, and with the fault of the first
one that does.  There is no other failure. -/
theorem ofText_failure (format : Format) (text : String) :
    ((∃ failure, (ofText format text).outcome = .error failure) ↔
      ∃ number defect message, Offends format (Text.lines text) number defect message) ∧
    ∀ failure, (ofText format text).outcome = .error failure ↔
      ∃ fault, failure = .data fault ∧ FirstOffence format (Text.lines text) fault := by
  have reported : ∀ failure, (ofText format text).outcome = .error failure ↔
      ∃ fault, failure = .data fault ∧ FirstOffence format (Text.lines text) fault := by
    intro failure
    rw [ofText, ofLines_eq_error]
    simp only [readDocument_eq_error, and_comm]
  refine ⟨⟨?_, ?_⟩, reported⟩
  · rintro ⟨failure, fails⟩
    rcases (reported failure).mp fails with ⟨fault, -, offence⟩
    exact ⟨_, _, _, offence.offends⟩
  · rintro ⟨number, defect, message, offends⟩
    cases outcome : (ofText format text).outcome with
    | error failure => exact ⟨failure, rfl⟩
    | ok table =>
        rcases ofLines_eq_ok.mp outcome with ⟨document, read, -⟩ | ⟨read, -⟩
        · exact absurd offends (not_offends_of_readDocument read)
        · exact absurd offends (not_offends_of_readDocument read)

/-- The blank line is counted, and the open quotation mark behind the first
offence is not what the load fails with. -/
theorem ofText_failure_twoOffences :
    (ofText { strict := true } "a\n\n1,2\n\"").outcome = .error (.data ⟨3, .tooManyFields 1 2⟩) ∧
      FirstOffence { strict := true } (Text.lines "a\n\n1,2\n\"") ⟨3, .tooManyFields 1 2⟩ ∧
      Offends { strict := true } (Text.lines "a\n\n1,2\n\"") 4 .unterminatedQuote
        "unterminated quoted field" ∧
      ¬ FirstOffence { strict := true } (Text.lines "a\n\n1,2\n\"") ⟨4, .unterminatedQuote⟩ := by
  have mark : ContentAt (Text.lines "a\n\n1,2\n\"") 4 ['"'] :=
    ⟨⟨3, "\"", rfl, rfl, rfl⟩, by decide⟩
  have unclosed : Offends { strict := true } (Text.lines "a\n\n1,2\n\"") 4 .unterminatedQuote
      "unterminated quoted field" :=
    .unterminated mark rfl
  rcases (ofText_failure { strict := true } "a\n\n1,2\n\"").1.mpr ⟨_, _, _, unclosed⟩ with
    ⟨failure, fails⟩
  have known : failure = .data ⟨3, .tooManyFields 1 2⟩ := by
    cases fails
    rfl
  cases known
  rcases ((ofText_failure { strict := true } "a\n\n1,2\n\"").2 _).mp fails with
    ⟨fault, same, offence⟩
  cases same
  refine ⟨fails, offence, unclosed, ?_⟩
  intro later
  exact absurd (later.first 3 _ _ offence.offends) (by decide)

/-! ## Bytes -/

variable {bytes : List UInt8}

theorem decodeLines_utf8 (text : String) :
    decodeLines (Text.utf8 text) = .ok (Text.lines text) := by
  have decoded : ((Text.lines text).map Text.utf8).mapM Text.ofUtf8? = some (Text.lines text) :=
    Text.mapM_ofUtf8?_eq_some.mpr rfl
  simp only [decodeLines, Text.linesOf_utf8, decoded]

theorem decodeLines_of_not_isEncoding (undecodable : ¬ Text.IsEncoding bytes) :
    decodeLines bytes = .error .invalidUtf8 := by
  unfold decodeLines
  split
  · next lines found =>
      exfalso
      apply undecodable
      apply Text.isEncoding_of_linesOf Text.isAscii_lineFeed Text.isAscii_carriageReturn
      intro line member
      rw [Text.mapM_ofUtf8?_eq_some.mp found] at member
      rcases List.mem_map.mp member with ⟨text, -, same⟩
      exact ⟨text, same⟩
  · rfl

theorem ofBytes_of_decodeLines {format : Format} {lines : List String}
    (decoded : decodeLines bytes = .ok lines) : ofBytes format bytes = ofLines format lines := by
  rw [ofBytes, decoded]
  exact Logged.pure_andThen lines (ofLines format)

/-- Lines that are decoded already cannot fail to be decoded. -/
theorem ofLines_ne_stream (format : Format) (lines : List String) (cause : StreamError) :
    (ofLines format lines).outcome ≠ .error (.stream cause) := by
  intro fails
  rcases ofLines_eq_error.mp fails with ⟨fault, -, same⟩
  cases same

/-- Bytes that encode no text are refused, and it is the only reason to refuse
bytes as a stream.  The bytes of a text load as the text does. -/
theorem ofBytes_agrees (format : Format) :
    (∀ bytes cause, (ofBytes format bytes).outcome = .error (.stream cause) ↔
      ¬ Text.IsEncoding bytes ∧ cause = .invalidUtf8) ∧
    StreamError.invalidUtf8.message = "stream did not contain valid UTF-8" ∧
    ∀ text, ofBytes format (Text.utf8 text) = ofText format text := by
  have decodable : ∀ text, ofBytes format (Text.utf8 text) = ofText format text :=
    fun text => ofBytes_of_decodeLines (decodeLines_utf8 text)
  refine ⟨?_, rfl, decodable⟩
  intro bytes cause
  constructor
  · intro fails
    by_cases encoding : Text.IsEncoding bytes
    · rcases encoding with ⟨text, rfl⟩
      rw [decodable] at fails
      exact absurd fails (ofLines_ne_stream format _ cause)
    · rw [ofBytes, decodeLines_of_not_isEncoding encoding] at fails
      cases fails
      exact ⟨encoding, rfl⟩
  · rintro ⟨undecodable, rfl⟩
    rw [ofBytes, decodeLines_of_not_isEncoding undecodable]
    rfl

/-- The last line is no encoding, which is found before the open quotation
mark in front of it. -/
example : (ofBytes {} [97, 10, 34, 10, 255]).outcome = .error (.stream .invalidUtf8) := by
  rfl

end Table
end Tabular
