import Tabular.Proofs.Delimited.BlankLines
import Tabular.Proofs.Delimited.Writing
import Tabular.Proofs.Table.Loading
import Tabular.Proofs.Table.Typing

namespace Tabular
namespace Table

open Log Delimited

/-!
# Writing and layout of tables

Loading undoes writing.  The table is settled by the document alone, before any
choice of delimiter, of quotation and of the final line feed is made.

What is loaded from a text is settled by the lines that are not blank, each with
its number.  Inserted blank lines shift the numbers of the lines behind them,
of which only a failure has a memory.
-/

/-! ## Written tables -/

variable {document : Document}

/-- The one table that is loaded from a document, however it is written. -/
theorem ofText_joined (writable : Writable document) :
    ∃ table : Table,
      (Schema.infer (document.header.map trimmedName) document.records :
        Logged Error Schema).outcome = .ok table.schema ∧
      document.records.map (rowOf table.schema) = table.rows.map .ok ∧
      ∀ (format : Format) (lines : List (List Char)) (finalFeed : Bool),
        format.delimiter ≠ '"' → format.delimiter ≠ '\n' →
          WritesDocument format.delimiter document lines →
            (ofText format (joined lines finalFeed)).outcome = .ok table := by
  rcases exists_ofDocument_eq_ok
    { document with header := document.header.map trimmedName } with ⟨table, made⟩
  rcases ofDocument_eq_ok.mp made with ⟨schema, rows⟩
  refine ⟨table, ?_, rows, ?_⟩
  · rw [schema, Schema.infer_outcome]
  · intro format lines finalFeed noQuote noFeed writes
    rw [ofText, lines_joined writable writes noFeed, ofLines_eq_ok]
    exact Or.inl ⟨_, readDocument_written writable writes noQuote, made⟩

/-- A short record, a name with a delimiter and a field that starts with a
quotation mark, written with the fewest quotation marks. -/
theorem ofText_joined_fewQuotes :
    Writable ⟨["id", " a,b"], [["7", "\"x"], ["8"]]⟩ ∧
      WritesDocument ',' ⟨["id", " a,b"], [["7", "\"x"], ["8"]]⟩
        ["id,\" a,b\"".toList, "7,\"\"\"x\"".toList, "8".toList] ∧
      (Schema.infer ["id", "a,b"] [["7", "\"x"], ["8"]] : Logged Error Schema).outcome =
        .ok ⟨[("id", .number), ("a,b", .text)]⟩ ∧
      [["7", "\"x"], ["8"]].map (rowOf ⟨[("id", .number), ("a,b", .text)]⟩) =
        [.ok (Row.ofCells [("id", .number 7), ("a,b", .text "\"x")]),
          .ok (Row.ofCells [("id", .number 8)])] ∧
      (ofText { strict := true } (joined
          ["id,\" a,b\"".toList, "7,\"\"\"x\"".toList, "8".toList] true)).outcome =
        .ok { schema := ⟨[("id", .number), ("a,b", .text)]⟩
              rows := [Row.ofCells [("id", .number 7), ("a,b", .text "\"x")],
                Row.ofCells [("id", .number 8)]] } := by
  have writable : Writable ⟨["id", " a,b"], [["7", "\"x"], ["8"]]⟩ :=
    ⟨by decide, by decide, by decide, by decide⟩
  have header : WritesRecord ',' "id,\" a,b\"".toList ["id", " a,b"] :=
    ⟨_, .cons (.bare (by decide) (by decide)) (.cons (.quoted " a,b") .nil), rfl⟩
  have first : WritesRecord ',' "7,\"\"\"x\"".toList ["7", "\"x"] :=
    ⟨_, .cons (.bare (by decide) (by decide)) (.cons (.quoted "\"x") .nil), rfl⟩
  have second : WritesRecord ',' "8".toList ["8"] :=
    ⟨_, .cons (.bare (by decide) (by decide)) .nil, rfl⟩
  have visible : ∀ line ∈ ["id,\" a,b\"".toList, "7,\"\"\"x\"".toList, "8".toList],
      ∃ character ∈ line, Text.isBlank character = false := by
    intro line member
    simp only [List.mem_cons, List.not_mem_nil, or_false] at member
    rcases member with rfl | rfl | rfl
    · exact ⟨'i', List.mem_cons_self, rfl⟩
    · exact ⟨'7', List.mem_cons_self, rfl⟩
    · exact ⟨'8', List.mem_cons_self, rfl⟩
  have writes : WritesDocument ',' ⟨["id", " a,b"], [["7", "\"x"], ["8"]]⟩
      ["id,\" a,b\"".toList, "7,\"\"\"x\"".toList, "8".toList] :=
    ⟨.cons header (.cons first (.cons second .nil)), visible, by decide⟩
  rcases ofText_joined writable with ⟨table, schema, rows, loads⟩
  have loaded := loads { strict := true } _ true (by decide) (by decide) writes
  have known : table = { schema := ⟨[("id", .number), ("a,b", .text)]⟩
                         rows := [Row.ofCells [("id", .number 7), ("a,b", .text "\"x")],
                           Row.ofCells [("id", .number 8)]] } :=
    Except.ok.inj (loaded.symm.trans rfl)
  cases known
  exact ⟨writable, writes, schema, rows, loaded⟩

/-! ## Line ends and blank lines -/

variable {format : Format} {lines others : List String} {table : Table} {fault : Fault}
  {text : String}

/-- Loading depends on nothing but the numbered lines that are not blank. -/
theorem ofLines_congr (same : contentLines lines = contentLines others) :
    ofLines format lines = ofLines format others := by
  have read : format.readDocument lines = format.readDocument others := by
    rw [Format.readDocument, same, Format.readDocument]
  rw [ofLines, read, ofLines]

/-- Under other numbers the same table is loaded. -/
theorem ofLines_eq_ok_of_renumbered (number : Nat → Nat) (found : contentLines others =
      (contentLines lines).map fun line => (number line.1, line.2))
    (loaded : (ofLines format lines).outcome = .ok table) :
    (ofLines format others).outcome = .ok table := by
  rw [ofLines_eq_ok, readDocument_renumbered found]
  rcases ofLines_eq_ok.mp loaded with ⟨document, read, made⟩ | ⟨read, nothing⟩
  · exact Or.inl ⟨document, mapError_eq_ok.mpr read, made⟩
  · exact Or.inr ⟨mapError_eq_ok.mpr read, nothing⟩

/-- Under other numbers the same fault is reported, with the number its line has there. -/
theorem ofLines_eq_error_of_renumbered (number : Nat → Nat) (found : contentLines others =
      (contentLines lines).map fun line => (number line.1, line.2))
    (fails : (ofLines format lines).outcome = .error (.data fault)) :
    (ofLines format others).outcome = .error (.data (fault.renumbered number)) := by
  rcases ofLines_eq_error.mp fails with ⟨reported, read, same⟩
  cases same
  apply ofLines_eq_error.mpr
  refine ⟨fault.renumbered number, ?_, rfl⟩
  rw [readDocument_renumbered found]
  exact mapError_eq_error.mpr ⟨fault, read, rfl⟩

/-! ## Line ends -/

theorem lines_withReturns (returnFree : '\r' ∉ text.toList) :
    Text.lines (String.ofList (Text.withReturns '\n' '\r' text.toList)) = Text.lines text := by
  rw [Text.lines, String.toList_ofList, Text.linesOf_withReturns (by decide) returnFree, Text.lines]

/-- An end behind a text without returns adds nothing that is not blank. -/
theorem contentLines_append_ending {ending : String} (returnFree : '\r' ∉ text.toList)
    (ended : ending = "\n" ∨ ending = "\r\n") :
    contentLines (Text.lines (text ++ ending)) = contentLines (Text.lines text) := by
  have letters : ending.toList = ['\n'] ∨ ending.toList = ['\r', '\n'] := by
    rcases ended with rfl | rfl
    · exact Or.inl rfl
    · exact Or.inr rfl
  rw [Text.lines, String.toList_append, Text.lines]
  rcases Text.linesOf_append_ending (by decide) returnFree letters with same | longer
  · rw [same]
  · rw [longer, List.map_append, contentLines_eq_contentFrom, contentFrom_append,
      ← contentLines_eq_contentFrom]
    exact List.append_nil _

/-! ## All changes of the layout -/

/-- The layout of a text without carriage returns does not matter.  Its feeds
can be preceded by returns and its last line can be given an end.  Blank lines
can be inserted anywhere, upon which a table stays the same, and a failure has
its line number increased by the number of lines inserted in front. -/
theorem ofText_layout (format : Format) (returnFree : '\r' ∉ text.toList) :
    ofText format (String.ofList (Text.withReturns '\n' '\r' text.toList)) = ofText format text ∧
    ofText format (text ++ "\n") = ofText format text ∧
    ofText format (text ++ "\r\n") = ofText format text ∧
    ∀ (blanks : BlankLines) (finalFeed : Bool),
      (∀ table, (ofText format text).outcome = .ok table →
        (ofText format (blanks.insertAmong (Text.lines text) finalFeed)).outcome = .ok table) ∧
      ∀ failure, (ofText format text).outcome = .error failure →
        ∃ fault, failure = .data fault ∧
          (ofText format (blanks.insertAmong (Text.lines text) finalFeed)).outcome =
            .error (.data { fault with line := fault.line + blanks.before fault.line }) := by
  refine ⟨?_, ?_, ?_, ?_⟩
  · rw [ofText, lines_withReturns returnFree, ofText]
  · exact ofLines_congr (contentLines_append_ending returnFree (Or.inl rfl))
  · exact ofLines_congr (contentLines_append_ending returnFree (Or.inr rfl))
  · intro blanks finalFeed
    have letters : ∀ line ∈ Text.lines text, '\n' ∉ line.toList ∧ line.toList ⊆ text.toList := by
      intro line member
      rcases List.mem_map.mp member with ⟨source, among, rfl⟩
      rw [String.toList_ofList]
      exact Text.not_mem_and_subset_of_mem_linesOf among
    have numbers := blanks.contentLines_insertAmong (fun line member => (letters line member).1)
      (fun line member inside => returnFree ((letters line member).2 inside)) finalFeed
    constructor
    · intro table loaded
      exact ofLines_eq_ok_of_renumbered (fun number => number + blanks.before number) numbers loaded
    · intro failure fails
      rcases ofLines_eq_error.mp fails with ⟨fault, -, rfl⟩
      refine ⟨fault, rfl, ?_⟩
      exact ofLines_eq_error_of_renumbered (fun number => number + blanks.before number) numbers fails

/-- A quotation mark that never closes, behind three inserted lines that are
blank, one of them by a carriage return. -/
theorem ofText_layout_openQuote :
    '\r' ∉ "a,b\n1,\"x".toList ∧
      (ofText {} "a,b\n1,\"x").outcome = .error (.data ⟨2, .unterminatedQuote⟩) ∧
      ofText {} "a,b\r\n1,\"x" = ofText {} "a,b\n1,\"x" ∧
      ofText {} "a,b\n1,\"x\r\n" = ofText {} "a,b\n1,\"x" ∧
      (ofText {} " \na,b\n\r\n\n1,\"x\n").outcome = .error (.data ⟨5, .unterminatedQuote⟩) := by
  have returnFree : '\r' ∉ "a,b\n1,\"x".toList := by decide
  have fails : (ofText {} "a,b\n1,\"x").outcome = .error (.data ⟨2, .unterminatedQuote⟩) := by rfl
  rcases ofText_layout {} returnFree with ⟨returns, -, ended, inserted⟩
  rcases (inserted { gaps := [[" "], ["\r", ""]] } true).2 _ fails with ⟨fault, same, shifted⟩
  cases same
  exact ⟨returnFree, fails, returns, ended, shifted⟩

end Table
end Tabular
