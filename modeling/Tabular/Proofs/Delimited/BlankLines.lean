import Tabular.Proofs.Delimited.Reading
import Tabular.Proofs.Delimited.Writing
import Tabular.Proofs.Text.Lines
import Tabular.Proofs.Text.Split
import Tabular.Proofs.Text.Trim

namespace Tabular
namespace Delimited

open Log

/-!
# Numbers of lines and blank lines

When the lines that say something are given other numbers, reading goes as
before, and a fault is reported under the other number.

Blank lines that are inserted say nothing and are counted.  A line behind them
keeps its content and has a greater number, by as many as were inserted in
front of it.
-/

/-! ## Numbers -/

section Numbers

variable {format : Format} {lines others front rest : List String} {start : Nat}
  {number : Nat → Nat}

/-- What a line says, or nothing when it is blank. -/
def contentOf? (line : String) : Option (List Char) :=
  if Text.trim (withoutReturn line) = [] then none else some (withoutReturn line)

/-- The lines that say something, numbered from a given start. -/
def contentFrom (start : Nat) (lines : List String) : List (Nat × List Char) :=
  (lines.zipIdx start).filterMap fun numbered =>
    (contentOf? numbered.1).map fun content => (numbered.2, content)

/-- The fault under another number. -/
def Fault.renumbered (number : Nat → Nat) (fault : Fault) : Fault :=
  { fault with line := number fault.line }

/-! ## Counting from a start -/

theorem contentLines_eq_contentFrom (lines : List String) :
    contentLines lines = contentFrom 1 lines := by
  apply List.filterMap_congr
  intro numbered _
  rw [contentOf?]
  by_cases blank : Text.trim (withoutReturn numbered.1) = []
  · simp only [blank, List.isEmpty_nil, if_true, Option.map_none]
  · simp only [List.isEmpty_iff, if_neg blank, Option.map_some]

theorem contentFrom_append (start : Nat) (front rest : List String) :
    contentFrom start (front ++ rest) =
      contentFrom start front ++ contentFrom (start + front.length) rest := by
  rw [contentFrom, List.zipIdx_append, List.filterMap_append, contentFrom, contentFrom]

theorem contentFrom_cons (start : Nat) (line : String) (rest : List String) :
    contentFrom start (line :: rest) =
      ((contentOf? line).map fun content => (start, content)).toList ++
        contentFrom (start + 1) rest := by
  rw [contentFrom, List.zipIdx_cons, List.filterMap_cons, contentFrom]
  cases contentOf? line <;> rfl

theorem contentFrom_of_blank (start : Nat) (blank : ∀ line ∈ lines, contentOf? line = none) :
    contentFrom start lines = [] := by
  apply List.filterMap_eq_nil_iff.mpr
  intro numbered member
  rw [blank numbered.1 (List.fst_mem_of_mem_zipIdx member), Option.map_none]

theorem contentOf?_eq_none {line : String}
    (blank : ∀ character ∈ line.toList, Text.isBlank character = true) :
    contentOf? line = none := by
  apply if_pos
  apply Text.trim_eq_nil_iff.mpr
  intro character member
  exact blank character ((Text.dropLastIf_isPrefix _ line.toList).subset member)

/-! ## Reading under other numbers -/

theorem readFields_renumbered (delimiter : Char) (start : Nat) (line : List Char) :
    readFields delimiter (number start) line =
      (readFields delimiter start line).mapError (Fault.renumbered number) := by
  unfold readFields
  cases fields? delimiter line <;> rfl

theorem fit_renumbered (format : Format) (width start : Nat) (fields : List String) :
    (format.fit width (number start) fields).outcome =
      (format.fit width start fields).outcome.mapError (Fault.renumbered number) := by
  unfold Format.fit
  split
  · rfl
  · split <;> rfl

theorem readRecord_renumbered (format : Format) (width : Nat) (line : Nat × List Char) :
    (format.readRecord width (number line.1, line.2)).outcome =
      (format.readRecord width line).outcome.mapError (Fault.renumbered number) := by
  simp only [Format.readRecord, Logged.bind_outcome, Logged.ofExcept_outcome,
    readFields_renumbered]
  cases readFields format.delimiter line.1 line.2 with
  | error fault => rfl
  | ok fields => exact fit_renumbered format width line.1 fields

/-- Renumbering the lines that say something renumbers the fault that is found, if any. -/
theorem readDocument_renumbered (found : contentLines others =
      (contentLines lines).map fun line => (number line.1, line.2)) :
    (format.readDocument others).outcome =
      (format.readDocument lines).outcome.mapError (Fault.renumbered number) := by
  cases content : contentLines lines with
  | nil =>
      rw [content, List.map_nil] at found
      rw [readDocument_of_nil found, readDocument_of_nil content, ok_mapError]
  | cons first rest =>
      rw [content, List.map_cons] at found
      rw [readDocument_of_cons found, readDocument_of_cons content]
      simp only [readFields_renumbered]
      cases readFields format.delimiter first.1 first.2 with
      | error fault => rfl
      | ok names =>
          have records : ((rest.map fun line => (number line.1, line.2)).mapM fun line =>
                (format.readRecord names.length line).outcome) =
              (rest.mapM fun line => (format.readRecord names.length line).outcome).mapError
                (Fault.renumbered number) := by
            rw [List.mapM_map, ← mapM_mapError]
            congr 1
            funext line
            exact readRecord_renumbered format names.length line
          rw [ok_mapError, ok_bind, ok_bind, records]
          cases rest.mapM fun line => (format.readRecord names.length line).outcome <;> rfl

end Numbers

/-! ## Insertion -/

variable {lines : List (List Char)} {line : List Char} {finalFeed : Bool}

/-- Blank lines to insert, by the gaps in which they stand. -/
structure BlankLines where
  gaps : List (List String)
  feedFree : ∀ gap ∈ gaps, ∀ line ∈ gap, '\n' ∉ line.toList := by decide
  blank : ∀ gap ∈ gaps, ∀ line ∈ gap, line.toList.all Text.isBlank = true := by decide

/-- The lines of a gap.  It is in front of the line with the same index, or
behind the last line. -/
def BlankLines.gap (blanks : BlankLines) (index : Nat) : List String :=
  blanks.gaps.getD index []

/-- The lines from a given index on, with the blank lines among them. -/
def BlankLines.insertFrom (blanks : BlankLines) (index : Nat) : List String → List String
  | [] => blanks.gap index
  | line :: rest => blanks.gap index ++ line :: blanks.insertFrom (index + 1) rest

/-- The text of given lines with the blank lines inserted. -/
def BlankLines.insertAmong (blanks : BlankLines) (lines : List String) (finalFeed : Bool) :
    String :=
  joined ((blanks.insertFrom 0 lines).map String.toList) finalFeed

/-- How many blank lines are inserted in front of the line with a given number,
counted from one. -/
def BlankLines.before (blanks : BlankLines) (number : Nat) : Nat :=
  ((List.range number).flatMap blanks.gap).length

/-- A line that says the same when it loses a carriage return at its end. -/
def Settled (line : List Char) : Prop :=
  contentOf? (String.ofList (Text.dropLastIf (decide <| · = '\r') line)) =
    contentOf? (String.ofList line)

/-! ## Joined lines -/

theorem settled_of_not_mem (returnFree : '\r' ∉ line) : Settled line := by
  rw [Settled, Text.dropLastIf_eq_self (Text.getLast?_ne_some_of_not_mem returnFree)]

theorem settled_of_blank (blank : ∀ character ∈ line, Text.isBlank character = true) :
    Settled line := by
  have still : ∀ character ∈ Text.dropLastIf (decide <| · = '\r') line,
      Text.isBlank character = true := fun character member =>
    blank character ((Text.dropLastIf_isPrefix _ line).subset member)
  rw [Settled, contentOf?_eq_none (by simpa using still), contentOf?_eq_none (by simpa using blank)]

theorem joined_cons_cons (line next : List Char) (rest : List (List Char)) (finalFeed : Bool) :
    (joined (line :: next :: rest) finalFeed).toList =
      line ++ '\n' :: (joined (next :: rest) finalFeed).toList := by
  simp only [joined, String.toList_ofList, List.intercalate_cons_cons, List.append_assoc,
    List.cons_append, List.nil_append]

theorem lines_joined_cons_cons (free : '\n' ∉ line) (next : List Char) (rest : List (List Char))
    (finalFeed : Bool) : Text.lines (joined (line :: next :: rest) finalFeed) =
      String.ofList (Text.dropLastIf (decide <| · = '\r') line) ::
        Text.lines (joined (next :: rest) finalFeed) := by
  rw [Text.lines, joined_cons_cons, Text.linesOf_append_feed free]
  rfl

theorem lines_joined_singleton_feed (free : '\n' ∉ line) : Text.lines (joined [line] true) =
    [String.ofList (Text.dropLastIf (decide <| · = '\r') line)] := by
  have shape : (joined [line] true).toList = line ++ '\n' :: [] := by
    rw [joined, String.toList_ofList, List.intercalate_singleton, if_pos rfl]
  rw [Text.lines, shape, Text.linesOf_append_feed free]
  rfl

theorem lines_joined_singleton (free : '\n' ∉ line) : Text.lines (joined [line] false) =
    if line.isEmpty then [] else [String.ofList line] := by
  have shape : (joined [line] false).toList = line := by
    rw [joined, String.toList_ofList, List.intercalate_singleton, if_neg Bool.false_ne_true,
      List.append_nil]
  rw [Text.lines, shape, Text.linesOf_of_not_mem free]
  split <;> rfl

/-- A joined text says what the lines say, under the same numbers. -/
theorem contentFrom_joined (free : ∀ line ∈ lines, '\n' ∉ line)
    (settled : ∀ line ∈ lines, Settled line) (finalFeed : Bool) (start : Nat) :
    contentFrom start (Text.lines (joined lines finalFeed)) =
      contentFrom start (lines.map String.ofList) := by
  induction lines generalizing start with
  | nil => cases finalFeed <;> rfl
  | cons line others inductionHypothesis =>
      rw [List.forall_mem_cons] at free settled
      have first := settled.1
      rw [Settled] at first
      cases others with
      | nil =>
          cases finalFeed with
          | true =>
              rw [lines_joined_singleton_feed free.1, List.map_singleton, contentFrom_cons,
                contentFrom_cons, first]
          | false =>
              rw [lines_joined_singleton free.1]
              cases line <;> rfl
      | cons next rest =>
          rw [lines_joined_cons_cons free.1, List.map_cons, contentFrom_cons, contentFrom_cons,
            first, inductionHypothesis free.2 settled.2]

/-! ## Inserted lines -/

theorem BlankLines.exists_of_mem_gap {blanks : BlankLines} {index : Nat} {line : String}
    (member : line ∈ blanks.gap index) : ∃ gap ∈ blanks.gaps, line ∈ gap := by
  rw [gap, List.getD_eq_getElem?_getD] at member
  cases found : blanks.gaps[index]? with
  | none =>
      rw [found] at member
      cases member
  | some gap =>
      rw [found] at member
      exact ⟨gap, List.mem_of_getElem? found, member⟩

theorem BlankLines.before_succ (blanks : BlankLines) (number : Nat) :
    blanks.before (number + 1) = blanks.before number + (blanks.gap number).length := by
  rw [before, List.range_succ, List.flatMap_append, List.length_append, List.flatMap_singleton,
    before]

/-- Every line keeps its content, and its number grows by the lines inserted in front of it. -/
theorem BlankLines.contentFrom_insertFrom (blanks : BlankLines) (lines : List String)
    (index : Nat) :
    contentFrom (index + 1 + blanks.before index) (blanks.insertFrom index lines) =
      (contentFrom (index + 1) lines).map fun line =>
        (line.1 + blanks.before line.1, line.2) := by
  have nothing : ∀ start index, contentFrom start (blanks.gap index) = [] := by
    intro start index
    apply contentFrom_of_blank
    intro line member
    rcases exists_of_mem_gap member with ⟨gap, among, inGap⟩
    exact contentOf?_eq_none (List.all_eq_true.mp (blanks.blank gap among line inGap))
  -- The induction goes along the lines; the number of a line is reached behind its gap.
  induction lines generalizing index with
  | nil => exact nothing _ index
  | cons line rest inductionHypothesis =>
      have reached : index + 1 + blanks.before index + (blanks.gap index).length =
          index + 1 + blanks.before (index + 1) := by
        rw [before_succ, Nat.add_assoc]
      have behind : index + 1 + blanks.before (index + 1) + 1 =
          index + 1 + 1 + blanks.before (index + 1) := by
        omega
      rw [insertFrom, contentFrom_append, nothing, List.nil_append, reached, contentFrom_cons,
        behind, inductionHypothesis, contentFrom_cons, List.map_append]
      cases contentOf? line <;> rfl

theorem BlankLines.mem_insertFrom {blanks : BlankLines} {lines : List String} {line : String}
    {index : Nat} (member : line ∈ blanks.insertFrom index lines) :
    line ∈ lines ∨ ∃ gap ∈ blanks.gaps, line ∈ gap := by
  induction lines generalizing index with
  | nil => exact Or.inr (exists_of_mem_gap member)
  | cons first rest inductionHypothesis =>
      rcases List.mem_append.mp member with inGap | later
      · exact Or.inr (exists_of_mem_gap inGap)
      · rcases List.mem_cons.mp later with rfl | behind
        · exact Or.inl List.mem_cons_self
        · exact (inductionHypothesis behind).imp_left (List.mem_cons_of_mem first)

/-- Among lines without feeds and returns, inserted blank lines only change numbers. -/
theorem BlankLines.contentLines_insertAmong (blanks : BlankLines) {lines : List String}
    (feedFree : ∀ line ∈ lines, '\n' ∉ line.toList)
    (returnFree : ∀ line ∈ lines, '\r' ∉ line.toList) (finalFeed : Bool) :
    contentLines (Text.lines (blanks.insertAmong lines finalFeed)) =
      (contentLines lines).map fun line => (line.1 + blanks.before line.1, line.2) := by
  have free : ∀ line ∈ (blanks.insertFrom 0 lines).map String.toList, '\n' ∉ line := by
    intro line member
    rcases List.mem_map.mp member with ⟨source, inserted, rfl⟩
    rcases mem_insertFrom inserted with among | ⟨gap, present, inGap⟩
    · exact feedFree source among
    · exact blanks.feedFree gap present source inGap
  have settled : ∀ line ∈ (blanks.insertFrom 0 lines).map String.toList, Settled line := by
    intro line member
    rcases List.mem_map.mp member with ⟨source, inserted, rfl⟩
    rcases mem_insertFrom inserted with among | ⟨gap, present, inGap⟩
    · exact settled_of_not_mem (returnFree source among)
    · exact settled_of_blank (List.all_eq_true.mp (blanks.blank gap present source inGap))
  have shown : ((blanks.insertFrom 0 lines).map String.toList).map String.ofList =
      blanks.insertFrom 0 lines := by
    simp only [List.map_map, Function.comp_def, String.ofList_toList, List.map_id']
  have counted := blanks.contentFrom_insertFrom lines 0
  rw [contentLines_eq_contentFrom, insertAmong, contentFrom_joined free settled, shown,
    contentLines_eq_contentFrom]
  exact counted

end Delimited
end Tabular
