import Tabular.Proofs.CommandLine.Answers
import Tabular.Proofs.Table.Loading
import Tabular.Proofs.Text.Lines
import Tabular.Proofs.Text.Trim

namespace Tabular
namespace CommandLine

open Log

/-!
# Queries from the standard input

A query can be listed on the standard input when it fits on a line and can be
told from a blank one.  It is read as it was written, blanks at its ends
included, and the run is the one that is given the queries as arguments.  An
input that encodes no text lists nothing, and then no query is run.
-/

variable {facility : Facility} {arguments : Arguments} {queries first second : List String}
  {query : String} {data : Except StreamError (List UInt8)}
  {input firstInput secondInput : List UInt8} {text line ending blanks : List Char}

/-- A query that can stand on a line of its own. -/
structure OneLine (query : String) : Prop where
  feedFree : '\n' ∉ query.toList
  visible : ∃ character ∈ query.toList, Text.isBlank character = false
  closed : query.toList.getLast? ≠ some '\r'

structure IsBlankLine (line : List Char) : Prop where
  feedFree : '\n' ∉ line
  blank : ∀ character ∈ line, Text.isBlank character = true

/-- The ways to end a line. -/
def lineEnds : List (List Char) :=
  [['\n'], ['\r', '\n']]

/-- Texts that list queries in order, one on a line, among any number of blank
lines.  The last line may lack its end. -/
inductive Lists : List String → List Char → Prop where
  | lastQuery (query : String) : Lists [query] query.toList
  | lastBlank {blanks : List Char} (blank : IsBlankLine blanks) : Lists [] blanks
  | query {queries : List String} {text ending : List Char} (query : String)
      (ended : ending ∈ lineEnds) (rest : Lists queries text) :
      Lists (query :: queries) (query.toList ++ ending ++ text)
  | blank {queries : List String} {text ending blanks : List Char} (blank : IsBlankLine blanks)
      (ended : ending ∈ lineEnds) (rest : Lists queries text) :
      Lists queries (blanks ++ ending ++ text)

/-! ## Reading listed queries -/

/-- The lines of a text that are taken for queries. -/
def queryLines (text : List Char) : List (List Char) :=
  (Text.linesOf '\n' '\r' text).filter fun line => !(Text.trim line).isEmpty

theorem inputQueries_utf8 (text : List Char) :
    inputQueries (Text.utf8 (String.ofList text)) =
      .ok ((queryLines text).map String.ofList) := by
  have shown : (fun line : String => !(Text.trim line.toList).isEmpty) ∘ String.ofList =
      fun line : List Char => !(Text.trim line).isEmpty := by
    funext line
    rw [Function.comp_apply, String.toList_ofList]
  rw [inputQueries, Table.decodeLines_utf8, Text.lines, String.toList_ofList, ok_mapError, ok_map,
    List.filter_map, shown, queryLines]

/-- Whichever end a line has, it is read as the line without it, except that a
carriage return before the end may be lost. -/
theorem linesOf_ended (free : '\n' ∉ line) (ended : ending ∈ lineEnds) (text : List Char) :
    ∃ kept, kept <+: line ∧ (line.getLast? ≠ some '\r' → kept = line) ∧
      Text.linesOf '\n' '\r' (line ++ ending ++ text) = kept :: Text.linesOf '\n' '\r' text := by
  rcases List.mem_cons.mp ended with rfl | other
  · refine ⟨Text.dropLastIf (decide <| · = '\r') line, Text.dropLastIf_isPrefix _ line,
      Text.dropLastIf_eq_self, ?_⟩
    rw [List.append_assoc]
    exact Text.linesOf_append_feed free text
  · rw [List.mem_singleton.mp other]
    refine ⟨line, List.prefix_rfl, fun _ => rfl, ?_⟩
    have longer : '\n' ∉ line ++ ['\r'] := by
      rw [List.mem_append, not_or]
      exact ⟨free, by decide⟩
    have cut : Text.dropLastIf (decide <| · = '\r') (line ++ ['\r']) = line :=
      Text.dropLastIf_concat line
    have divided : Text.linesOf '\n' '\r' (line ++ ['\r'] ++ '\n' :: text) =
        Text.dropLastIf (decide <| · = '\r') (line ++ ['\r']) :: Text.linesOf '\n' '\r' text :=
      Text.linesOf_append_feed longer text
    rw [cut, List.append_assoc] at divided
    rw [List.append_assoc]
    exact divided

theorem OneLine.shown (fits : OneLine query) : (Text.trim query.toList).isEmpty = false :=
  List.isEmpty_eq_false_iff.mpr (Text.trim_ne_nil_of_visible fits.visible)

theorem IsBlankLine.hidden (blank : IsBlankLine line) : (Text.trim line).isEmpty = true := by
  rw [List.isEmpty_iff, Text.trim_eq_nil_iff]
  exact blank.blank

theorem queryLines_query (fits : OneLine query) (ended : ending ∈ lineEnds) (text : List Char) :
    queryLines (query.toList ++ ending ++ text) = query.toList :: queryLines text := by
  rcases linesOf_ended fits.feedFree ended text with ⟨kept, -, same, divided⟩
  rw [same fits.closed] at divided
  rw [queryLines, divided, List.filter_cons_of_pos (by rw [fits.shown]; rfl), queryLines]

theorem queryLines_blank (blank : IsBlankLine blanks) (ended : ending ∈ lineEnds)
    (text : List Char) : queryLines (blanks ++ ending ++ text) = queryLines text := by
  rcases linesOf_ended blank.feedFree ended text with ⟨kept, within, -, divided⟩
  have still : IsBlankLine kept :=
    { feedFree := mt (within.subset ·) blank.feedFree
      blank := fun character member => blank.blank character (within.subset member) }
  rw [queryLines, divided, List.filter_cons_of_neg (by simp [still.hidden]), queryLines]

/-- The queries that a text lists are the ones that are read from it. -/
theorem queryLines_of_lists (listed : Lists queries text)
    (fits : ∀ query ∈ queries, OneLine query) : queryLines text = queries.map String.toList := by
  -- Every way to list ends its first line, except where that line is the last one.
  induction listed with
  | lastQuery query =>
      have shown := (fits query List.mem_cons_self).shown
      have filled : query.toList.isEmpty = false := by
        rcases (fits query List.mem_cons_self).visible with ⟨character, inside, -⟩
        exact List.isEmpty_eq_false_iff.mpr (List.ne_nil_of_mem inside)
      rw [queryLines, Text.linesOf_of_not_mem (fits query List.mem_cons_self).feedFree, filled]
      simp [shown]
  | lastBlank blank =>
      rw [queryLines, Text.linesOf_of_not_mem blank.feedFree]
      split
      · rfl
      · simp [blank.hidden]
  | query query ended rest inductionHypothesis =>
      rw [List.forall_mem_cons] at fits
      rw [queryLines_query fits.1 ended, inductionHypothesis fits.2, List.map_cons]
  | blank blank ended rest inductionHypothesis =>
      rw [queryLines_blank blank ended, inductionHypothesis fits]

theorem inputQueries_of_lists (listed : Lists queries text)
    (fits : ∀ query ∈ queries, OneLine query) :
    inputQueries (Text.utf8 (String.ofList text)) = .ok queries := by
  rw [inputQueries_utf8, queryLines_of_lists listed fits, List.map_map]
  simp

/-! ## Running listed queries -/

/-- A run depends on its queries, not on where they are found. -/
theorem run_congr_queriesOf (same : queriesOf (arguments.asking first) firstInput =
      queriesOf (arguments.asking second) secondInput) :
    run facility (arguments.asking first) data firstInput =
      run facility (arguments.asking second) data secondInput := by
  have answered : ∀ table, answerOrComplain (arguments.asking first) table firstInput =
      answerOrComplain (arguments.asking second) table secondInput := by
    intro table
    rw [answerOrComplain, answerOrComplain, same]
    rfl
  have told : transcript (arguments.asking first) data firstInput =
      transcript (arguments.asking second) data secondInput := by
    cases outcome : (Table.ofFile arguments.format arguments.data data).outcome with
    | ok table =>
        rw [transcript_of_loaded (arguments.asking first) firstInput outcome, answered,
          transcript_of_loaded (arguments.asking second) secondInput outcome]
        rfl
    | error error =>
        rw [transcript_of_refused (arguments.asking first) firstInput outcome,
          transcript_of_refused (arguments.asking second) secondInput outcome]
        rfl
  rw [run, run, told]
  rfl

theorem inputQueries_of_not_isEncoding (undecodable : ¬ Text.IsEncoding input) :
    inputQueries input = .error (.stream .invalidUtf8) := by
  rw [inputQueries, Table.decodeLines_of_not_isEncoding undecodable]
  rfl

/-- Without any argument, queries are looked for on the standard input.  A run
on listed queries is the run on the same queries as arguments.  A run on an
undecodable input, with the log off, complains of nothing else, and no event of
any query is among its notices. -/
theorem run_listed (facility : Facility) (arguments : Arguments)
    (data : Except StreamError (List UInt8)) :
    (∀ queries text input, queries ≠ [] → (∀ query ∈ queries, OneLine query) →
      Lists queries text →
        run facility (arguments.asking queries) data input =
          run facility (arguments.asking []) data (Text.utf8 (String.ofList text))) ∧
    ∀ table input, SwitchedOff facility arguments →
      (Table.ofFile arguments.format arguments.data data).outcome = .ok table →
      ¬ Text.IsEncoding input →
        (run facility (arguments.asking []) data input).output = "" ∧
        (run facility (arguments.asking []) data input).errorOutput =
          "error: I/O error: stream did not contain valid UTF-8\n" ∧
        (run facility (arguments.asking []) data input).exitCode = 1 ∧
        (run facility (arguments.asking []) data input).notices =
          (Table.ofFile arguments.format arguments.data data).events.map Notice.event ++
            [.event (.runAborted "I/O error: stream did not contain valid UTF-8"),
              .complaint "error: I/O error: stream did not contain valid UTF-8\n"] := by
  refine ⟨?_, ?_⟩
  · intro queries text input asked fits listed
    apply run_congr_queriesOf
    have given : queriesOf (arguments.asking queries) input = .ok queries :=
      if_neg (mt List.isEmpty_iff.mp asked)
    have found : queriesOf (arguments.asking []) (Text.utf8 (String.ofList text)) = .ok queries :=
      inputQueries_of_lists listed fits
    rw [given, found]
  · intro table input switched loaded undecodable
    have refused : queriesOf (arguments.asking []) input = .error (.stream .invalidUtf8) :=
      inputQueries_of_not_isEncoding undecodable
    have complained : answerOrComplain (arguments.asking []) table input =
        .failure [.runAborted "I/O error: stream did not contain valid UTF-8"]
          "error: I/O error: stream did not contain valid UTF-8\n" := by
      rw [answerOrComplain, refused]
      rfl
    rcases run_of_loaded (switched.asking []) input loaded with ⟨output, errorOutput, exitCode, notices⟩
    rw [complained] at output errorOutput exitCode notices
    rw [complaints_failure] at errorOutput
    exact ⟨output, errorOutput, exitCode, notices⟩

/-- A blank line in front, both line ends and a last line without one; and an
input whose last byte cannot be decoded. -/
theorem run_listed_mixedEnds :
    Lists [" PROJECT a", "PROJECT b "] " \t\n PROJECT a\r\n\nPROJECT b ".toList ∧
      run .plain (Arguments.asking {} [" PROJECT a", "PROJECT b "]) (.ok [97, 10, 49]) [] =
        run .plain (Arguments.asking {} []) (.ok [97, 10, 49])
          (Text.utf8 (String.ofList " \t\n PROJECT a\r\n\nPROJECT b ".toList)) ∧
      ¬ Text.IsEncoding [80, 10, 255] ∧
      (run .plain (Arguments.asking { logLevel := "off" } []) (.ok [97, 10, 49])
          [80, 10, 255]).errorOutput =
        "error: I/O error: stream did not contain valid UTF-8\n" := by
  have blankLine : IsBlankLine [' ', '\t'] :=
    ⟨by decide, List.forall_mem_cons.mpr ⟨rfl, List.forall_mem_singleton.mpr rfl⟩⟩
  have emptyLine : IsBlankLine [] := ⟨List.not_mem_nil, List.forall_mem_nil _⟩
  have feed : ['\n'] ∈ lineEnds := by decide
  have returnAndFeed : ['\r', '\n'] ∈ lineEnds := by decide
  have listed : Lists [" PROJECT a", "PROJECT b "] " \t\n PROJECT a\r\n\nPROJECT b ".toList :=
    .blank blankLine feed <| .query " PROJECT a" returnAndFeed <| .blank emptyLine feed <|
      .lastQuery "PROJECT b "
  have fits : ∀ query ∈ [" PROJECT a", "PROJECT b "], OneLine query := by
    rw [List.forall_mem_cons, List.forall_mem_singleton]
    constructor
    · exact ⟨by decide, ⟨'P', by decide, rfl⟩, by decide⟩
    · exact ⟨by decide, ⟨'P', by decide, rfl⟩, by decide⟩
  have undecodable : ¬ Text.IsEncoding [80, 10, 255] := by
    rintro ⟨text, same⟩
    cases Text.ofUtf8?_eq_some.mpr same
  have switched : SwitchedOff .plain { logLevel := "off" } := switchedOff_plain rfl
  have refused := ((run_listed .plain { logLevel := "off" } (.ok [97, 10, 49])).2 _
    [80, 10, 255] switched rfl undecodable).2.1
  exact ⟨listed, (run_listed .plain {} (.ok [97, 10, 49])).1 _ _ [] (by decide) fits listed,
    undecodable, refused⟩

end CommandLine
end Tabular
