import Tabular.Proofs.CommandLine.Answers
import Tabular.Proofs.Integer.Unbounded
import Tabular.Proofs.Json
import Tabular.Proofs.Row

namespace Tabular

/-!
# One line for each result

In the JSON layout a query that succeeds is reported on one line and a query
that fails is not reported at all.  No document holds a raw line feed, so
dividing the output at its feeds gives the lines back, in the order of the
queries.

A line holds all there is to know of its result.  It was written for one query
text and one list of rows, their columns in one order, and for no other.
-/

/-! ## Rows as documents -/

namespace Integer

theorem recoverable_decimal : Text.Recoverable Json.NoDigitAhead decimal := by
  have words : Function.Injective fun word : Int64 => some word.toInt := by
    intro left right same
    exact Int64.toInt_inj.mp (Option.some.inj same)
  exact .of_read leadingInteger? words fun word _ apart => leadingInteger?_decimal word apart

end Integer

namespace Cell

theorem json_number_toList (word : Int64) :
    (Cell.number word).json.toList = Integer.decimal word :=
  String.toList_ofList

theorem json_text_toList (content : String) :
    (Cell.text content).json.toList = '"' :: (content.toList.flatMap Json.escape ++ ['"']) :=
  Json.string_toList content

/-- A number and a text are written differently, whatever comes behind them. -/
theorem json_number_append_ne (word : Int64) (content : String) (rest other : List Char) :
    (Cell.number word).json.toList ++ rest ≠ (Cell.text content).json.toList ++ other := by
  intro same
  rw [json_number_toList, json_text_toList] at same
  exact Integer.head?_decimal_append word rest (by decide) (by decide) (congrArg List.head? same)

/-- A cell gives its kind back with its value. -/
theorem recoverable_json :
    Text.Recoverable Json.NoDigitAhead fun cell : Cell => cell.json.toList := by
  intro left right rest other here there same
  cases left with
  | number word =>
      cases right with
      | number number =>
          simp only [json_number_toList] at same
          rw [Integer.recoverable_decimal here there same]
      | text content => exact absurd same (json_number_append_ne word content rest other)
  | text content =>
      cases right with
      | number word => exact absurd same.symm (json_number_append_ne word content other rest)
      | text text => rw [Json.recoverable_string trivial trivial same]

theorem selfContained_json : Json.SelfContained json where
  recoverable := recoverable_json
  opens cell rest := by
    cases cell with
    | number word =>
        rw [json_number_toList]
        exact Integer.head?_decimal_append word rest (by decide) (by decide)
    | text content => exact Json.selfContained_string.opens content rest
  oneLine cell := by
    cases cell with
    | number word =>
        rw [json_number_toList]
        intro feed
        rcases Integer.mem_decimal feed with sign | digit
        · cases sign
        · cases digit
    | text content => exact Json.selfContained_string.oneLine content

end Cell

namespace Row

theorem selfContained_json : Json.SelfContained json :=
  Cell.selfContained_json.object.comp cells_injective

theorem selfContained_jsonArray : Json.SelfContained jsonArray :=
  selfContained_json.array

end Row

/-! ## Results as lines -/

namespace CommandLine

variable {facility : Log.Facility} {channel : Log.Channel} {arguments : Arguments}
  {table : Table} {data : Except StreamError (List UInt8)} {input : List UInt8}
  {queries : List String}

/-- The outcome of a query that succeeds, as one document. -/
def resultLine (query : String) (rows : List Row) : String :=
  Json.object [("query", Json.string query), ("rows", Row.jsonArray rows)]

/-- The line for a query, if it succeeds. -/
def resultLine? (table : Table) (query : String) : Option String :=
  (table.query query).outcome.toOption.map (resultLine query)

/-- An output that consists of one line for each query that succeeds, in order.
Behind the last line feed there is nothing. -/
def OneLineEach (table : Table) (queries : List String) (output : String) : Prop :=
  Text.pieces '\n' output.toList =
    (queries.filterMap (resultLine? table)).map String.toList ++ [[]]

theorem selfContained_resultLine :
    Json.SelfContained fun result : String × List Row => resultLine result.1 result.2 :=
  Json.selfContained_string.pair Row.selfContained_jsonArray "query" "rows"

theorem lineFeed_not_mem_resultLine (query : String) (rows : List Row) :
    '\n' ∉ (resultLine query rows).toList :=
  selfContained_resultLine.oneLine (query, rows)

theorem resultLine_injective {query other : String} {rows others : List Row}
    (same : resultLine query rows = resultLine other others) : query = other ∧ rows = others := by
  have atEnd : Json.NoDigitAhead [] := by
    intro head present
    cases present
  have pairs := selfContained_resultLine.recoverable.injective atEnd
  have equal : (query, rows) = (other, others) := pairs (congrArg String.toList same)
  exact Prod.mk.inj equal

theorem reportOf?_json (table : Table) (query : String) :
    reportOf? table .json query = (resultLine? table query).map (· ++ "\n") := by
  rw [reportOf?, resultLine?, Option.map_map]
  rfl

theorem lineFeed_not_mem_of_mem_filterMap {line : String}
    (member : line ∈ queries.filterMap (resultLine? table)) : '\n' ∉ line.toList := by
  rcases List.mem_filterMap.mp member with ⟨query, -, found⟩
  rcases Option.map_eq_some_iff.mp found with ⟨rows, -, rfl⟩
  exact lineFeed_not_mem_resultLine query rows

/-- Lines without line feeds of their own are the pieces of what they make together. -/
theorem pieces_join_lines {lines : List String} (free : ∀ line ∈ lines, '\n' ∉ line.toList) :
    Text.pieces '\n' (String.join (lines.map (· ++ "\n"))).toList =
      lines.map String.toList ++ [[]] := by
  induction lines with
  | nil => rfl
  | cons line rest inductionHypothesis =>
      have later := inductionHypothesis fun line member => free line (List.mem_cons_of_mem _ member)
      have feed : Text.pieces '\n' ('\n' :: (String.join (rest.map (· ++ "\n"))).toList) =
          [] :: (rest.map String.toList ++ [[]]) := by
        rw [Text.pieces, if_pos rfl, later]
      have whole : (String.join ((line :: rest).map (· ++ "\n"))).toList =
          line.toList ++ '\n' :: (String.join (rest.map (· ++ "\n"))).toList := by
        rw [List.map_cons, String.join_cons, String.toList_append, String.toList_append,
          List.append_assoc]
        rfl
      rw [whole, Text.pieces_append_left (free line List.mem_cons_self), feed,
        List.modifyHead_cons, List.append_nil]
      rfl

theorem oneLineEach_answerAll (table : Table) (queries : List String) :
    OneLineEach table queries (answerAll table .json queries).output := by
  have lines : queries.filterMap (reportOf? table .json) =
      (queries.filterMap (resultLine? table)).map (· ++ "\n") := by
    rw [List.map_filterMap]
    exact List.filterMap_congr fun query _ => reportOf?_json table query
  rw [OneLineEach, answerAll_output, lines]
  exact pieces_join_lines fun line member => lineFeed_not_mem_of_mem_filterMap member

/-- Behind an open log and loaded data, the output is that of the answers. -/
theorem run_output_of_loaded (opened : openLog facility (settingsOf arguments) = .ok channel)
    (loaded : (Table.ofFile arguments.format arguments.data data).outcome = .ok table)
    (found : queriesOf arguments input = .ok queries) :
    (run facility arguments data input).output =
      (answerAll table arguments.layout queries).output := by
  rw [run_of_openLog opened, transcript_of_loaded arguments input loaded,
    answerOrComplain_of_queriesOf arguments table found]
  exact String.empty_append

/-- What the JSON layout writes.  The output is one line for each query that
succeeds, whether the queries are answered alone or in a run.  No line holds a
line feed, and two lines are the same text only if they were written for the
same query text and the same rows. -/
theorem jsonOutput_lines :
    (∀ table queries, OneLineEach table queries (answerAll table .json queries).output) ∧
    (∀ (facility : Log.Facility) (arguments : Arguments) (data : Except StreamError (List UInt8))
      (input : List UInt8) (channel : Log.Channel) (table : Table) (queries : List String),
      arguments.layout = .json → openLog facility (settingsOf arguments) = .ok channel →
      (Table.ofFile arguments.format arguments.data data).outcome = .ok table →
      queriesOf arguments input = .ok queries →
      OneLineEach table queries (run facility arguments data input).output) ∧
    (∀ query rows, '\n' ∉ (resultLine query rows).toList) ∧
    ∀ query other rows others, resultLine query rows = resultLine other others →
      query = other ∧ rows = others := by
  refine ⟨oneLineEach_answerAll, ?_, lineFeed_not_mem_resultLine, ?_⟩
  · intro facility arguments data input channel table queries layout opened loaded found
    rw [run_output_of_loaded opened loaded found, layout]
    exact oneLineEach_answerAll table queries
  · intro query other rows others same
    exact resultLine_injective same

/-- The first of two queries fails and leaves no line.  A text that looks like
the end of its string and a further cell is not written as two cells are. -/
theorem jsonOutput_lines_failingFirst :
    (Table.ofFile {} "data.csv" (.ok [97, 10, 92])).outcome = .ok
        { schema := ⟨[("a", .text)]⟩, rows := [Row.ofCells [("a", .text "\\")]] } ∧
      OneLineEach { schema := ⟨[("a", .text)]⟩, rows := [Row.ofCells [("a", .text "\\")]] }
        ["PROJECT a FILTER b = 1", "PROJECT a"]
        (run .plain (Arguments.asking { layout := .json, logLevel := "off" }
          ["PROJECT a FILTER b = 1", "PROJECT a"]) (.ok [97, 10, 92]) []).output ∧
      resultLine? { schema := ⟨[("a", .text)]⟩, rows := [Row.ofCells [("a", .text "\\")]] }
        "PROJECT a FILTER b = 1" = none ∧
      resultLine? { schema := ⟨[("a", .text)]⟩, rows := [Row.ofCells [("a", .text "\\")]] }
        "PROJECT a" =
          some "\x7b\"query\":\"PROJECT a\",\"rows\":[\x7b\"a\":\"\\\\\"\x7d]\x7d" ∧
      resultLine "PROJECT a" [Row.ofCells [("a", .text "1\",\"b\":\"2")]] ≠
        resultLine "PROJECT a" [Row.ofCells [("a", .text "1"), ("b", .text "2")]] := by
  have loaded : (Table.ofFile {} "data.csv" (.ok [97, 10, 92])).outcome = .ok
      { schema := ⟨[("a", .text)]⟩, rows := [Row.ofCells [("a", .text "\\")]] } := by
    rfl
  have lines := jsonOutput_lines.2.1 .plain
    (Arguments.asking { layout := .json, logLevel := "off" }
      ["PROJECT a FILTER b = 1", "PROJECT a"])
    (.ok [97, 10, 92]) [] _ _ ["PROJECT a FILTER b = 1", "PROJECT a"] rfl rfl loaded rfl
  refine ⟨loaded, lines, rfl, rfl, ?_⟩
  intro same
  have rows := (jsonOutput_lines.2.2.2 _ _ _ _ same).2
  have columns := congrArg (List.map Row.columns) rows
  exact absurd columns (by decide)

end CommandLine

end Tabular
