import Tabular.Proofs.CommandLine.Arguments
import Tabular.Proofs.CommandLine.Log

namespace Tabular
namespace CommandLine

open Log

/-!
# Answers that stand side by side

What a query contributes to a run is settled by the query and the table: a
report on the output, or a complaint on the error output and a sign of failure.
Hence the answers to a list of queries can be cut anywhere into the answers to
two.  Events go to the error output as well, so statements about it ask for a
log that lets nothing pass.
-/

variable {facility : Facility} {arguments : Arguments} {table : Table} {layout : Layout}
  {query : String} {queries : List String} {data : Except StreamError (List UInt8)}
  {input : List UInt8} {error : Error}

def Succeeds (table : Table) (query : String) : Prop :=
  ∃ rows, (table.query query).outcome = .ok rows

/-- The report on a query that succeeds. -/
def reportOf? (table : Table) (layout : Layout) (query : String) : Option String :=
  (table.query query).outcome.toOption.map (report layout query)

/-- The complaint about a query that fails. -/
def complaintOf? (table : Table) (query : String) : Option String :=
  match (table.query query).outcome with
  | .ok _ => none
  | .error error => some ("Query: " ++ query ++ "\nError: " ++ error.display ++ "\n")

/-- A run that has answered the queries, each one as if it were alone. -/
structure Answers (table : Table) (layout : Layout) (queries : List String) (outcome : Outcome) :
    Prop where
  output : outcome.output = String.join (queries.filterMap (reportOf? table layout))
  errorOutput : outcome.errorOutput = String.join (queries.filterMap (complaintOf? table))
  success : outcome.exitCode = 0 ↔ ∀ query ∈ queries, Succeeds table query
  failure : outcome.exitCode = 1 ↔ ∃ query ∈ queries, ¬ Succeeds table query

/-! ## One query and all queries -/

theorem answer_of_ok {rows : List Row} (succeeds : (table.query query).outcome = .ok rows) :
    answer table layout query =
      { output := report layout query rows
        notices := (table.query query).events.map Notice.event } := by
  simp only [answer, succeeds]

theorem answer_of_error (fails : (table.query query).outcome = .error error) :
    answer table layout query =
      .failure ((table.query query).events ++ [.queryFailed query error.display])
        (queryComplaint query error) := by
  simp only [answer, fails]

theorem answer_output (table : Table) (layout : Layout) (query : String) :
    (answer table layout query).output = (reportOf? table layout query).getD "" := by
  cases outcome : (table.query query).outcome with
  | ok rows => rw [answer_of_ok outcome, reportOf?, outcome]; rfl
  | error error => rw [answer_of_error outcome, reportOf?, outcome]; rfl

theorem answer_complaints (table : Table) (layout : Layout) (query : String) :
    (answer table layout query).complaints = (complaintOf? table query).getD "" := by
  cases outcome : (table.query query).outcome with
  | ok rows =>
      simp only [answer_of_ok outcome, complaintOf?, outcome]
      exact join_events _
  | error error =>
      simp only [answer_of_error outcome, complaints_failure, complaintOf?, outcome]
      rfl

theorem answer_failed : (answer table layout query).failed = true ↔ ¬ Succeeds table query := by
  cases outcome : (table.query query).outcome with
  | ok rows => simp [answer_of_ok outcome, Succeeds, outcome]
  | error error => simp [answer_of_error outcome, Transcript.failure, Succeeds, outcome]

theorem join_filterMap_cons (view : String → Option String) (query : String)
    (rest : List String) : String.join ((query :: rest).filterMap view) =
      (view query).getD "" ++ String.join (rest.filterMap view) := by
  cases found : view query with
  | none =>
      rw [List.filterMap_cons_none found]
      exact String.empty_append.symm
  | some text =>
      rw [List.filterMap_cons_some found, String.join_cons]
      rfl

theorem answerAll_output (table : Table) (layout : Layout) (queries : List String) :
    (answerAll table layout queries).output =
      String.join (queries.filterMap (reportOf? table layout)) := by
  induction queries with
  | nil => rfl
  | cons query rest inductionHypothesis =>
      rw [answerAll, Transcript.append, join_filterMap_cons, answer_output, inductionHypothesis]

theorem answerAll_complaints (table : Table) (layout : Layout) (queries : List String) :
    (answerAll table layout queries).complaints =
      String.join (queries.filterMap (complaintOf? table)) := by
  induction queries with
  | nil => rfl
  | cons query rest inductionHypothesis =>
      rw [answerAll, complaints_append, join_filterMap_cons, answer_complaints,
        inductionHypothesis]

/-- The answers report a failure when some query fails, wherever it stands. -/
theorem answerAll_failed : (answerAll table layout queries).failed = true ↔
    ∃ query ∈ queries, ¬ Succeeds table query := by
  induction queries with
  | nil => simp [answerAll]
  | cons query rest inductionHypothesis =>
      rw [answerAll, Transcript.append, Bool.or_eq_true, answer_failed, inductionHypothesis,
        List.exists_mem_cons_iff]

/-! ## The run -/

theorem SwitchedOff.asking (switched : SwitchedOff facility arguments) (queries : List String) :
    SwitchedOff facility (arguments.asking queries) :=
  ⟨switched.off, switched.unopposed, switched.honoured⟩

theorem transcript_of_loaded (arguments : Arguments) (input : List UInt8)
    (loaded : (Table.ofFile arguments.format arguments.data data).outcome = .ok table) :
    transcript arguments data input =
      Transcript.append
        { notices := (Table.ofFile arguments.format arguments.data data).events.map Notice.event }
        (answerOrComplain arguments table input) := by
  rw [transcript]
  simp only [loaded]

theorem transcript_of_refused (arguments : Arguments) (input : List UInt8)
    (refused : (Table.ofFile arguments.format arguments.data data).outcome = .error error) :
    transcript arguments data input =
      abort (Table.ofFile arguments.format arguments.data data).events error := by
  rw [transcript]
  simp only [refused]

/-- Loading leaves nothing but events, so the rest of the run writes everything. -/
theorem run_of_loaded (switched : SwitchedOff facility arguments) (input : List UInt8)
    (loaded : (Table.ofFile arguments.format arguments.data data).outcome = .ok table) :
    (run facility arguments data input).output = (answerOrComplain arguments table input).output ∧
      (run facility arguments data input).errorOutput =
        (answerOrComplain arguments table input).complaints ∧
      (run facility arguments data input).exitCode =
        (if (answerOrComplain arguments table input).failed then 1 else 0) ∧
      (run facility arguments data input).notices =
        (Table.ofFile arguments.format arguments.data data).events.map Notice.event ++
          (answerOrComplain arguments table input).notices := by
  rcases run_of_switchedOff switched data input with ⟨output, notices, errorOutput, exitCode⟩
  rw [transcript_of_loaded arguments input loaded] at output notices errorOutput exitCode
  refine ⟨?_, ?_, exitCode, notices⟩
  · rw [output, Transcript.append, String.empty_append]
  · rw [errorOutput, complaints_append, Transcript.complaints, join_events, String.empty_append]

theorem answerOrComplain_of_queriesOf (arguments : Arguments) (table : Table)
    (found : queriesOf arguments input = .ok queries) :
    answerOrComplain arguments table input = answerAll table arguments.layout queries := by
  rw [answerOrComplain, found]

/-- Queries that were found, in the arguments or elsewhere, are answered. -/
theorem answers_of_queriesOf (switched : SwitchedOff facility arguments)
    (loaded : (Table.ofFile arguments.format arguments.data data).outcome = .ok table)
    (found : queriesOf arguments input = .ok queries) :
    Answers table arguments.layout queries (run facility arguments data input) := by
  rcases run_of_loaded switched input loaded with ⟨output, errorOutput, exitCode, -⟩
  rw [answerOrComplain_of_queriesOf arguments table found] at output errorOutput exitCode
  have failed : (answerAll table arguments.layout queries).failed = true ↔
      ∃ query ∈ queries, ¬ Succeeds table query :=
    answerAll_failed
  constructor
  · rw [output, answerAll_output]
  · rw [errorOutput, answerAll_complaints]
  · rw [exitCode, ite_eq_right_iff, failed]
    simp
  · rw [exitCode, ← failed]
    simp

/-- The outcome of a run with given queries and the log off.  When the data
load, every query is answered as if it were alone, and answering a list of
queries writes what answering its two parts one after the other would write.
When they do not, there is one complaint, whatever the queries are. -/
theorem run_asking (switched : SwitchedOff facility arguments)
    (data : Except StreamError (List UInt8)) (input : List UInt8) :
    (∀ table, (Table.ofFile arguments.format arguments.data data).outcome = .ok table →
      (∀ queries, queries ≠ [] → Answers table arguments.layout queries
        (run facility (arguments.asking queries) data input)) ∧
      ∀ front back, front ≠ [] → back ≠ [] →
        (run facility (arguments.asking (front ++ back)) data input).output =
            (run facility (arguments.asking front) data input).output ++
              (run facility (arguments.asking back) data input).output ∧
          (run facility (arguments.asking (front ++ back)) data input).errorOutput =
            (run facility (arguments.asking front) data input).errorOutput ++
              (run facility (arguments.asking back) data input).errorOutput) ∧
    ∀ error, (Table.ofFile arguments.format arguments.data data).outcome = .error error → ∀ queries,
      (run facility (arguments.asking queries) data input).output = "" ∧
        (run facility (arguments.asking queries) data input).errorOutput =
          "error: " ++ error.display ++ "\n" ∧
        (run facility (arguments.asking queries) data input).exitCode = 1 := by
  refine ⟨?_, ?_⟩
  · intro table loaded
    have answers : ∀ queries, queries ≠ [] → Answers table arguments.layout queries
        (run facility (arguments.asking queries) data input) := by
      intro queries asked
      have found : queriesOf (arguments.asking queries) input = .ok queries :=
        if_neg (mt List.isEmpty_iff.mp asked)
      -- Elaborated against the goal, this would unfold the whole run.
      have answered := answers_of_queriesOf (switched.asking queries) loaded found
      exact answered
    refine ⟨answers, ?_⟩
    intro front back early late
    have whole := answers (front ++ back) (List.append_ne_nil_of_left_ne_nil early back)
    constructor
    · rw [whole.output, (answers front early).output, (answers back late).output,
        List.filterMap_append, String.join_append]
    · rw [whole.errorOutput, (answers front early).errorOutput, (answers back late).errorOutput,
        List.filterMap_append, String.join_append]
  · intro error refused queries
    have failure : transcript (arguments.asking queries) data input =
        abort (Table.ofFile arguments.format arguments.data data).events error :=
      transcript_of_refused (arguments.asking queries) input refused
    rcases run_of_switchedOff (switched.asking queries) data input with
      ⟨output, -, errorOutput, exitCode⟩
    rw [failure] at output errorOutput exitCode
    refine ⟨output, ?_, exitCode⟩
    rw [errorOutput, abort, complaints_failure]
    rfl

/-- The first of two queries fails on the only row, and the second is answered all the same. -/
theorem run_asking_oneFails :
    (Table.ofFile {} "data.csv" (.ok [97, 10, 49])).outcome = .ok
        { schema := ⟨[("a", .number)]⟩, rows := [Row.ofCells [("a", .number 1)]] } ∧
      Answers { schema := ⟨[("a", .number)]⟩, rows := [Row.ofCells [("a", .number 1)]] } .table
        ["PROJECT a FILTER b = 1", "PROJECT a"]
        (run .plain (Arguments.asking { logLevel := "off" } ["PROJECT a FILTER b = 1", "PROJECT a"])
          (.ok [97, 10, 49]) []) ∧
      complaintOf? { schema := ⟨[("a", .number)]⟩, rows := [Row.ofCells [("a", .number 1)]] }
          "PROJECT a FILTER b = 1" =
        some ("Query: PROJECT a FILTER b = 1\n" ++
          "Error: Evaluation error: Cannot compare values of unsupported types\n") ∧
      reportOf? { schema := ⟨[("a", .number)]⟩, rows := [Row.ofCells [("a", .number 1)]] } .table
          "PROJECT a" =
        some "Query: PROJECT a\n  \x7ba: 1\x7d\n(1 rows)\n" := by
  have loaded : (Table.ofFile {} "data.csv" (.ok [97, 10, 49])).outcome = .ok
      { schema := ⟨[("a", .number)]⟩, rows := [Row.ofCells [("a", .number 1)]] } := by
    rfl
  have switched : SwitchedOff .plain { logLevel := "off" } := switchedOff_plain rfl
  have answers := ((run_asking switched (.ok [97, 10, 49]) []).1 _ loaded).1
    ["PROJECT a FILTER b = 1", "PROJECT a"] (by decide)
  refine ⟨loaded, answers, ?_, ?_⟩
  · decide +kernel
  · decide +kernel

end CommandLine
end Tabular
