import Mathlib.Data.List.Basic
import Tabular.CommandLine.Run

namespace Tabular

/-!
# The log of a run

A directive from the surroundings goes before the level of the settings, unless
it cannot be read.  Opening the log fails on account of the level only.

Whichever log is open, a run has the same output, exit code and notices.  When
nothing passes, the complaints are all that is written on the terminal.
-/

namespace Log

variable {facility : Facility} {directive level reason : String} {passes : Event → Bool}
  {channel : Channel} {event : Event}

/-! ## Directives -/

/-- A directive from the surroundings that can be read goes before every level. -/
theorem Facility.passes_of_override (present : facility.override = some directive)
    (read : facility.read directive = .ok passes) (level : String) :
    facility.passes level = .ok passes := by
  rw [Facility.passes, present, Option.bind_some, read]
  rfl

theorem Facility.passes_of_unopposed (unopposed : facility.override = none) (level : String) :
    facility.passes level = facility.read level := by
  rw [Facility.passes, unopposed, Option.bind_none]

theorem Facility.passes_eq_error_iff : facility.passes level = .error reason ↔
    (∀ directive ∈ facility.override, ∃ other, facility.read directive = .error other) ∧
      facility.read level = .error reason := by
  cases present : facility.override with
  | none => simp [Facility.passes_of_unopposed present]
  | some directive =>
      cases read : facility.read directive with
      | ok passes => simp [Facility.passes_of_override present read, read]
      | error other => simp [Facility.passes, present, read, Except.toOption]

/-- A facility that takes the names of the severities for thresholds. -/
def Facility.ReadsLevels (facility : Facility) : Prop :=
  ∀ level : Level, ∃ passes, facility.read level.name = .ok passes ∧
    ∀ event, passes event = level.admits event.level

theorem readsLevels_plain : Facility.plain.ReadsLevels := by
  intro level
  cases level <;> exact ⟨_, rfl, fun _ => rfl⟩

/-! ## Settings -/

theorem terminalText_of_blocked (blocked : channel.passes event = false) :
    channel.terminalText event = "" := by
  rw [Channel.terminalText, blocked, Bool.and_false]
  rfl

/-- Settings for a level open a log that writes the events up to it, in the style
and at the places that were asked for. -/
theorem exists_openOn_upTo (reads : facility.ReadsLevels) (unopposed : facility.override = none)
    (level : Level) (output : Output) (style : Style) :
    ∃ channel, (((Settings.upTo level).writingTo output).styled style).openOn facility =
        .ok channel ∧
      ∀ event,
        channel.terminalText event =
          (if output.toTerminal && level.admits event.level then
            facility.layout style true event else "") ∧
        channel.fileText event =
          if output.path?.isSome && level.admits event.level then
            facility.layout style false event else "" := by
  rcases reads level with ⟨passes, read, thresholds⟩
  refine ⟨⟨((Settings.upTo level).writingTo output).styled style, passes, facility.layout⟩, ?_, ?_⟩
  · have named : (((Settings.upTo level).writingTo output).styled style).level = level.name := rfl
    rw [Settings.openOn, named, Facility.passes_of_unopposed unopposed, read]
    rfl
  · intro event
    rw [← thresholds]
    exact ⟨rfl, rfl⟩

/-- A warning goes to the file, and an event that is only informative does not. -/
example : ((((Settings.upTo .warn).writingTo (.file "run.log")).openOn .plain).map fun channel =>
    ((channel.terminalText (.fieldsDropped 2 1), channel.fileText (.fieldsDropped 2 1)),
      channel.fileText (.tableLoaded "data.csv" 3))) =
    .ok (("", "WARN dropping extra fields line=2 extra=1\n"), "") := by
  rfl

end Log

namespace CommandLine

open Log

variable {facility other : Facility} {arguments : Arguments} {channel second : Channel}

/-- A log that lets nothing pass, on account of the arguments. -/
structure SwitchedOff (facility : Facility) (arguments : Arguments) : Prop where
  off : arguments.logLevel = "off"
  /-- No directive in the surroundings overrules the arguments. -/
  unopposed : facility.override = none
  honoured : ∃ passes, facility.read "off" = .ok passes ∧ ∀ event, passes event = false

theorem switchedOff_plain (off : arguments.logLevel = "off") : SwitchedOff .plain arguments :=
  ⟨off, rfl, _, rfl, fun _ => rfl⟩

/-! ## Complaints among the notices -/

/-- The text that is written of a notice when the log lets nothing pass. -/
def Notice.complaintText : Notice → String
  | .event _ => ""
  | .complaint text => text

def Transcript.complaints (transcript : Transcript) : String :=
  String.join (transcript.notices.map Notice.complaintText)

theorem join_events (events : List Event) :
    String.join ((events.map Notice.event).map Notice.complaintText) = "" := by
  induction events with
  | nil => rfl
  | cons event rest inductionHypothesis =>
      rw [List.map_cons, List.map_cons, String.join_cons, inductionHypothesis]
      rfl

theorem complaints_append (first second : Transcript) :
    (first.append second).complaints = first.complaints ++ second.complaints := by
  rw [Transcript.complaints, Transcript.append, List.map_append, String.join_append]
  rfl

theorem complaints_failure (events : List Event) (complaint : String) :
    (Transcript.failure events complaint).complaints = complaint := by
  rw [Transcript.complaints, Transcript.failure, List.map_append, String.join_append,
    join_events, List.map_singleton, String.join_cons, String.join_nil, String.append_empty,
    String.empty_append]
  rfl

theorem errorOutput_of_silent {outcome : Outcome}
    (silent : ∀ channel ∈ outcome.channel, ∀ event, channel.terminalText event = "") :
    outcome.errorOutput = String.join (outcome.notices.map Notice.complaintText) := by
  rw [Outcome.errorOutput]
  congr 1
  apply List.map_congr_left
  intro notice _
  cases notice with
  | complaint text => rfl
  | event event =>
      cases opened : outcome.channel with
      | none => rfl
      | some channel => exact silent channel opened event

/-! ## Runs with an open log -/

/-- A run is its transcript once the log is open. -/
theorem run_of_openLog (opened : openLog facility (settingsOf arguments) = .ok channel)
    (data : Except StreamError (List UInt8)) (input : List UInt8) :
    run facility arguments data input =
      { exitCode := if (transcript arguments data input).failed then 1 else 0
        output := (transcript arguments data input).output
        notices := (transcript arguments data input).notices
        channel := some channel } := by
  rw [run, opened]

/-- Whatever is asked of the log, nothing else depends on it. -/
theorem run_congr_log {level : String} {file : Option String}
    (opened : openLog facility (settingsOf arguments) = .ok channel)
    (reopened : openLog other
      (settingsOf { arguments with logLevel := level, logFile := file }) = .ok second)
    (data : Except StreamError (List UInt8)) (input : List UInt8) :
    let first := run facility arguments data input
    let again := run other { arguments with logLevel := level, logFile := file } data input
    first.output = again.output ∧ first.exitCode = again.exitCode ∧
      first.notices = again.notices := by
  rw [run_of_openLog opened, run_of_openLog reopened]
  exact ⟨rfl, rfl, rfl⟩

/-- A log that is switched off is open all the same. -/
theorem exists_openLog_of_switchedOff (switched : SwitchedOff facility arguments) :
    ∃ channel, openLog facility (settingsOf arguments) = .ok channel ∧
      ∀ event, channel.terminalText event = "" := by
  rcases switched.honoured with ⟨passes, read, silent⟩
  have level : (settingsOf arguments).level = "off" := by
    unfold settingsOf
    cases arguments.logFile <;> exact switched.off
  refine ⟨⟨settingsOf arguments, passes, facility.layout⟩, ?_, ?_⟩
  · rw [openLog, Settings.openOn, Facility.passes_of_unopposed switched.unopposed, level, read]
    rfl
  · intro event
    exact terminalText_of_blocked (silent event)

/-- With the log off, a run is its transcript, and of the notices only complaints are written. -/
theorem run_of_switchedOff (switched : SwitchedOff facility arguments)
    (data : Except StreamError (List UInt8)) (input : List UInt8) :
    (run facility arguments data input).output = (transcript arguments data input).output ∧
      (run facility arguments data input).notices = (transcript arguments data input).notices ∧
      (run facility arguments data input).errorOutput =
        (transcript arguments data input).complaints ∧
      (run facility arguments data input).exitCode =
        if (transcript arguments data input).failed then 1 else 0 := by
  rcases exists_openLog_of_switchedOff switched with ⟨channel, opened, silent⟩
  rw [run_of_openLog opened]
  refine ⟨rfl, rfl, errorOutput_of_silent ?_, rfl⟩
  intro other present
  cases present
  exact silent

end CommandLine
end Tabular
