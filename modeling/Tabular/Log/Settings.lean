import Tabular.Log.Event
import Tabular.Text

namespace Tabular
namespace Log

/-!
# Log settings

Settings say which events are written, where to and in which style.  The level
is kept as the text that was given, a directive, and is looked at only when the
log is opened.  Reading directives and laying out lines is the business of the
facility that a log is built on.
-/

/-- Where events are written. -/
inductive Output where
  | terminal
  | file (path : String)
  | both (path : String)
  deriving DecidableEq, Repr

/-- The file events are written to, if any. -/
def Output.path? : Output → Option String
  | .terminal => none
  | .file path => some path
  | .both path => some path

/-- Whether events are written to the terminal. -/
def Output.toTerminal : Output → Bool
  | .file _ => false
  | _ => true

inductive Style where
  | pretty
  | compact
  deriving DecidableEq, Repr

/-- Everything that is configured about the log. -/
structure Settings where
  level : String := "warn"
  output : Output := .terminal
  style : Style := .compact
  deriving DecidableEq, Repr

namespace Settings

/-- The events up to a severity, on the terminal. -/
def upTo (level : Level) : Settings where
  level := level.name

def obeying (settings : Settings) (directive : String) : Settings :=
  { settings with level := directive }

def writingTo (settings : Settings) (output : Output) : Settings :=
  { settings with output := output }

def styled (settings : Settings) (style : Style) : Settings :=
  { settings with style := style }

end Settings

/-! ## Open logs -/

/-- What a log is built on. -/
structure Facility where
  /-- A directive from the surroundings, which goes before the one of the settings. -/
  override : Option String := none
  /-- The events that a directive lets pass, or what is wrong with it. -/
  read : String → Except String (Event → Bool)
  /-- The text of an event in a style, with colours or without. -/
  layout : Style → Bool → Event → String

/-- The events that may pass.  A directive from the surroundings that cannot be
read is passed over. -/
def Facility.passes (facility : Facility) (level : String) : Except String (Event → Bool) :=
  match facility.override.bind fun directive => (facility.read directive).toOption with
  | some passes => .ok passes
  | none => facility.read level

/-- A log that is open. -/
structure Channel where
  settings : Settings
  passes : Event → Bool
  layout : Style → Bool → Event → String

/-- Open a log, unless no directive can be read. -/
def Settings.openOn (settings : Settings) (facility : Facility) : Except String Channel :=
  (facility.passes settings.level).map fun passes =>
    { settings := settings, passes := passes, layout := facility.layout }

namespace Channel

/-- What is written of an event on the terminal, where it may be coloured. -/
def terminalText (channel : Channel) (event : Event) : String :=
  if channel.settings.output.toTerminal && channel.passes event then
    channel.layout channel.settings.style true event
  else
    ""

/-- What is written of an event to the file. -/
def fileText (channel : Channel) (event : Event) : String :=
  if channel.settings.output.path?.isSome && channel.passes event then
    channel.layout channel.settings.style false event
  else
    ""

end Channel

/-! ## A plain facility

It knows thresholds only.  A directive for a single target is accepted and lets
nothing pass. -/

/-- What is wrong with a directive. -/
inductive DirectiveError where
  /-- It names no target in front of the equals sign. -/
  | malformed
  /-- What stands behind the equals sign is no level. -/
  | unknownLevel
  deriving DecidableEq, Repr

def DirectiveError.message : DirectiveError → String
  | .malformed => "invalid filter directive"
  | .unknownLevel =>
      "error parsing level filter: expected one of \"off\", \"error\", \"warn\", \"info\", " ++
        "\"debug\", \"trace\", or a number 0-5"

/-- The thresholds by what writes them, a name or a number.  `none` lets
nothing pass. -/
def thresholds : List (String × Option Level) :=
  ("off", none) :: ("0", none) :: Level.all.flatMap fun level =>
    [(level.name, some level), (Integer.naturalText level.rank, some level)]

/-- The threshold that a directive sets. -/
def readDirective (directive : String) : Except DirectiveError (Option Level) :=
  match Text.cut? ['='] directive.toList with
  | none => .ok ((thresholds.lookup directive).getD none)
  | some (target, level) =>
      if target.isEmpty then .error .malformed
      else if (thresholds.lookup (String.ofList level)).isSome then .ok none
      else .error .unknownLevel

/-- A facility that writes each event on one line, in either style. -/
def Facility.plain : Facility where
  read directive :=
    match readDirective directive with
    | .ok threshold => .ok fun event => threshold.any fun level => level.admits event.level
    | .error reason => .error reason.message
  layout _ _ event := event.display ++ "\n"

end Log
end Tabular
