import Tabular.CommandLine.Arguments
import Tabular.Proofs.Text.Split

namespace Tabular
namespace CommandLine

/-!
# Arguments as they are written

Behind a bare double hyphen any texts can be given as queries, whatever they
begin with, and what was understood in front of it stays understood.  Options
have a form that holds any value, and in that form every setting can be written
and is read back.
-/

variable {value argument : String} {option : ValueOption} {front texts : List String}

/-- The same arguments with other queries. -/
def Arguments.asking (arguments : Arguments) (queries : List String) : Arguments :=
  { arguments with queries := queries }

/-! ## Forms -/

theorem optionToken_ne_restAreQueries (found : Option ValueOption) (value : Option String) :
    (found.map fun option => Token.option option value).getD .unknown ≠ .restAreQueries := by
  cases found with
  | none => exact Token.noConfusion
  | some option => exact Token.noConfusion

theorem longToken_ne_restAreQueries (text : List Char) : longToken text ≠ .restAreQueries := by
  unfold longToken
  split
  · dsimp only
    split_ifs
    · exact Token.noConfusion
    · exact Token.noConfusion
    · exact Token.noConfusion
    · exact optionToken_ne_restAreQueries _ _
  · exact optionToken_ne_restAreQueries _ _

theorem shortToken_ne_restAreQueries (letter : Char) (rest : List Char) :
    shortToken letter rest ≠ .restAreQueries := by
  unfold shortToken
  split_ifs
  · nofun
  · nofun
  · split <;> nofun

/-- Only the bare double hyphen turns all that follows into queries. -/
theorem eq_of_tokenOf_eq_restAreQueries (token : tokenOf argument = .restAreQueries) :
    argument = "--" := by
  unfold tokenOf at token
  split at token
  · next hyphens => exact String.toList_inj.mp hyphens
  · exact absurd token (longToken_ne_restAreQueries _)
  · exact absurd token (shortToken_ne_restAreQueries _ _)
  · cases token

/-- The name an option is written with. -/
def ValueOption.name : ValueOption → String
  | .data => "--data"
  | .delimiter => "--delimiter"
  | .layout => "--format"
  | .logLevel => "--log-level"
  | .logFile => "--log-file"

/-- An option and its value in one argument. -/
def ValueOption.assigned (option : ValueOption) (value : String) : String :=
  option.name ++ "=" ++ value

/-- A long option takes everything behind the first equals sign for its value. -/
theorem tokenOf_assigned (option : ValueOption) (value : String) :
    tokenOf (option.assigned value) = .option option (some value) := by
  have whole : (option.assigned value).toList = option.name.toList ++ ['='] ++ value.toList := by
    rw [ValueOption.assigned, String.toList_append, String.toList_append]
    rfl
  have plain : '=' ∉ option.name.toList := by
    cases option <;> decide
  have known : longNames.lookup option.name = some option := by
    cases option <;> decide
  have cut : Text.cut? ['='] (option.assigned value).toList =
      some (option.name.toList, value.toList) := by
    rw [whole, Text.cut?_append_iff (List.cons_ne_nil _ _), List.dropLast_concat]
    exact fun inside => plain (inside.subset List.mem_cons_self)
  have token : tokenOf (option.assigned value) = longToken (option.assigned value).toList := by
    rw [tokenOf, whole]
    cases option <;> rfl
  rw [token, longToken, cut]
  simp only [String.ofList_toList, known, Option.map_some, Option.getD_some]

def layoutName : Layout → String
  | .table => "table"
  | .json => "json"

namespace Arguments

variable {arguments next : Arguments} {progress : Progress}

/-! ## Queries behind the hyphens -/

theorem eq_of_read_eq_none (read : progress.read argument = .ok none) : argument = "--" := by
  have never : ∀ outcome : Except Refusal Progress, outcome.map some ≠ .ok none := by
    intro outcome
    cases outcome <;> nofun
  unfold Progress.read at read
  split at read
  · split_ifs at read
    exact absurd read (never _)
  · split at read
    · cases read
    · next token => exact eq_of_tokenOf_eq_restAreQueries token
    · exact absurd read (never _)
    · cases read
    · cases read
    · cases read
    · exact absurd read (never _)
    · cases read

theorem parseFrom_hyphens (waiting : progress.awaiting = none) (texts : List String) :
    parseFrom progress ("--" :: texts) = .ok (progress.takeQueries texts).arguments := by
  rw [parseFrom, Progress.read, waiting]
  rfl

/-- What was understood stays understood when the hyphens and queries follow it. -/
theorem parseFrom_append (undivided : "--" ∉ front)
    (parsed : parseFrom progress front = .ok arguments) (texts : List String) :
    parseFrom progress (front ++ "--" :: texts) =
      .ok (arguments.asking (arguments.queries ++ texts)) := by
  induction front generalizing progress with
  | nil =>
      cases waiting : progress.awaiting with
      | some option =>
          rw [parseFrom, waiting] at parsed
          cases parsed
      | none =>
          rw [parseFrom, waiting] at parsed
          cases parsed
          exact parseFrom_hyphens waiting texts
  | cons argument rest inductionHypothesis =>
      rw [List.mem_cons, not_or] at undivided
      rw [List.cons_append]
      rw [parseFrom] at parsed ⊢
      cases read : progress.read argument with
      | error refusal =>
          rw [read] at parsed
          cases parsed
      | ok step =>
          cases step with
          | none => exact absurd (eq_of_read_eq_none read) (Ne.symm undivided.1)
          | some next =>
              rw [read] at parsed
              exact inductionHypothesis undivided.2 parsed

/-- Any texts can be asked as queries behind the hyphens, under any options in
front of them. -/
theorem parse_append_queries (undivided : "--" ∉ front) (parsed : parse front = .ok arguments)
    (texts : List String) :
    parse (front ++ "--" :: texts) = .ok (arguments.asking (arguments.queries ++ texts)) :=
  parseFrom_append undivided parsed texts

example (texts : List String) :
    parse ("--log-level=off" :: "--" :: texts) = .ok { logLevel := "off", queries := texts } :=
  parse_append_queries (by decide : "--" ∉ ["--log-level=off"]) rfl texts

/-! ## Every setting -/

/-- The options that set a value, with the values that arguments give them. -/
def settings (arguments : Arguments) : List (ValueOption × String) :=
  [(.data, arguments.data), (.delimiter, String.singleton arguments.format.delimiter),
      (.layout, layoutName arguments.layout), (.logLevel, arguments.logLevel)] ++
    (arguments.logFile.map (ValueOption.logFile, ·)).toList

/-- Arguments with everything they say, the queries last. -/
def written (arguments : Arguments) : List String :=
  (if arguments.format.strict then ["--strict"] else []) ++
    (arguments.settings.map fun setting => setting.1.assigned setting.2) ++
    "--" :: arguments.queries

/-- Set several options, one after the other. -/
def setAll (arguments : Arguments) (settings : List (ValueOption × String)) :
    Except Refusal Arguments :=
  settings.foldlM (fun arguments setting => arguments.set setting.1 setting.2) arguments

theorem parseFrom_assigned {seen : List ValueOption} (fresh : option ∉ seen)
    (set : arguments.set option value = .ok next) (texts : List String) :
    parseFrom ⟨arguments, seen, none⟩ (option.assigned value :: texts) =
      parseFrom ⟨next, option :: seen, none⟩ texts := by
  have read : Progress.read ⟨arguments, seen, none⟩ (option.assigned value) =
      .ok (some ⟨next, option :: seen, none⟩) := by
    simp only [Progress.read, tokenOf_assigned, Progress.take, if_neg fresh, set, Except.map]
  rw [parseFrom, read]

/-- Options that were not given before are set one after the other. -/
theorem parseFrom_settings {settings : List (ValueOption × String)} {seen : List ValueOption}
    (fresh : ∀ setting ∈ settings, setting.1 ∉ seen)
    (distinct : (settings.map Prod.fst).Nodup)
    (set : arguments.setAll settings = .ok next) (waiting : List String) :
    parseFrom ⟨arguments, seen, none⟩
        ((settings.map fun setting => setting.1.assigned setting.2) ++ "--" :: waiting) =
      .ok (next.asking (next.queries ++ waiting)) := by
  induction settings generalizing arguments seen with
  | nil =>
      cases set
      exact parseFrom_hyphens rfl waiting
  | cons setting settings inductionHypothesis =>
      rw [List.map_cons, List.nodup_cons] at distinct
      rw [setAll, List.foldlM_cons] at set
      cases first : arguments.set setting.1 setting.2 with
      | error refusal =>
          rw [first] at set
          cases set
      | ok middle =>
          rw [first] at set
          have freshLater : ∀ later ∈ settings, later.1 ∉ setting.1 :: seen := by
            intro later member
            rw [List.mem_cons, not_or]
            constructor
            · intro same
              exact distinct.1 (same ▸ List.mem_map_of_mem member)
            · exact fresh later (List.mem_cons_of_mem _ member)
          rw [List.map_cons, List.cons_append,
            parseFrom_assigned (fresh setting List.mem_cons_self) first]
          exact inductionHypothesis freshLater distinct.2 set

theorem nodup_map_fst_settings (arguments : Arguments) :
    (arguments.settings.map Prod.fst).Nodup := by
  cases logged : arguments.logFile with
  | none =>
      rw [settings, logged]
      exact (by decide : [ValueOption.data, .delimiter, .layout, .logLevel].Nodup)
  | some path =>
      rw [settings, logged]
      exact (by decide : [ValueOption.data, .delimiter, .layout, .logLevel, .logFile].Nodup)

theorem set_data (filled : value ≠ "") :
    arguments.set .data value = .ok { arguments with data := value } := by
  obtain ⟨first, rest, text⟩ := List.exists_cons_of_ne_nil (String.toList_eq_nil_iff.not.mpr filled)
  simp only [set, text]

theorem set_logFile (filled : value ≠ "") :
    arguments.set .logFile value = .ok { arguments with logFile := some value } := by
  obtain ⟨first, rest, text⟩ := List.exists_cons_of_ne_nil (String.toList_eq_nil_iff.not.mpr filled)
  simp only [set, text]

theorem set_delimiter (character : Char) :
    arguments.set .delimiter (String.singleton character) =
      .ok { arguments with format := { arguments.format with delimiter := character } } := by
  simp only [set, String.toList_singleton]

theorem set_logLevel (text : String) :
    arguments.set .logLevel text = .ok { arguments with logLevel := text } := by
  rw [set]

theorem set_layout (layout : Layout) :
    arguments.set .layout (layoutName layout) = .ok { arguments with layout := layout } := by
  cases layout <;> rfl

/-- Setting all that arguments say gives them back, but for queries and strictness. -/
theorem setAll_settings (placed : arguments.data ≠ "") (logged : arguments.logFile ≠ some "") :
    setAll { format := { strict := arguments.format.strict } } arguments.settings =
      .ok (arguments.asking []) := by
  obtain ⟨data, ⟨delimiter, strict⟩, layout, logLevel, logFile, queries⟩ := arguments
  cases logFile with
  | none =>
      simp only [setAll, settings, Option.map_none, Option.toList_none, List.append_nil,
        List.foldlM_cons, List.foldlM_nil, set_data placed, set_delimiter, set_layout,
        set_logLevel]
      rfl
  | some path =>
      have filled : path ≠ "" := fun empty => logged (congrArg some empty)
      simp only [setAll, settings, Option.map_some, Option.toList_some, List.cons_append,
        List.nil_append, List.foldlM_cons, List.foldlM_nil, set_data placed, set_delimiter,
        set_layout, set_logLevel, set_logFile filled]
      rfl

/-- Every choice of settings and queries can be written, and is read back.  Only
an empty path cannot be given, of the data as of the log. -/
theorem parse_written (placed : arguments.data ≠ "") (logged : arguments.logFile ≠ some "") :
    parse arguments.written = .ok arguments := by
  have read := parseFrom_settings (fun _ _ => List.not_mem_nil) arguments.nodup_map_fst_settings
    (setAll_settings placed logged) arguments.queries
  have strictness : parse arguments.written =
      parseFrom ⟨{ format := { strict := arguments.format.strict } }, [], none⟩
        ((arguments.settings.map fun setting => setting.1.assigned setting.2) ++
          "--" :: arguments.queries) := by
    unfold parse written
    cases arguments.format.strict <;> rfl
  rw [strictness]
  exact read

end Arguments
end CommandLine
end Tabular
