import CitedReport.CommandLine.Arguments
import CitedReport.CommandLine.Progress
import CitedReport.Config.EnvironmentFile
import CitedReport.Config.Layers
import CitedReport.Equipment

/-!
# The program

What the program does for its arguments: it shows or writes a configuration, or it carries out one
request and prints the outcome. How it ends is a value; only the questions of the run itself go to
the outside. The exit code is 0 for a report, 2 for a question to the user or arguments that make no
sense, and 1 for a failure.
-/

namespace CitedReport.CommandLine

/-- How the program ends. -/
structure Ending where
  /-- The exit code. -/
  code : Nat := 0
  /-- What is printed. -/
  output : String := ""
  /-- The lines for the user besides that. -/
  notes : List String := []
  /-- A file that is written, with its text. -/
  file : Option (String × String) := none
deriving DecidableEq, Repr

/-- What the program finds around it. -/
structure Surroundings where
  /-- The environment. -/
  environment : Environment := {}
  /-- The directory of the workspace. -/
  workspace : String
  /-- The text of the user's file. -/
  userFile : Option String := none
  /-- The text of the workspace's file. -/
  workspaceFile : Option String := none
  /-- The identifier for a run. -/
  id : Identifier

namespace Ending

/-- The program fails. -/
def failed (message : String) : Ending := { code := 1, notes := ["Error: " ++ message] }

/-- The program prints a line. -/
def printed (line : String) : Ending := { output := line ++ "\n" }

/-- A text is printed, or written to a file. -/
def emitted (text : String) : Option String → Ending
  | none => printed text
  | some path => { notes := ["Wrote " ++ path], file := some (path, text) }

/-- The same ending with more for the user. -/
def noting (e : Ending) (notes : List String) : Ending := { e with notes := e.notes ++ notes }

end Ending

/-! ## The configuration -/

/-- The layers of the configuration. -/
def Surroundings.layers (s : Surroundings) : Config.Layers :=
  { user := s.userFile, workspace := s.workspaceFile, environment := s.environment }

/-- What the user is told about a configuration that does not fit. -/
def misfit (path : List String) : String :=
  if path = [] then "a configuration file is not valid TOML"
  else "invalid value for setting " ++ Text.join "." path

/-- Writes or shows the configuration. -/
def configure (s : Surroundings) : ConfigCommand → Ending
  | .create =>
    let place := Config.filePlace s.workspace
    if s.workspaceFile.isSome then .printed ("Configuration file already exists at: " ++ place)
    else
      { Ending.printed ("Created default configuration at: " ++ place) with
        file := (Config.fileText? {}).map fun text => (place, text) }
  | .display =>
    match Config.ofLayers s.layers with
    | .ok c =>
      match Config.fileText? c with
      | some text => .printed text
      | none => .failed "out-of-range value for u64 type"
    | .error path => .failed ("Failed to load config: " ++ misfit path)

/-! ## A run -/

/-- The exit code for an outcome. -/
def exitCode : RunOutcome → Nat
  | .report _ => 0
  | .clarification _ => 2
  | .failed _ => 1

/-- A duration in seconds with one place. -/
def secondsText (ms : Int) : String :=
  let tenths := roundHalfEven ms.natAbs 100
  (if ms < 0 then "-" else "") ++ toString (tenths / 10) ++ "." ++ toString (tenths % 10)

/-- The notes under a report. -/
def reportNotes (report : Report) (summary : RunSummary) : List String :=
  (if report.status = .exhausted then
    [coloured .yellow "Note:" ++ " report was not accepted by review (" ++
      toString report.revisionCount ++ " revision(s))"]
  else []) ++
    [coloured .gray (toString report.sources.length ++ " sources, " ++
      toString summary.usage.total.toNat ++ " tokens, " ++ secondsText summary.elapsedMs ++ "s")]

/-- How the program ends after a run. -/
def conclude (a : Arguments) (outcome : RunOutcome) (summary : RunSummary) : Ending :=
  let ending :=
    if a.json then
      Ending.emitted
        (Json.pretty (.object [("outcome", outcome.toJson), ("summary", summary.toJson)])) a.output
    else
      match outcome with
      | .report report =>
        (Ending.emitted report.content a.output).noting
          (if a.quiet then [] else reportNotes report summary)
      | .clarification question => Ending.printed question
      | .failed message => { notes := ["Error: " ++ message] }
  { ending with code := exitCode outcome }

/-- The configuration with what the arguments say instead. -/
def adjust (a : Arguments) (c : Config) : Config :=
  let r := c.research
  { c with
    research :=
      { r with
        clarificationEnabled := r.clarificationEnabled && !a.noClarify
        maxResearcherIterations := a.maxIterations.getD r.maxResearcherIterations
        maxSources := a.maxSources.getD r.maxSources } }

/-- Researches a query. -/
def research (s : Surroundings) (a : Arguments) (query : String) : Dialogue Ending := do
  match (Config.ofLayers s.layers).map (adjust a) with
  | .error path => return .failed ("Configuration error: " ++ misfit path)
  | .ok c =>
    match c.research.validate with
    | .error e => return .failed e.message
    | .ok () =>
      match Equipment.ofConfig c s.environment with
      | .error e => return .failed e.message
      | .ok q =>
        let request : RunRequest := { query, subject := a.subject }
        let request := (a.focus.map request.withFocusArea).getD request
        let (outcome, summary) ← q.carryOut c s.id request
        return conclude a outcome summary

/-- Whether progress is shown. -/
def Arguments.showsProgress (a : Arguments) : Bool := !a.quiet && !a.json

/-- Does what the arguments ask for. -/
def run (s : Surroundings) (a : Arguments) : Dialogue Ending :=
  match a.command with
  | some command => return configure s command
  | none =>
    match a.query.bind Text.trimmed? with
    | some query => research s a query
    | none => return .failed "a research query is required (see \x60dossier --help\x60)"

/-! ## Help -/

/-- The version. -/
def versionLine : String := "dossier 0.3.0"

/-- An option in the help. -/
def flagLine (f : Flag) : String :=
  let letter :=
    match f.letter with
    | some c => "-" ++ String.ofList [c] ++ ", "
    | none => "    "
  let value :=
    match f.effect with
    | .value _ =>
      " <" ++ String.ofList (f.name.toList.map fun c => if c = '-' then '_' else c.toUpper) ++ ">"
    | .count _ => "..."
    | _ => ""
  let names := "  " ++ letter ++ "--" ++ f.name ++ value
  names ++ String.ofList (List.replicate (41 - names.length) ' ') ++ f.summary

/-- The help. -/
def helpText : String :=
  Text.join "\n"
    (["Dossier: cited profile reports from a one-line query", "",
      "Usage: dossier [OPTIONS] [QUERY] [COMMAND]", "", "Commands:",
      "  config  Manage configuration (init, show)", "", "Arguments:",
      "  [QUERY]  What to research, e.g. \"Acme Corp\" or \"www.acme.com\"", "", "Options:"] ++
      flags.map flagLine)

/-- What is said about arguments that are not acted on. -/
def refuse : Refusal → Ending
  | .version => .printed versionLine
  | .help => .printed helpText
  | .misused =>
    { code := 2
      notes := ["error: the arguments make no sense", "",
        "For more information, try '--help'."] }

end CitedReport.CommandLine
