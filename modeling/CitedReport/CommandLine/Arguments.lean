import CitedReport.Chars.Basic
import CitedReport.Number.Binary
import CitedReport.Subject

/-!
# Command-line arguments

The arguments are a query, options and perhaps a command. An option has a long name and may have a
letter; letters can be strung together behind one dash, and a value follows its option in the next
argument, behind an equals sign, or right after the letter. An option that is no count is given once
at most. After `--` there are no more options or commands.
-/

namespace CitedReport.CommandLine

/-- What can be done with the configuration. -/
inductive ConfigCommand where
  /-- Writes a file with the default values. -/
  | create
  /-- Shows the configuration in force. -/
  | display
deriving DecidableEq, Repr

/-- What the arguments ask for. -/
structure Arguments where
  /-- What to research. -/
  query : Option String := none
  /-- The kind of subject. -/
  subject : SubjectType := .company
  /-- What the report should emphasize. -/
  focus : Option String := none
  /-- Whether no question is asked back. -/
  noClarify : Bool := false
  /-- The most rounds of research. -/
  maxIterations : Option Nat := none
  /-- The most sources. -/
  maxSources : Option Nat := none
  /-- The file for the report. -/
  output : Option String := none
  /-- Whether the outcome is printed in JSON. -/
  json : Bool := false
  /-- The directory of the workspace. -/
  workspace : String := "."
  /-- How much is logged. -/
  verbosity : Nat := 0
  /-- Whether no progress is shown. -/
  quiet : Bool := false
  /-- What to do with the configuration, instead of research. -/
  command : Option ConfigCommand := none
deriving DecidableEq, Repr

/-- Why arguments are not acted on. -/
inductive Refusal where
  /-- They make no sense. -/
  | misused
  /-- They ask for help. -/
  | help
  /-- They ask for the version. -/
  | version
deriving DecidableEq, Repr

/-! ## Options -/

/-- What an option does. -/
inductive Effect where
  /-- It switches something on. -/
  | switch (put : Arguments → Arguments)
  /-- It can be given again and again. -/
  | count (put : Arguments → Arguments)
  /-- It takes a value, which may not fit. -/
  | value (take : String → Arguments → Option Arguments)
  /-- It ends the reading. -/
  | stop (reason : Refusal)

/-- An option. -/
structure Flag where
  /-- Its long name. -/
  name : String
  /-- Its letter. -/
  letter : Option Char := none
  /-- What it does. -/
  effect : Effect
  /-- What the user is told about it. -/
  summary : String

/-- A whole number. -/
def number? (s : String) : Option Nat := Word.unsigned? s.toList

/-- The name of a file, which is not empty. -/
def path? (s : String) : Option String := if s = "" then none else some s

/-- The options that ask for help. -/
def helpFlag : Flag :=
  { name := "help", letter := some 'h', effect := .stop .help, summary := "Print help" }

/-- The options of the program. -/
def flags : List Flag :=
  [{ name := "subject", letter := some 's'
     effect := .value fun v a => (SubjectType.parse v).toOption.map fun t => { a with subject := t }
     summary := "Kind of subject: company, person, or project [default: company]" },
   { name := "focus"
     effect := .value fun v a => some { a with focus := some v }
     summary := "Aspect of the subject the report should emphasize" },
   { name := "no-clarify"
     effect := .switch fun a => { a with noClarify := true }
     summary := "Skip the clarification gate" },
   { name := "max-iterations"
     effect := .value fun v a => (number? v).map fun n => { a with maxIterations := some n }
     summary := "Maximum supervisor rounds" },
   { name := "max-sources"
     effect := .value fun v a => (number? v).map fun n => { a with maxSources := some n }
     summary := "Maximum sources kept in the report" },
   { name := "output", letter := some 'o'
     effect := .value fun v a => (path? v).map fun p => { a with output := some p }
     summary := "Write the report to this file instead of stdout" },
   { name := "json"
     effect := .switch fun a => { a with json := true }
     summary := "Print the outcome and run summary as JSON" },
   { name := "workspace", letter := some 'w'
     effect := .value fun v a => (path? v).map fun p => { a with workspace := p }
     summary := "Workspace directory (holds .dossier/config.toml) [default: .]" },
   { name := "verbose", letter := some 'v'
     effect := .count fun a => { a with verbosity := a.verbosity + 1 }
     summary := "Increase verbosity (-v, -vv)" },
   { name := "quiet", letter := some 'q'
     effect := .switch fun a => { a with quiet := true }
     summary := "Suppress progress output" },
   helpFlag,
   { name := "version", letter := some 'V', effect := .stop .version, summary := "Print version" }]

/-! ## Reading -/

/-- Arguments as far as they are read. -/
structure Draft where
  /-- What they ask for. -/
  arguments : Arguments := {}
  /-- The options that must not be given again. -/
  used : List String := []
  /-- The option whose value comes next. -/
  waiting : Option Flag := none

namespace Draft

/-- Notes that an option is given, unless it was before. -/
def use (d : Draft) (f : Flag) : Except Refusal Draft :=
  if d.used.contains f.name then .error .misused else .ok { d with used := f.name :: d.used }

/-- Gives an option its value. -/
def take (d : Draft) (f : Flag) (v : String) : Except Refusal Draft :=
  match f.effect with
  | .value take =>
    match take v d.arguments with
    | some a => ({ d with arguments := a, waiting := none } : Draft).use f
    | none => .error .misused
  | _ => .error .misused

/-- Gives an option without a value in its own argument. -/
def give (d : Draft) (f : Flag) : Except Refusal Draft :=
  match f.effect with
  | .switch put => ({ d with arguments := put d.arguments } : Draft).use f
  | .count put => .ok { d with arguments := put d.arguments }
  | .value _ => .ok { d with waiting := some f }
  | .stop reason => .error reason

/-- Reads a long name, perhaps with a value behind an equals sign. -/
def long (d : Draft) (cs : List Char) : Except Refusal Draft :=
  let (name, v) :=
    match Chars.splitFirst? ['='] cs with
    | some (name, v) => (name, some (String.ofList v))
    | none => (cs, none)
  match flags.find? fun f => f.name.toList = name, v with
  | none, _ => .error .misused
  | some f, none => d.give f
  | some f, some v => d.take f v

/-- Reads letters behind a dash, of which one with a value takes the rest. -/
def letters : Draft → List Char → Except Refusal Draft
  | d, [] => .ok d
  | d, c :: cs =>
    match flags.find? fun f => f.letter = some c with
    | none => .error .misused
    | some f =>
      match f.effect, cs with
      | .value _, '=' :: v => d.take f (String.ofList v)
      | .value _, _ :: _ => d.take f (String.ofList cs)
      | _, _ =>
        match d.give f with
        | .ok d => letters d cs
        | .error e => .error e

/-- Reads the query. -/
def query (d : Draft) (q : String) : Except Refusal Draft :=
  match d.arguments.query with
  | none => .ok { d with arguments := { d.arguments with query := some q } }
  | some _ => .error .misused

end Draft

/-- Whether an argument asks for help about a command. -/
def asksHelp (argument : String) : Bool := argument = "--help" || Text.startsWith "-h" argument

/-- Reads what about the configuration to give help about. -/
def configTopic : List String → Refusal
  | [] => .help
  | [topic] => if topic = "init" ∨ topic = "show" ∨ topic = "help" then .help else .misused
  | _ => .misused

/-- Reads what to give help about. -/
def helpTopic : List String → Refusal
  | [] => .help
  | "config" :: rest => configTopic rest
  | [topic] => if topic = "help" then .help else .misused
  | _ => .misused

/-- Reads what to do with the configuration. -/
def configCommand (a : Arguments) : List String → Except Refusal Arguments
  | [] => .error .misused
  | word :: rest =>
    let chosen (c : ConfigCommand) : Except Refusal Arguments :=
      match rest with
      | [] => .ok { a with command := some c }
      | ["--"] => .ok { a with command := some c }
      | next :: _ => if asksHelp next then .error .help else .error .misused
    if asksHelp word then .error .help
    else if word = "help" then .error (configTopic rest)
    else if word = "init" then chosen .create
    else if word = "show" then chosen .display
    else .error .misused

/-- Reads arguments after `--`. -/
def readRest (d : Draft) : List String → Except Refusal Arguments
  | [] => .ok d.arguments
  | word :: rest =>
    match d.query word with
    | .ok d => readRest d rest
    | .error e => .error e

/-- Whether an argument is an option and not a value. -/
def isOption : List Char → Bool
  | '-' :: _ :: _ => true
  | _ => false

/-- Reads arguments one after the other. -/
def read (d : Draft) : List String → Except Refusal Arguments
  | [] => if d.waiting.isSome then .error .misused else .ok d.arguments
  | word :: rest =>
    let next (r : Except Refusal Draft) : Except Refusal Arguments :=
      match r with
      | .ok d => read d rest
      | .error e => .error e
    match d.waiting with
    | some f => if isOption word.toList then .error .misused else next (d.take f word)
    | none =>
      match word.toList with
      | ['-', '-'] => readRest d rest
      | '-' :: '-' :: name => next (d.long name)
      | '-' :: c :: cs => next (d.letters (c :: cs))
      | _ =>
        if word = "config" then configCommand d.arguments rest
        else if word = "help" then .error (helpTopic rest)
        else next (d.query word)

/-- Reads the arguments of the program. -/
def parse (words : List String) : Except Refusal Arguments := read {} words

end CitedReport.CommandLine
