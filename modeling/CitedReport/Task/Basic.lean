import CitedReport.Completion
import CitedReport.Prompt
import CitedReport.Task.Finding
import CitedReport.Toolbox

/-!
# A research task

One question group is researched in a conversation with a model that calls tools until it answers
without a call or its turns are used up. Every call is answered, in order, and everything the tools
gave is kept. A task does not fail because of its tools; only when the model cannot be asked does it
end in a failure note.
-/

namespace CitedReport.Task

/-- What a task has gathered. -/
structure Progress where
  /-- The conversation so far. -/
  messages : List Message
  /-- The passages of the finding. -/
  sections : List String := []
  /-- One note for each tool call. -/
  rawNotes : List String := []
  /-- The sources so far. -/
  sources : LocalSources := {}

/-- What a call is about: its query, URL or question, or else all of its arguments. -/
def describeArguments (arguments : Json.Sorted) : String :=
  (["query", "url", "question"].findSome? fun key =>
    (arguments.json.member? key).bind Json.string?).getD arguments.text

/-- Takes in the result of a call. -/
def Progress.take (p : Progress) (call : ToolCall) (result : Except ToolError ToolOutput) :
    Progress :=
  match result with
  | .ok output =>
    let (recorded, sources) :=
      recordOutput call.name (describeArguments call.arguments) output p.sources
    { messages := p.messages ++ [.toolResult call.id recorded.reply false]
      sections := p.sections ++ [recorded.passage]
      rawNotes := p.rawNotes ++ [output.content]
      sources }
  | .error e =>
    let note := call.name ++ " failed: " ++ e.reason
    { p with
      messages := p.messages ++ [.toolResult call.id note true]
      rawNotes := p.rawNotes ++ [note] }

/-- Makes the calls of one turn in order. -/
def runCalls (tools : Toolbox) : Progress → List ToolCall → Dialogue Progress
  | p, [] => return p
  | p, call :: rest => do
    let result ← tools.execute call.name call.arguments
    runCalls tools (p.take call result) rest

/-- The conversation, for at most so many turns. Its value is what was gathered and the model's
closing summary. -/
def converse (s : ModelSettings) (tools : Toolbox) :
    Nat → Progress → Dialogue (Except ModelError (Progress × Option String))
  | 0, p => return .ok (p, none)
  | turns + 1, p => do
    match ← s.think p.messages (some tools.definitions) with
    | .error e => return .error e
    | .ok c =>
      match c.message.content.toolCalls with
      | [] => return .ok (p, Text.trimmed? c.message.content.joinedText)
      | calls => do
        let p ← runCalls tools { p with messages := p.messages ++ [c.message] } calls
        converse s tools turns p

/-- The conversation before the model's first turn. -/
def opening (tools : Toolbox) (group : String) (subject : SubjectType) : List Message :=
  [.system Prompt.researcherSystem, .user (Prompt.researcher group subject tools.names)]

/-- Researches a question group in at most `maxTurns` turns of the model, but at least one. -/
def execute (s : ModelSettings) (tools : Toolbox) (maxTurns : Nat) (group : String)
    (subject : SubjectType) : Dialogue TaskResult := do
  match ← converse s tools (max 1 maxTurns) { messages := opening tools group subject } with
  | .error e => return .failed group e.message
  | .ok (p, summary) =>
    return { group, finding := assemble group p.sections summary p.sources, rawNotes := p.rawNotes }

end CitedReport.Task
