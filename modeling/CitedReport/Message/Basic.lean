import CitedReport.Message.Content

/-!
# Conversations with a model

Messages, the tools a model is offered, the request for one completion, and the completion that
answers it.
-/

namespace CitedReport

/-- Who speaks in a message. -/
inductive Role where
  /-- The instructions. -/
  | system
  /-- The one who asks. -/
  | user
  /-- The model. -/
  | assistant
  /-- A tool that the model called. -/
  | tool
deriving DecidableEq, Repr, Inhabited

namespace Role

/-- The word for a role. -/
def name : Role → String
  | .system => "system"
  | .user => "user"
  | .assistant => "assistant"
  | .tool => "tool"

/-- The role with this word. -/
def ofName? (s : String) : Option Role :=
  [system, user, assistant, tool].find? fun r => r.name = s

/-- A role in JSON. -/
def toJson (r : Role) : Json := .string r.name

/-- Reads a role. -/
def ofJson? (j : Json) : Option Role := (Json.unitName? j).bind ofName?

end Role

/-- One message of a conversation. -/
structure Message where
  /-- Who speaks. -/
  role : Role
  /-- What is said. -/
  content : Content
deriving Inhabited

namespace Message

/-- The instructions for a model. -/
def system (text : String) : Message := ⟨.system, .text text⟩

/-- A message to a model. -/
def user (text : String) : Message := ⟨.user, .text text⟩

/-- A text by a model. -/
def assistant (text : String) : Message := ⟨.assistant, .text text⟩

/-- The result of a tool call. -/
def toolResult (callId output : String) (isError : Bool) : Message :=
  ⟨.tool, .toolResult callId output isError⟩

end Message

/-- A tool as it is offered to a model. -/
structure ToolDefinition where
  /-- Its name. -/
  name : String
  /-- What it does. -/
  description : String
  /-- The form of its arguments. -/
  parameters : Json.Sorted

namespace ToolDefinition

/-- A tool definition in JSON. -/
def toJson (d : ToolDefinition) : Json :=
  .object [("name", .string d.name), ("description", .string d.description),
    ("parameters", d.parameters.json)]

/-- Reads a tool definition. -/
def ofJson? (j : Json) : Option ToolDefinition := do
  let r ← Json.record? ["name", "description", "parameters"] j
  let name ← r.required "name" Json.string?
  let description ← r.required "description" Json.string?
  let parameters ← r.required "parameters" Json.Sorted.of?
  return { name, description, parameters }

end ToolDefinition

/-- How many tokens went into completions and came out of them, each counted in a word. -/
structure TokenUsage where
  /-- Tokens sent. -/
  input : UInt64 := 0
  /-- Tokens received. -/
  output : UInt64 := 0
deriving DecidableEq, Repr, Inhabited

namespace TokenUsage

/-- All tokens, counted in a word as well. -/
def total (u : TokenUsage) : UInt64 := u.input + u.output

/-- The tokens of two usages together; a count that a word cannot hold starts again from zero. -/
def add (u v : TokenUsage) : TokenUsage := ⟨u.input + v.input, u.output + v.output⟩

instance : Add TokenUsage := ⟨add⟩

/-- A usage in JSON. -/
def toJson (u : TokenUsage) : Json :=
  .object [("input_tokens", .nat u.input), ("output_tokens", .nat u.output)]

/-- Reads a usage. -/
def ofJson? (j : Json) : Option TokenUsage := do
  let r ← Json.record? ["input_tokens", "output_tokens"] j
  let input ← r.required "input_tokens" Json.word?
  let output ← r.required "output_tokens" Json.word?
  return { input, output }

end TokenUsage

/-- The temperature that a request has unless it says otherwise: seven tenths. -/
def defaultTemperature : Single := Binary.ofRatio false 7 10

/-- A request for one completion. -/
structure CompletionRequest where
  /-- The conversation so far. -/
  messages : List Message := []
  /-- The tools on offer, if any. -/
  tools : Option (List ToolDefinition) := none
  /-- How freely the model may choose its words. -/
  temperature : Single := defaultTemperature
  /-- The most tokens it may answer with. -/
  maxTokens : Option Nat := none
  /-- The model to ask, if not the usual one. -/
  model : Option String := none

namespace CompletionRequest

/-- The text of the first system message, if that message is text. -/
def systemText? (r : CompletionRequest) : Option String :=
  (r.messages.find? (fun m => m.role = .system)).bind (fun m => m.content.asText?)

/-- The text of the last user message, if that message is text. -/
def lastUserText? (r : CompletionRequest) : Option String :=
  (r.messages.reverse.find? (fun m => m.role = .user)).bind (fun m => m.content.asText?)

end CompletionRequest

/-- A completion by a model. -/
structure Completion where
  /-- What the model says. -/
  message : Message
  /-- What it cost. -/
  usage : TokenUsage
  /-- The model that answered. -/
  model : String
  /-- Why the model stopped. -/
  finishReason : Option String

end CitedReport
