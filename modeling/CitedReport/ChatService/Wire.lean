import CitedReport.Failure
import CitedReport.Json.Parser
import CitedReport.Message.Basic
import CitedReport.Number.Binary

/-!
# Conversations on the wire

How a conversation is written for a chat service, and how the service's answer is read. A model's
turn that was read from an answer is written in the next request as it came: the same text and the
same calls with the same arguments.
-/

namespace CitedReport.ChatService

/-! ## Writing -/

/-- A tool call; its arguments are written as JSON text. -/
def ofCall (c : ToolCall) : Json :=
  .object [("id", .string c.id), ("type", .string "function"),
    ("function", .object [("name", .string c.name), ("arguments", .string c.arguments.text)])]

/-- The calls among several parts. -/
def callsAmong (parts : List Content) : List ToolCall :=
  parts.filterMap fun
    | .toolCall c => some c
    | _ => none

/-- A message. -/
def ofMessage (m : Message) : Json :=
  match m.content with
  | .text text => .object [("role", .string m.role.name), ("content", .string text)]
  | .toolCall c =>
    .object [("role", .string Role.assistant.name), ("content", .null),
      ("tool_calls", .array [ofCall c])]
  | .toolResult callId output _ =>
    .object [("role", .string Role.tool.name), ("tool_call_id", .string callId),
      ("content", .string output)]
  | .multiPart parts =>
    let texts := parts.filterMap Content.asText?
    match callsAmong parts with
    | [] =>
      .object [("role", .string m.role.name), ("content", .string (Text.join "\n" texts))]
    | calls =>
      .object [("role", .string Role.assistant.name),
        ("content", if texts = [] then .null else .string (Text.join "\n" texts)),
        ("tool_calls", Json.ofList ofCall calls)]

/-- A tool on offer. -/
def ofDefinition (d : ToolDefinition) : Json :=
  .object [("type", .string "function"),
    ("function", .object [("name", .string d.name), ("description", .string d.description),
      ("parameters", d.parameters.json)])]

/-- A number of 32 bits, as the number of 64 bits that it is. -/
def ofSingle (x : Single) : Json := if x.isFinite then .number (.double x.convert) else .null

/-- What is sent for a request, given what is asked for when the request does not say. -/
def requestBody (model : String) (maxTokens : Nat) (r : CompletionRequest) : Json.Sorted :=
  let tools :=
    match r.tools with
    | some (d :: rest) => [("tools", Json.ofList ofDefinition (d :: rest))]
    | _ => []
  .of (.object ([("model", .string (r.model.getD model)),
    ("messages", Json.ofList ofMessage r.messages), ("temperature", ofSingle r.temperature),
    ("max_tokens", .nat (r.maxTokens.getD maxTokens)), ("stream", .bool false)] ++ tools))

/-! ## Reading -/

/-- Reads a tool call; arguments that are no JSON text count as none. -/
def call? (j : Json) : Option ToolCall := do
  let id ← (j.member? "id").bind Json.string?
  let f ← j.member? "function"
  let name ← (f.member? "name").bind Json.string?
  let written ← (f.member? "arguments").bind Json.string?
  return { id, name, arguments := (Json.Sorted.parse? written).getD (.of (.object [])) }

/-- What a message with a text and calls carries: the text alone, or the text, unless it is empty,
and the calls. -/
def contentOf (text : String) (calls : List ToolCall) : Content :=
  match calls with
  | [] => .text text
  | calls => .multiPart ((if text = "" then [] else [.text text]) ++ calls.map Content.toolCall)

/-- A number of tokens, zero if there is none. -/
def tokens (body : Json) (key : String) : UInt64 :=
  (((body.member? "usage").bind fun u => u.member? key).bind Json.word?).getD 0

/-- Reads the answer of a service; `model` is the model that was asked. -/
def readAnswer (model : String) (body : Json) : Except ModelError Completion :=
  match ((body.member? "choices").bind Json.items?).bind List.head? with
  | none => .error (.responseParse "No choices in response")
  | some choice =>
    match choice.member? "message" with
    | none => .error (.responseParse "No message in choice")
    | some message =>
      let text := ((message.member? "content").bind Json.string?).getD ""
      let calls := (((message.member? "tool_calls").bind Json.items?).getD []).filterMap call?
      .ok
        { message := ⟨.assistant, contentOf text calls⟩
          usage := ⟨tokens body "prompt_tokens", tokens body "completion_tokens"⟩
          model := ((body.member? "model").bind Json.string?).getD model
          finishReason := (choice.member? "finish_reason").bind Json.string? }

/-- How many seconds a service asks to wait, in words such as `try again in 7s`. -/
def waitIn? (message : String) : Option Nat :=
  let cs := message.toList
  let last :=
    match Chars.splitLast? "in ".toList cs with
    | some (_, after) => after
    | none => cs
  Word.unsigned? (Chars.dropEndWhile (· == 's') (Chars.dropEndWhile (· == '.') (Chars.trim last)))

/-- What the reply to a refused request means. -/
def refusal (status : Nat) (body : String) : ModelError :=
  if status = 401 ∨ status = 403 then .authFailed "OpenAI-compatible"
  else if status = 429 then
    let words := do
      let j ← Json.Sorted.parse? body
      let e ← j.json.member? "error"
      (e.member? "message").bind Json.string?
    .rateLimited ((words.bind waitIn?).getD 5)
  else if 500 ≤ status then
    .connection ("Server error (" ++ toString status ++ "): " ++ body)
  else .apiRequest ("HTTP " ++ toString status ++ ": " ++ body)

end CitedReport.ChatService
