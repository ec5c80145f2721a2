import CitedReport.Json.Record
import CitedReport.Json.Printer

/-!
# What a message carries

A message of a conversation with a model carries text, a request to call a tool, the result of such
a call, or several of these. `toJson` and `ofJson?` give its written form, which names the
alternative in a member `type`.
-/

namespace CitedReport

/-- A tool call that a model asks for. -/
structure ToolCall where
  /-- The name by which its result refers to it. -/
  id : String
  /-- The tool. -/
  name : String
  /-- What the tool is called with. -/
  arguments : Json.Sorted

/-- What a message carries. -/
inductive Content where
  /-- Text. -/
  | text (text : String)
  /-- A tool call. -/
  | toolCall (call : ToolCall)
  /-- The result of the tool call with an id, and whether the call failed. -/
  | toolResult (callId : String) (output : String) (isError : Bool)
  /-- Several parts. -/
  | multiPart (parts : List Content)
deriving Inhabited

namespace Content

/-- The text of a text. -/
def asText? : Content → Option String
  | .text s => some s
  | _ => none

/-- The text of a text, or the texts among several parts on lines of their own. -/
def joinedText : Content → String
  | .text s => s
  | .multiPart parts => String.intercalate "\n" (parts.filterMap asText?)
  | _ => ""

mutual

/-- All tool calls, in the order the model gave them. -/
def toolCalls : Content → List ToolCall
  | .toolCall call => [call]
  | .multiPart parts => toolCallsOf parts
  | _ => []

/-- The tool calls of several parts. -/
def toolCallsOf : List Content → List ToolCall
  | [] => []
  | c :: rest => toolCalls c ++ toolCallsOf rest

end

mutual

/-- The length in bytes that a content is taken to have when the size of a conversation is
estimated. -/
def byteLength : Content → Nat
  | .text s => s.utf8ByteSize
  | .toolCall call => call.name.utf8ByteSize + call.arguments.text.utf8ByteSize
  | .toolResult _ output _ => output.utf8ByteSize
  | .multiPart parts => byteLengthOf parts

/-- The length of several parts. -/
def byteLengthOf : List Content → Nat
  | [] => 0
  | c :: rest => byteLength c + byteLengthOf rest

end

mutual

/-- A content in JSON. -/
def toJson : Content → Json
  | .text s => .object [("type", .string "text"), ("text", .string s)]
  | .toolCall call =>
    .object [("type", .string "tool_call"), ("id", .string call.id), ("name", .string call.name),
      ("arguments", call.arguments.json)]
  | .toolResult callId output isError =>
    .object [("type", .string "tool_result"), ("call_id", .string callId),
      ("output", .string output), ("is_error", .bool isError)]
  | .multiPart parts => .object [("type", .string "multi_part"), ("parts", .array (toJsonOf parts))]

/-- Several parts in JSON. -/
def toJsonOf : List Content → List Json
  | [] => []
  | c :: rest => toJson c :: toJsonOf rest

end

/-- The names of the kinds of content. -/
def kinds : List String := ["text", "tool_call", "tool_result", "multi_part"]

/-- Reads a content whose parts nest less than `fuel` deep, given how its kind is read. -/
def read : Nat → (Json → Option String) → Json → Option Content
  | 0, _, _ => none
  | fuel + 1, kind?, j => do
    let (name, body) ← Json.taggedBy? kind? "type" j
    if name = "text" then
      let r ← Json.record? ["text"] body
      return .text (← r.required "text" Json.string?)
    else if name = "tool_call" then
      let r ← Json.record? ["id", "name", "arguments"] body
      let id ← r.required "id" Json.string?
      let tool ← r.required "name" Json.string?
      let arguments ← r.required "arguments" Json.Sorted.of?
      return .toolCall { id, name := tool, arguments }
    else if name = "tool_result" then
      let r ← Json.record? ["call_id", "output", "is_error"] body
      let callId ← r.required "call_id" Json.string?
      let output ← r.required "output" Json.string?
      let isError ← r.required "is_error" Json.bool?
      return .toolResult callId output isError
    else if name = "multi_part" then
      let r ← Json.record? ["parts"] body
      return .multiPart (← r.required "parts" (Json.listOf (read fuel (Json.nameAside? kinds))))
    else none

/-- Reads a content. -/
def ofJson? (j : Json) : Option Content := read (j.nesting + 1) Json.string? j

end Content

end CitedReport
