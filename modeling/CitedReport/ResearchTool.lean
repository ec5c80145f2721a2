import CitedReport.Toolbox

/-!
# Research tools

A tool that gathers evidence over HTTP: what a model is told about it, and the dialogue that a call
of it is. The rules that the tools share about arguments and replies are here.
-/

namespace CitedReport

/-- A tool together with what a call of it does. -/
structure ResearchTool where
  /-- The tool. -/
  tool : Tool
  /-- A call. -/
  call : Json.Sorted → Dialogue (Except ToolError ToolOutput)

/-- What the tools call themselves on the network. -/
def userAgent : String := "Dossier/0.3.0"

namespace ResearchTool

/-- A failure of a tool that tried. -/
def failed (tool message : String) : ToolError := .executionFailed tool message

/-- A text that must be among the arguments and not be blank. -/
def requiredText (tool : String) (arguments : Json.Sorted) (key : String) :
    Except ToolError String :=
  match ((arguments.json.member? key).bind Json.string?).bind Text.trimmed? with
  | some text => .ok text
  | none => .error (.invalidArguments tool ("Missing required parameter: " ++ key))

/-- A reply that is what was asked for; any other becomes a failure that quotes the beginning of its
body. -/
def checkStatus (tool : String) (reply : HttpReply) : Except ToolError HttpReply :=
  if reply.isSuccess then .ok reply
  else
    .error (failed tool ("HTTP " ++ reply.statusText ++ ": " ++
      Text.trim (Text.take 200 (reply.body.getD ""))))

/-- Sends a request and checks what comes back; `what` says what failed. -/
def send (tool what : String) (request : HttpRequest) : Dialogue (Except ToolError HttpReply) := do
  match ← Dialogue.fetch { request with userAgent := some userAgent } with
  | .error e => return .error (failed tool (what ++ ": " ++ e.message))
  | .ok reply => return checkStatus tool reply

/-- The form of arguments that are an object: its members, and which of them must be there. -/
def objectSchema (members : List (String × Json)) (required : List String) : Json.Sorted :=
  .of (.object [("type", .string "object"), ("properties", .object members),
    ("required", Json.ofList Json.string required)])

/-- The form of a text among the arguments. -/
def textSchema (description : String) : Json :=
  .object [("type", .string "string"), ("description", .string description)]

end ResearchTool

end CitedReport
