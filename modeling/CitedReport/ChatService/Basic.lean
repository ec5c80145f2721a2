import CitedReport.ChatService.Wire
import CitedReport.Config.Basic
import CitedReport.Config.Environment

/-!
# A chat service

Where a model is asked, with which key, and what is made of the reply. Any service that takes
conversations in the common form will do; one on this machine needs no key.
-/

namespace CitedReport

/-- A service that can be asked for completions. -/
structure ChatService where
  /-- Where it is. -/
  baseUrl : String
  /-- The key. -/
  key : String
  /-- The model to ask unless a request says otherwise. -/
  model : String
  /-- How many tokens a conversation may have. -/
  contextWindow : Nat
  /-- The most tokens of an answer unless a request says otherwise. -/
  maxTokens : Nat
  /-- How long an answer may take. -/
  timeoutSecs : Nat
deriving Repr

namespace ChatService

/-- Where the service is if the configuration does not say. -/
def usualPlace : String := "https://api.openai.com/v1"

/-- The service of a configuration with a key. -/
def withKey (c : ModelConfig) (key : String) : ChatService :=
  { baseUrl := Text.dropEnd '/' (c.baseUrl.getD usualPlace), key, model := c.model
    contextWindow := c.contextWindow, maxTokens := c.maxTokens, timeoutSecs := c.timeoutSecs }

/-- Whether an address is on this machine. -/
def isLocal (url : String) : Bool := Text.contains "localhost" url || Text.contains "127.0.0.1" url

/-- The service of a configuration, with its key from the environment. -/
def ofConfig (c : ModelConfig) (environment : Environment) : Except ModelError ChatService :=
  match environment.get? c.apiKeyEnv with
  | some key => .ok (withKey c key)
  | none =>
    if c.baseUrl.any isLocal then .ok (withKey c "local")
    else .error (.authFailed ("OpenAI-compatible: env var '" ++ c.apiKeyEnv ++ "' not set"))

/-- The kinds of service that are known; they all speak the same language. -/
def kinds : List String := ["openai", "local", "ollama", "vllm", "azure"]

/-- The service of a configuration, if its kind is known. -/
def create (c : ModelConfig) (environment : Environment) : Except ModelError ChatService :=
  if kinds.contains c.provider then ofConfig c environment
  else .error (.apiRequest ("Unsupported LLM provider '" ++ c.provider ++ "'"))

/-- What a reply means. -/
def read (s : ChatService) (reply : HttpReply) : Except ModelError Completion :=
  match reply.body with
  | none => .error (.connection ("Failed to read response body: " ++ HttpReply.undecodable))
  | some body =>
    if reply.isSuccess then
      match Json.Sorted.parse? body with
      | some j => readAnswer s.model j.json
      | none => .error (.responseParse "Invalid JSON")
    else .error (refusal reply.status body)

/-- Asks for a completion. -/
def complete (s : ChatService) (r : CompletionRequest) :
    Dialogue (Except ModelError Completion) := do
  match ← Dialogue.fetch
      { method := .post, url := s.baseUrl ++ "/chat/completions", bearer := some s.key,
        body := some (requestBody s.model s.maxTokens r), timeoutSecs := s.timeoutSecs } with
  | .error (.timedOut _) => return .error (.timeout s.timeoutSecs)
  | .error e => return .error (.connection ("Request failed: " ++ e.message))
  | .ok reply => return s.read reply

end ChatService

end CitedReport
