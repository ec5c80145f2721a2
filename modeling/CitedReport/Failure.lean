import CitedReport.Text

/-!
# Failures

What can go wrong with a completion, a tool, the configuration or a run, and what the user is told.
-/

namespace CitedReport

/-- Why no completion was received. -/
inductive ModelError where
  /-- The service refused the request. -/
  | apiRequest (message : String)
  /-- The answer could not be read. -/
  | responseParse (message : String)
  /-- The conversation is too long for the model. -/
  | contextOverflow (used limit : Nat)
  /-- The service did not accept the credentials. -/
  | authFailed (provider : String)
  /-- The service asks to wait. -/
  | rateLimited (retryAfterSecs : Nat)
  /-- The service took too long. -/
  | timeout (timeoutSecs : Nat)
  /-- The service could not be reached or broke off. -/
  | connection (message : String)
  /-- The model said nothing. -/
  | emptyCompletion
deriving DecidableEq, Repr, Inhabited

namespace ModelError

/-- What the user is told. -/
def message : ModelError → String
  | .apiRequest m => "API request failed: " ++ m
  | .responseParse m => "API response parse error: " ++ m
  | .contextOverflow used limit =>
    "Context window exceeded: used " ++ toString used ++ " of " ++ toString limit ++ " tokens"
  | .authFailed provider => "Authentication failed for provider " ++ provider
  | .rateLimited secs => "Rate limited by provider, retry after " ++ toString secs ++ "s"
  | .timeout secs => "Request timed out after " ++ toString secs ++ "s"
  | .connection m => "Provider connection failed: " ++ m
  | .emptyCompletion => "Provider returned an empty completion"

/-- Whether another attempt may succeed. -/
def isTransient : ModelError → Bool
  | .rateLimited _ => true
  | .timeout _ => true
  | .connection _ => true
  | _ => false

end ModelError

/-- Why a tool could not be registered or gave no output. -/
inductive ToolError where
  /-- There is no such tool. -/
  | notFound (name : String)
  /-- There is such a tool already. -/
  | alreadyRegistered (name : String)
  /-- The tool cannot be called with these arguments. -/
  | invalidArguments (name reason : String)
  /-- The tool tried and failed. -/
  | executionFailed (name message : String)
  /-- The tool took too long. -/
  | timeout (name : String) (timeoutSecs : Nat)
  /-- The tool lacks something it needs. -/
  | notConfigured (name reason : String)
deriving DecidableEq, Repr, Inhabited

namespace ToolError

/-- What the user is told. -/
def message : ToolError → String
  | .notFound name => "Tool not found: " ++ name
  | .alreadyRegistered name => "Tool already registered: " ++ name
  | .invalidArguments name reason => "Invalid arguments for tool '" ++ name ++ "': " ++ reason
  | .executionFailed name m => "Tool '" ++ name ++ "' execution failed: " ++ m
  | .timeout name secs => "Tool '" ++ name ++ "' timed out after " ++ toString secs ++ "s"
  | .notConfigured name reason => "Tool '" ++ name ++ "' is not configured: " ++ reason

/-- The short reason that stands in the note of a failed call. -/
def reason : ToolError → String
  | .notFound _ => "unknown tool"
  | .alreadyRegistered _ => "duplicate registration"
  | .invalidArguments _ reason => reason
  | .executionFailed _ m => m
  | .timeout _ secs => "timed out after " ++ toString secs ++ "s"
  | .notConfigured _ reason => reason

end ToolError

/-- What is wrong with a configuration. -/
inductive ConfigError where
  /-- A file is missing. -/
  | fileNotFound (path : String)
  /-- A setting makes no sense. -/
  | invalid (message : String)
  /-- An environment variable is missing. -/
  | envVarMissing (name : String)
  /-- A file could not be read or written as TOML. -/
  | parseError (message : String)
deriving DecidableEq, Repr, Inhabited

/-- What the user is told. -/
def ConfigError.message : ConfigError → String
  | .fileNotFound path => "Configuration file not found: " ++ path
  | .invalid m => "Invalid configuration: " ++ m
  | .envVarMissing name => "Environment variable not set: " ++ name
  | .parseError m => "Configuration parse error: " ++ m

/-- Why a stage of a run failed. -/
inductive ResearchError where
  /-- The brief could not be written. -/
  | briefCompilation (source : ModelError)
  /-- The report could not be written. -/
  | synthesis (source : ModelError)
  /-- A question group could not be researched. -/
  | taskFailed (group reason : String)
  /-- There is no brief. -/
  | emptyBrief
deriving DecidableEq, Repr, Inhabited

/-- What the user is told. -/
def ResearchError.message : ResearchError → String
  | .briefCompilation source => "Brief compilation failed: " ++ source.message
  | .synthesis source => "Report synthesis failed: " ++ source.message
  | .taskFailed group reason => "Research task for '" ++ group ++ "' failed: " ++ reason
  | .emptyBrief => "Research brief is empty"

/-- Any failure. -/
inductive Failure where
  /-- A completion failed. -/
  | model (e : ModelError)
  /-- A tool failed. -/
  | tool (e : ToolError)
  /-- The configuration is wrong. -/
  | config (e : ConfigError)
  /-- A stage failed. -/
  | research (e : ResearchError)
deriving DecidableEq, Repr, Inhabited

/-- What the user is told: the family of the failure, then the failure. -/
def Failure.message : Failure → String
  | .model e => "LLM error: " ++ e.message
  | .tool e => "Tool error: " ++ e.message
  | .config e => "Configuration error: " ++ e.message
  | .research e => "Research error: " ++ e.message

end CitedReport
