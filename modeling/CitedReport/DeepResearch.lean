import CitedReport.Config.Basic
import CitedReport.ResearchTool

/-!
# Asking a model that searches the web

The answer of such a model cites by number what it found: a list of addresses, or of addresses with
titles. That list becomes the sources of the output, so that the numbers in the answer refer to it.
-/

namespace CitedReport

/-- Something that a model found. -/
structure FoundPage where
  /-- Where it is. -/
  url : String
  /-- What it is called. -/
  title : Option String
deriving DecidableEq, Repr

/-- The answer of a model that searches the web. -/
structure DeepAnswer where
  /-- The texts of its choices. -/
  choices : List (Option String) := []
  /-- The addresses that it cites. -/
  citations : List String := []
  /-- What it found. -/
  found : List FoundPage := []
deriving DecidableEq, Repr

namespace FoundPage

/-- Reads something that was found. -/
def ofJson? (j : Json) : Option FoundPage := do
  let r ← Json.record? ["url", "title"] j
  let url ← r.required "url" Json.string?
  let title ← r.withDefault "title" none (Json.nullable Json.string?)
  return { url, title }

/-- What was found as a source. -/
def source (f : FoundPage) : SourceRef := SourceRef.withTitle? ⟨f.url, none⟩ f.title

end FoundPage

namespace DeepAnswer

/-- Reads the text of a choice. -/
def choice? (j : Json) : Option (Option String) := do
  let r ← Json.record? ["message"] j
  r.required "message" fun m => do
    let r ← Json.record? ["content"] m
    r.withDefault "content" none (Json.nullable Json.string?)

/-- Reads an answer. -/
def ofJson? (j : Json) : Option DeepAnswer := do
  let r ← Json.record? ["choices", "citations", "search_results"] j
  let choices ← r.withDefault "choices" [] (Json.listOf choice?)
  let citations ← r.withDefault "citations" [] (Json.listOf Json.string?)
  let found ← r.withDefault "search_results" [] (Json.listOf FoundPage.ofJson?)
  return { choices, citations, found }

/-- The source for a cited address, with the title under which it was found. -/
def citedSource (found : List FoundPage) (url : String) : SourceRef :=
  SourceRef.withTitle? ⟨url, none⟩ ((found.find? fun f => f.url = url).bind FoundPage.title)

/-- The first text with its sources, unless it is blank. -/
def output? (a : DeepAnswer) : Option ToolOutput := do
  let content ← (a.choices.findSome? id).bind Text.trimmed?
  return { content
           sources :=
             if a.citations = [] then a.found.map FoundPage.source
             else a.citations.map (citedSource a.found) }

end DeepAnswer

namespace DeepResearch

/-- The tool's name. -/
def name : String := "deep_research"

/-- What the model is told to be. -/
def instructions : String :=
  "You are a meticulous research assistant. Answer with specific, verifiable facts, cite every " ++
    "claim with [n] markers that refer to your search results, and say plainly when something " ++
    "could not be found."

/-- What is sent to the model. -/
def requestBody (c : DeepResearchConfig) (question : String) : Json.Sorted :=
  let message := fun (role text : String) =>
    Json.object [("role", .string role), ("content", .string text)]
  .of (.object [("model", .string c.model),
    ("messages", .array [message "system" instructions, message "user" question])])

/-- Asks. -/
def call (c : DeepResearchConfig) (key : Option String) (arguments : Json.Sorted) :
    Dialogue (Except ToolError ToolOutput) := do
  match ResearchTool.requiredText name arguments "question" with
  | .error e => return .error e
  | .ok question =>
    match key with
    | none =>
      return .error
        (.notConfigured name ("API key not set in environment variable " ++ c.apiKeyEnv))
    | some key =>
      match ← ResearchTool.send name "Request failed"
          { method := .post, url := Text.dropEnd '/' c.baseUrl ++ "/chat/completions",
            bearer := some key, body := some (requestBody c question),
            timeoutSecs := c.timeoutSecs } with
      | .error e => return .error e
      | .ok reply =>
        match reply.read DeepAnswer.ofJson? with
        | none =>
          return .error (ResearchTool.failed name
            ("Failed to parse response: " ++ HttpReply.undecodable))
        | some answer =>
          match answer.output? with
          | some output => return .ok output
          | none => return .error (ResearchTool.failed name "Response contained no answer")

/-- The tool under a configuration, with the key for the service. -/
def tool (c : DeepResearchConfig) (key : Option String) : ResearchTool :=
  { tool :=
      { name
        description :=
          "Ask a web-grounded research model a focused question. Slower than web_search but " ++
            "returns a synthesized answer with citations. Use for questions that need several " ++
            "sources combined."
        parameters :=
          ResearchTool.objectSchema
            [("question", ResearchTool.textSchema "A specific, self-contained research question")]
            ["question"]
        timeoutMs := 1000 * c.timeoutSecs }
    call := call c key }

end DeepResearch

end CitedReport
