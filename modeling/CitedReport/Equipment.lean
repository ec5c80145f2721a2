import CitedReport.ChatService.Basic
import CitedReport.DeepResearch
import CitedReport.InternalSearch
import CitedReport.PageReader
import CitedReport.Run
import CitedReport.WebSearch

/-!
# The equipment of a run

What a configuration and an environment provide for a run: a chat service for the model, the tools
for research, and the search for who is behind a web address. With it a run asks the outside for
nothing but exchanges over HTTP, the time, and pauses.
-/

namespace CitedReport

namespace ToolsConfig

/-- The tools that are switched on. A tool that could only fail is left out: the one that asks a
searching model when there is no key, and the search of internal documents when there is no place to
search. -/
def tools (c : ToolsConfig) (e : Environment) : List ResearchTool :=
  let key := e.key? c.deepResearch.apiKeyEnv
  (if c.webSearch.enabled then [WebSearch.tool c.webSearch] else []) ++
    (if c.page.enabled then [PageReader.tool c.page] else []) ++
    (if c.deepResearch.enabled ∧ key.isSome then [DeepResearch.tool c.deepResearch key] else []) ++
    (if c.internalSearch.enabled ∧ (InternalSearch.endpoint? c.internalSearch).isSome then
      [InternalSearch.tool c.internalSearch (e.key? c.internalSearch.apiKeyEnv)]
    else [])

end ToolsConfig

/-- What a run is equipped with. -/
structure Equipment where
  /-- The model. -/
  chat : ChatService
  /-- The tools. -/
  tools : List ResearchTool
  /-- The search for who is behind a web address. -/
  resolver : ResolverConfig

namespace Equipment

/-- The equipment that a configuration and an environment provide. -/
def ofConfig (c : Config) (e : Environment) : Except ModelError Equipment :=
  (ChatService.create c.llm e).map fun chat => ⟨chat, c.tools.tools e, c.tools.resolver⟩

/-- The tools as a toolbox. -/
def toolbox (q : Equipment) : Toolbox := .ofList (q.tools.map ResearchTool.tool)

/-- Calls a tool. -/
def callTool (q : Equipment) (name : String) (arguments : Json.Sorted) :
    Dialogue (Delayed (Except ToolError ToolOutput)) := do
  match q.tools.find? fun t => t.tool.name = name with
  | none => return ⟨0, .error (.notFound name)⟩
  | some t => return ⟨0, ← t.call arguments⟩

/-- Answers the questions that the equipment is for, and passes on the others. -/
def serve (q : Equipment) : (question : Query) → Dialogue question.Answer
  | .complete request => q.chat.complete request
  | .callTool name arguments => q.callTool name arguments
  | .resolve url => PageReader.resolve q.resolver url
  | question => .ask question .done

/-- Carries out a request with the equipment. -/
def carryOut (q : Equipment) (c : Config) (id : Identifier) (request : RunRequest) :
    Dialogue (RunOutcome × RunSummary) := do
  let today := (← Dialogue.now).longDate
  let setup : RunSetup := { model := c.modelSettings, tools := q.toolbox, config := c.research }
  (Run.carryOut setup id today request).answerBy q.serve

end Equipment

end CitedReport
