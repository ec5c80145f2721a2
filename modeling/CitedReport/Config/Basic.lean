import CitedReport.Completion
import CitedReport.Config.Section
import CitedReport.Consolidation
import CitedReport.Plan

/-!
# Configuration

The settings of the model service, of a run and of the tools, with the values they have by default.
A configuration is read from a tree of sections and written as one.
-/

namespace CitedReport

namespace MergePolicy

/-- The name of a policy in a configuration. -/
def name : MergePolicy → String
  | .mergeSmallest => "merge_smallest"
  | .foldTail => "fold_tail"

/-- A policy in a configuration. -/
def toJson (p : MergePolicy) : Json := .string p.name

/-- Reads a policy. -/
def ofJson? (j : Json) : Option MergePolicy :=
  (Json.unitName? j).bind fun n => [mergeSmallest, foldTail].find? fun p => p.name = n

end MergePolicy

namespace PrunePolicy

/-- The name of a policy in a configuration. -/
def name : PrunePolicy → String
  | .mostCited => "most_cited"
  | .firstSeen => "first_seen"

/-- A policy in a configuration. -/
def toJson (p : PrunePolicy) : Json := .string p.name

/-- Reads a policy. -/
def ofJson? (j : Json) : Option PrunePolicy :=
  (Json.unitName? j).bind fun n => [mostCited, firstSeen].find? fun p => p.name = n

end PrunePolicy

/-- A number as a 32-bit float. -/
def Json.single? : Json → Option Single
  | .number (.natural n) => some (Binary.ofRatio false n 1)
  | .number (.negative n) => some (Binary.ofRatio true n 1)
  | .number (.double x) => some x.convert
  | .number (.single x) => some x
  | _ => none

/-- The model service. -/
structure ModelConfig where
  /-- The kind of service. -/
  provider : String := "openai"
  /-- The model to ask. -/
  model : String := "gpt-4o"
  /-- The environment variable that holds the key. -/
  apiKeyEnv : String := "OPENAI_API_KEY"
  /-- Where the service is, if not at its usual place. -/
  baseUrl : Option String := none
  /-- The most tokens of an answer. -/
  maxTokens : Nat := 8192
  /-- The temperature of requests. -/
  temperature : Single := Binary.ofRatio false 3 10
  /-- How many tokens a conversation may have. -/
  contextWindow : Nat := 128000
  /-- How long an answer may take. -/
  timeoutSecs : Nat := 180
deriving DecidableEq, Repr

namespace ModelConfig

/-- The settings of the section. -/
def layout : Section ModelConfig :=
  ⟨[.text "provider" fun v c => { c with provider := v },
    .text "model" fun v c => { c with model := v },
    .text "api_key_env" fun v c => { c with apiKeyEnv := v },
    .optionalText "base_url" fun v c => { c with baseUrl := v },
    .nat "max_tokens" fun v c => { c with maxTokens := v },
    .value "temperature" Json.single? fun v c => { c with temperature := v },
    .nat "context_window" fun v c => { c with contextWindow := v },
    .nat "timeout_secs" fun v c => { c with timeoutSecs := v }],
    ["provider", "model", "api_key_env", "max_tokens", "temperature", "context_window",
      "timeout_secs"]⟩

/-- The section in JSON. -/
def toJson (c : ModelConfig) : Json :=
  .object ([("provider", .string c.provider), ("model", .string c.model),
      ("api_key_env", .string c.apiKeyEnv)] ++
    Json.optionalMember "base_url" Json.string c.baseUrl ++
    [("max_tokens", .nat c.maxTokens), ("temperature", .number (.single c.temperature)),
      ("context_window", .nat c.contextWindow), ("timeout_secs", .nat c.timeoutSecs)])

/-- Reads the section, in which only the address may be left out. -/
def ofJson? : Json → Option ModelConfig := layout.whole {}

end ModelConfig

/-- A run. -/
structure ResearchConfig where
  /-- Whether a query may be answered with a question. -/
  clarificationEnabled : Bool := true
  /-- The most question groups. -/
  maxQuestionGroups : Nat := 12
  /-- What is done with more groups than that. -/
  groupMergePolicy : MergePolicy := .mergeSmallest
  /-- The most rounds of research. -/
  maxResearcherIterations : Nat := 3
  /-- The most groups in hand at a time. -/
  maxConcurrentResearchUnits : Nat := 5
  /-- The most turns of a model that researches a group. -/
  toolCallIterations : Nat := 6
  /-- The most sources. -/
  maxSources : Nat := 40
  /-- Which sources are kept when there are more. -/
  sourcePrunePolicy : PrunePolicy := .mostCited
  /-- Whether the brief is reviewed. -/
  briefValidation : Bool := false
  /-- The most revisions of the brief. -/
  briefMaxRevisions : Nat := 2
  /-- The most revisions of the report. -/
  maxReportRevisions : Nat := 2
  /-- How often a passing failure of the model service is tried again. -/
  llmMaxRetries : Nat := 2
deriving DecidableEq, Repr

namespace ResearchConfig

/-- The settings of the section. -/
def layout : Section ResearchConfig :=
  ⟨[.switch "clarification_enabled" fun v c => { c with clarificationEnabled := v },
    .nat "max_question_groups" fun v c => { c with maxQuestionGroups := v },
    .choice "group_merge_policy" MergePolicy.ofJson? fun v c => { c with groupMergePolicy := v },
    .nat "max_researcher_iterations" fun v c => { c with maxResearcherIterations := v },
    .nat "max_concurrent_research_units" fun v c => { c with maxConcurrentResearchUnits := v },
    .nat "tool_call_iterations" fun v c => { c with toolCallIterations := v },
    .nat "max_sources" fun v c => { c with maxSources := v },
    .choice "source_prune_policy" PrunePolicy.ofJson? fun v c => { c with sourcePrunePolicy := v },
    .switch "brief_validation" fun v c => { c with briefValidation := v },
    .nat "brief_max_revisions" fun v c => { c with briefMaxRevisions := v },
    .nat "max_report_revisions" fun v c => { c with maxReportRevisions := v },
    .nat "llm_max_retries" fun v c => { c with llmMaxRetries := v }], []⟩

/-- The section in JSON. -/
def toJson (c : ResearchConfig) : Json :=
  .object [("clarification_enabled", .bool c.clarificationEnabled),
    ("max_question_groups", .nat c.maxQuestionGroups),
    ("group_merge_policy", c.groupMergePolicy.toJson),
    ("max_researcher_iterations", .nat c.maxResearcherIterations),
    ("max_concurrent_research_units", .nat c.maxConcurrentResearchUnits),
    ("tool_call_iterations", .nat c.toolCallIterations), ("max_sources", .nat c.maxSources),
    ("source_prune_policy", c.sourcePrunePolicy.toJson),
    ("brief_validation", .bool c.briefValidation),
    ("brief_max_revisions", .nat c.briefMaxRevisions),
    ("max_report_revisions", .nat c.maxReportRevisions), ("llm_max_retries", .nat c.llmMaxRetries)]

/-- Reads the section. -/
def ofJson? : Json → Option ResearchConfig := layout.fill {}

/-- The complaint about a limit of zero. -/
def tooSmall (name : String) : ConfigError :=
  .invalid ("research." ++ name ++ " must be at least 1")

/-- Refuses limits that would not let a run get anywhere. -/
def validate (c : ResearchConfig) : Except ConfigError Unit :=
  if c.maxQuestionGroups = 0 then .error (tooSmall "max_question_groups")
  else if c.maxConcurrentResearchUnits = 0 then .error (tooSmall "max_concurrent_research_units")
  else if c.maxSources = 0 then .error (tooSmall "max_sources")
  else .ok ()

end ResearchConfig

/-- The search of the web. -/
structure WebSearchConfig where
  /-- Whether the tool is there. -/
  enabled : Bool := true
  /-- The most hits. -/
  maxResults : Nat := 8
  /-- How long a search may take. -/
  timeoutSecs : Nat := 15
deriving DecidableEq, Repr

namespace WebSearchConfig

/-- The settings of the section. -/
def layout : Section WebSearchConfig :=
  ⟨[.switch "enabled" fun v c => { c with enabled := v },
    .nat "max_results" fun v c => { c with maxResults := v },
    .nat "timeout_secs" fun v c => { c with timeoutSecs := v }], []⟩

/-- The section in JSON. -/
def toJson (c : WebSearchConfig) : Json :=
  .object [("enabled", .bool c.enabled), ("max_results", .nat c.maxResults),
    ("timeout_secs", .nat c.timeoutSecs)]

end WebSearchConfig

/-- The reader of web pages. -/
structure PageConfig where
  /-- Whether the tool is there. -/
  enabled : Bool := true
  /-- The most characters of a page. -/
  maxChars : Nat := 8000
  /-- How long a page may take. -/
  timeoutSecs : Nat := 30
deriving DecidableEq, Repr

namespace PageConfig

/-- The settings of the section. -/
def layout : Section PageConfig :=
  ⟨[.switch "enabled" fun v c => { c with enabled := v },
    .nat "max_chars" fun v c => { c with maxChars := v },
    .nat "timeout_secs" fun v c => { c with timeoutSecs := v }], []⟩

/-- The section in JSON. -/
def toJson (c : PageConfig) : Json :=
  .object [("enabled", .bool c.enabled), ("max_chars", .nat c.maxChars),
    ("timeout_secs", .nat c.timeoutSecs)]

end PageConfig

/-- The model that searches the web itself. -/
structure DeepResearchConfig where
  /-- Whether the tool is there. -/
  enabled : Bool := true
  /-- Where the service is. -/
  baseUrl : String := "https://api.perplexity.ai"
  /-- The model to ask. -/
  model : String := "sonar"
  /-- The environment variable that holds the key. -/
  apiKeyEnv : String := "PERPLEXITY_API_KEY"
  /-- How long an answer may take. -/
  timeoutSecs : Nat := 120
deriving DecidableEq, Repr

namespace DeepResearchConfig

/-- The settings of the section. -/
def layout : Section DeepResearchConfig :=
  ⟨[.switch "enabled" fun v c => { c with enabled := v },
    .text "base_url" fun v c => { c with baseUrl := v },
    .text "model" fun v c => { c with model := v },
    .text "api_key_env" fun v c => { c with apiKeyEnv := v },
    .nat "timeout_secs" fun v c => { c with timeoutSecs := v }], []⟩

/-- The section in JSON. -/
def toJson (c : DeepResearchConfig) : Json :=
  .object [("enabled", .bool c.enabled), ("base_url", .string c.baseUrl),
    ("model", .string c.model),
    ("api_key_env", .string c.apiKeyEnv), ("timeout_secs", .nat c.timeoutSecs)]

end DeepResearchConfig

/-- The search of internal documents. -/
structure InternalSearchConfig where
  /-- Whether the tool is there. -/
  enabled : Bool := true
  /-- Where the search is; without it the tool is not there. -/
  endpoint : Option String := none
  /-- The environment variable that holds the key. -/
  apiKeyEnv : String := "DOSSIER_INTERNAL_SEARCH_KEY"
  /-- The most documents. -/
  topK : Nat := 8
  /-- How long a search may take. -/
  timeoutSecs : Nat := 30
deriving DecidableEq, Repr

namespace InternalSearchConfig

/-- The settings of the section. -/
def layout : Section InternalSearchConfig :=
  ⟨[.switch "enabled" fun v c => { c with enabled := v },
    .optionalText "endpoint" fun v c => { c with endpoint := v },
    .text "api_key_env" fun v c => { c with apiKeyEnv := v },
    .nat "top_k" fun v c => { c with topK := v },
    .nat "timeout_secs" fun v c => { c with timeoutSecs := v }], []⟩

/-- The section in JSON. -/
def toJson (c : InternalSearchConfig) : Json :=
  .object ([("enabled", .bool c.enabled)] ++
    Json.optionalMember "endpoint" Json.string c.endpoint ++
    [("api_key_env", .string c.apiKeyEnv), ("top_k", .nat c.topK),
      ("timeout_secs", .nat c.timeoutSecs)])

end InternalSearchConfig

/-- The search for who is behind a web address. -/
structure ResolverConfig where
  /-- How long it may take. -/
  timeoutSecs : Nat := 10
deriving DecidableEq, Repr

namespace ResolverConfig

/-- The settings of the section. -/
def layout : Section ResolverConfig :=
  ⟨[.nat "timeout_secs" fun v _ => { timeoutSecs := v }], []⟩

/-- The section in JSON. -/
def toJson (c : ResolverConfig) : Json := .object [("timeout_secs", .nat c.timeoutSecs)]

end ResolverConfig

/-- The tools. -/
structure ToolsConfig where
  /-- The search of the web. -/
  webSearch : WebSearchConfig := {}
  /-- The reader of web pages. -/
  page : PageConfig := {}
  /-- The model that searches the web itself. -/
  deepResearch : DeepResearchConfig := {}
  /-- The search of internal documents. -/
  internalSearch : InternalSearchConfig := {}
  /-- The search for who is behind a web address. -/
  resolver : ResolverConfig := {}
deriving DecidableEq, Repr

namespace ToolsConfig

/-- The sections of the section. -/
def layout : Section ToolsConfig :=
  ⟨[WebSearchConfig.layout.within "web_search" webSearch fun v c => { c with webSearch := v },
    PageConfig.layout.within "scrape" page fun v c => { c with page := v },
    DeepResearchConfig.layout.within "deep_research" deepResearch fun v c =>
      { c with deepResearch := v },
    InternalSearchConfig.layout.within "internal_search" internalSearch fun v c =>
      { c with internalSearch := v },
    ResolverConfig.layout.within "resolver" resolver fun v c => { c with resolver := v }], []⟩

/-- The section in JSON. -/
def toJson (c : ToolsConfig) : Json :=
  .object [("web_search", c.webSearch.toJson), ("scrape", c.page.toJson),
    ("deep_research", c.deepResearch.toJson), ("internal_search", c.internalSearch.toJson),
    ("resolver", c.resolver.toJson)]

/-- Reads the section. -/
def ofJson? : Json → Option ToolsConfig := layout.fill {}

end ToolsConfig

/-- A whole configuration. -/
structure Config where
  /-- The model service. -/
  llm : ModelConfig := {}
  /-- A run. -/
  research : ResearchConfig := {}
  /-- The tools. -/
  tools : ToolsConfig := {}
deriving DecidableEq, Repr

namespace Config

/-- The sections of a configuration. -/
def layout : Section Config :=
  ⟨[ModelConfig.layout.within "llm" llm fun v c => { c with llm := v },
    ResearchConfig.layout.within "research" research fun v c => { c with research := v },
    ToolsConfig.layout.within "tools" tools fun v c => { c with tools := v }],
    ["llm", "research", "tools"]⟩

/-- A configuration in JSON. -/
def toJson (c : Config) : Json :=
  .object [("llm", c.llm.toJson), ("research", c.research.toJson), ("tools", c.tools.toJson)]

/-- Reads a configuration in which no section may be left out, nor a setting of the model
service. -/
def ofJson? (j : Json) : Option Config := do
  let r ← Json.record? layout.names j
  let llm ← r.required "llm" ModelConfig.ofJson?
  let research ← r.required "research" ResearchConfig.ofJson?
  let tools ← r.required "tools" ToolsConfig.ofJson?
  return { llm, research, tools }

/-- How the model is asked under a configuration. -/
def modelSettings (c : Config) : ModelSettings :=
  { maxRetries := c.research.llmMaxRetries
    temperature := c.llm.temperature
    maxTokens := some c.llm.maxTokens
    contextWindow := c.llm.contextWindow }

end Config

end CitedReport
