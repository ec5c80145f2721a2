import CitedReport.Config.Basic
import CitedReport.ResearchTool

/-!
# Searching the web

The answers of a search service are hits: an abstract, related topics - alone or in groups - and
direct results. Of the hits with a text and an address the first of each address count, up to a
limit, and each is a source of the output.
-/

namespace CitedReport

/-- A hit of a search. -/
structure SearchHit where
  /-- What it is called. -/
  title : Option String
  /-- What it says. -/
  text : String
  /-- Where it is. -/
  url : String
deriving DecidableEq, Repr

namespace WebSearch

/-- A text member that is not blank, trimmed. -/
def textMember? (j : Json) (key : String) : Option String :=
  ((j.member? key).bind Json.string?).bind Text.trimmed?

/-- The items of a list member. -/
def listMember (j : Json) (key : String) : List Json := ((j.member? key).bind Json.items?).getD []

/-- The abstract of an answer. -/
def abstract? (body : Json) : Option SearchHit := do
  let text ← textMember? body "AbstractText"
  let url ← textMember? body "AbstractURL"
  return { title := (textMember? body "Heading").or (textMember? body "AbstractSource"), text, url }

/-- The entries that a topic stands for: those of its group, or itself. -/
def ungroup (topic : Json) : List Json := ((topic.member? "Topics").bind Json.items?).getD [topic]

/-- An entry with a text and an address; its title is the text up to a dash. -/
def topic? (entry : Json) : Option SearchHit := do
  let text ← textMember? entry "Text"
  let url ← textMember? entry "FirstURL"
  let title :=
    match Chars.splitFirst? " - ".toList text.toList with
    | some (before, _) => String.ofList (Chars.trim before)
    | none => text
  return { title := some title, text, url }

/-- All hits of an answer in order: the abstract, related topics, results. -/
def candidates (body : Json) : List SearchHit :=
  (abstract? body).toList ++
    ((listMember body "RelatedTopics" ++ listMember body "Results").flatMap ungroup).filterMap
      topic?

/-- The first hit of each address. -/
def distinct : List SearchHit → List SearchHit
  | [] => []
  | h :: rest => h :: (distinct rest).filter fun h' => h'.url ≠ h.url

/-- The hits of an answer, at most so many. -/
def hits (body : Json) (most : Nat) : List SearchHit := (distinct (candidates body)).take most

/-- A hit under its number. -/
def entry (number : Nat) (h : SearchHit) : String :=
  "[" ++ toString number ++ "] " ++ h.text ++ "\n  URL: " ++ h.url

/-- Hits under their numbers from `number` on. -/
def entries : Nat → List SearchHit → List String
  | _, [] => []
  | number, h :: rest => entry number h :: entries (number + 1) rest

/-- The output of a search. -/
def render (query : String) (hits : List SearchHit) : ToolOutput :=
  if hits = [] then
    { content :=
        "No results found for \"" ++ query ++ "\". Try a broader query or scrape a specific page."
      sources := [] }
  else
    { content :=
        "Search results for \"" ++ query ++ "\":\n\n" ++ Text.join "\n\n" (entries 1 hits)
      sources := hits.map fun h => SourceRef.withTitle? ⟨h.url, none⟩ h.title }

/-- The tool's name. -/
def name : String := "web_search"

/-- The address of a search. -/
def address (query : String) : String :=
  "https://api.duckduckgo.com/?q=" ++ String.ofList (Url.Part.component.encode query.toList) ++
    "&format=json&no_html=1&skip_disambig=1"

/-- The most hits that a configuration allows. -/
def limit (c : WebSearchConfig) : Nat := max 1 c.maxResults

/-- Searches. -/
def call (c : WebSearchConfig) (arguments : Json.Sorted) :
    Dialogue (Except ToolError ToolOutput) := do
  match ResearchTool.requiredText name arguments "query" with
  | .error e => return .error e
  | .ok query =>
    let most :=
      match (arguments.json.member? "max_results").bind Json.nat? with
      | some n => max 1 (min n (limit c))
      | none => limit c
    match ← ResearchTool.send name "Search request failed"
        { url := address query, timeoutSecs := c.timeoutSecs } with
    | .error e => return .error e
    | .ok reply =>
      match reply.read Json.Sorted.of? with
      | some body => return .ok (render query (hits body.json most))
      | none =>
        return .error (ResearchTool.failed name
          ("Failed to parse search response: " ++ HttpReply.undecodable))

/-- The tool under a configuration. -/
def tool (c : WebSearchConfig) : ResearchTool :=
  { tool :=
      { name
        description :=
          "Search the web for information about the subject. Returns snippets with their URLs; " ++
            "cite results by their [n] marker."
        parameters :=
          ResearchTool.objectSchema
            [("query", ResearchTool.textSchema "The search query"),
              ("max_results", .object [("type", .string "integer"),
                ("description", .string "Maximum number of results to return"),
                ("default", .nat (limit c))])]
            ["query"]
        timeoutMs := 1000 * c.timeoutSecs }
    call := call c }

end WebSearch

end CitedReport
