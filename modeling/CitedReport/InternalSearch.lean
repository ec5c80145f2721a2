import CitedReport.Config.Basic
import CitedReport.ResearchTool

/-!
# Searching internal documents

The organization's own documents about a subject, and what its records say about the relationship
with the subject. The relationship stands on a line of its own in canonical words, since later
stages look for it there. A document with an address is numbered and is a source of the output; one
without is only quoted.
-/

namespace CitedReport

/-- A document that was found. -/
structure InternalDocument where
  /-- What it is called. -/
  title : Option String
  /-- Where it is. -/
  url : Option String
  /-- What it says. -/
  content : String
deriving DecidableEq, Repr

/-- The answer of a search of internal documents. -/
structure InternalAnswer where
  /-- The documents. -/
  documents : List InternalDocument := []
  /-- The relationship with the subject. -/
  relationship : Option String := none
deriving DecidableEq, Repr

namespace InternalDocument

/-- The other names of members, with the names that they stand for. -/
def aliases : List (String × String) :=
  [("source", "url"), ("snippet", "content"), ("text", "content")]

/-- The same value with members under their usual names. -/
def withUsualNames : Json → Json
  | .object members => .object (members.map fun m => ((aliases.lookup m.1).getD m.1, m.2))
  | other => other

/-- Reads a document. -/
def ofJson? (j : Json) : Option InternalDocument := do
  let r ← Json.record? ["title", "url", "content"] (withUsualNames j)
  let title ← r.withDefault "title" none (Json.nullable Json.string?)
  let url ← r.withDefault "url" none (Json.nullable Json.string?)
  let content ← r.withDefault "content" "" Json.string?
  return { title, url, content }

/-- The document's title, trimmed. -/
def heading (d : InternalDocument) : String :=
  match d.title with
  | some title => Text.trim title
  | none => "Untitled document"

/-- Where the document is, if it is anywhere. -/
def address? (d : InternalDocument) : Option String := d.url.bind Text.trimmed?

/-- The document as a source. -/
def source? (d : InternalDocument) : Option SourceRef :=
  d.address?.map fun url => SourceRef.withTitle ⟨url, none⟩ d.heading

/-- What is quoted of the document, under a mark. -/
def entry (mark : String) (d : InternalDocument) : String :=
  mark ++ " " ++ d.heading ++ "\n  " ++ Text.trim d.content

end InternalDocument

namespace InternalAnswer

/-- Reads an answer. -/
def ofJson? (j : Json) : Option InternalAnswer := do
  let r ← Json.record? ["results", "relationship_status"] j
  let documents ← r.withDefault "results" [] (Json.listOf InternalDocument.ofJson?)
  let relationship ← r.withDefault "relationship_status" none (Json.nullable Json.string?)
  return { documents, relationship }

/-- The canonical words for a relationship; words that are not known stay as they are. -/
def canonical? (raw : String) : Option String :=
  (Text.trimmed? raw).map fun words =>
    let key := (Text.asciiLower words).map fun c => if c = '_' ∨ c = '-' then ' ' else c
    if key = "existing client" ∨ key = "client" then "Existing client"
    else if key = "past engagement" ∨ key = "former client" then "Past engagement"
    else if key = "no prior engagement" ∨ key = "none" ∨ key = "no engagement" then
      "No prior engagement"
    else words

/-- The documents as entries; those that are sources are numbered from `number` on. -/
def entries : Nat → List InternalDocument → List String
  | _, [] => []
  | number, d :: rest =>
    match d.address? with
    | some _ => d.entry ("[" ++ toString number ++ "]") :: entries (number + 1) rest
    | none => d.entry "-" :: entries number rest

/-- The output of a search, with at most so many documents. -/
def render (a : InternalAnswer) (query : String) (most : Nat) : ToolOutput :=
  let documents := a.documents.take most
  let status :=
    match a.relationship.bind canonical? with
    | some words => "Relationship status: " ++ words ++ "\n\n"
    | none => ""
  let found :=
    if documents = [] then "No internal documents matched."
    else Text.join "\n\n" (entries 1 documents)
  { content := "Internal search results for \"" ++ query ++ "\":\n\n" ++ status ++ found
    sources := documents.filterMap InternalDocument.source? }

end InternalAnswer

namespace InternalSearch

/-- The tool's name. -/
def name : String := "internal_search"

/-- Where the search is under a configuration. -/
def endpoint? (c : InternalSearchConfig) : Option String := c.endpoint.bind Text.trimmed?

/-- Searches. -/
def call (c : InternalSearchConfig) (key : Option String) (arguments : Json.Sorted) :
    Dialogue (Except ToolError ToolOutput) := do
  let most := max 1 c.topK
  match ResearchTool.requiredText name arguments "query" with
  | .error e => return .error e
  | .ok query =>
    match endpoint? c with
    | none => return .error (.notConfigured name "no internal search endpoint configured")
    | some endpoint =>
      let body := Json.Sorted.of (.object [("query", .string query), ("top_k", .nat most)])
      match ← ResearchTool.send name "Request failed"
          { method := .post, url := endpoint, bearer := key, body := some body,
            timeoutSecs := c.timeoutSecs } with
      | .error e => return .error e
      | .ok reply =>
        match reply.read InternalAnswer.ofJson? with
        | some answer => return .ok (answer.render query most)
        | none =>
          return .error (ResearchTool.failed name
            ("Failed to parse response: " ++ HttpReply.undecodable))

/-- The tool under a configuration, with the key for the search. -/
def tool (c : InternalSearchConfig) (key : Option String) : ResearchTool :=
  { tool :=
      { name
        description :=
          "Search internal documents (CRM notes, past proposals, engagement records) about the " ++
            "subject. Always run this once per subject: it reports whether we have worked with " ++
            "them before."
        parameters :=
          ResearchTool.objectSchema
            [("query", ResearchTool.textSchema "What to look for in internal documents")] ["query"]
        timeoutMs := 1000 * c.timeoutSecs }
    call := call c key }

end InternalSearch

end CitedReport
