import CitedReport.Text
import CitedReport.Json.Record

/-!
# Sources and tool outputs

What a research tool hands back: a text, and the documents it draws on. A marker `[k]` in the text
refers to the `k`-th of these documents.
-/

namespace CitedReport

/-- A document that a tool output refers to. -/
structure SourceRef where
  /-- Where the document is. -/
  url : String
  /-- What it is called. -/
  title : Option String := none
deriving DecidableEq, Repr

namespace SourceRef

/-- The same document under a title; a blank title changes nothing. -/
def withTitle (s : SourceRef) (title : String) : SourceRef :=
  match Text.trimmed? title with
  | some t => { s with title := some t }
  | none => s

/-- The same document under a title, if there is one. -/
def withTitle? (s : SourceRef) (title : Option String) : SourceRef :=
  match title with
  | some t => s.withTitle t
  | none => s

/-- A document reference in JSON. -/
def toJson (s : SourceRef) : Json :=
  .object (("url", .string s.url) :: Json.optionalMember "title" Json.string s.title)

/-- Reads a document reference. -/
def ofJson? (j : Json) : Option SourceRef := do
  let r ← Json.record? ["url", "title"] j
  let url ← r.required "url" Json.string?
  let title ← r.withDefault "title" none (Json.nullable Json.string?)
  return { url, title }

end SourceRef

/-- The output of one successful tool call. -/
structure ToolOutput where
  /-- The text. -/
  content : String
  /-- The documents that markers in the text refer to. -/
  sources : List SourceRef := []
deriving DecidableEq, Repr

namespace ToolOutput

/-- A tool output in JSON. -/
def toJson (o : ToolOutput) : Json :=
  .object [("content", .string o.content), ("sources", Json.ofList SourceRef.toJson o.sources)]

/-- Reads a tool output. -/
def ofJson? (j : Json) : Option ToolOutput := do
  let r ← Json.record? ["content", "sources"] j
  let content ← r.required "content" Json.string?
  let sources ← r.withDefault "sources" [] (Json.listOf SourceRef.ofJson?)
  return { content, sources }

end ToolOutput

end CitedReport
