import CitedReport.Config.Basic
import CitedReport.Page
import CitedReport.ResearchTool

/-!
# Reading web pages

A tool that fetches a page by its address and hands back its text, and the search for who is behind
an address, which looks at the names on the page.
-/

namespace CitedReport.PageReader

/-- The tool's name. -/
def name : String := "scrape_page"

/-- An address of pages. -/
def address (raw : String) : Except ToolError Url :=
  match Url.parse raw with
  | .error e => .error (.invalidArguments name ("Invalid URL '" ++ raw ++ "': " ++ e.message))
  | .ok u =>
    if u.scheme = "http" ∨ u.scheme = "https" then .ok u
    else .error (.invalidArguments name ("Unsupported URL scheme: " ++ u.scheme))

/-- Fetches a page. -/
def call (c : PageConfig) (arguments : Json.Sorted) : Dialogue (Except ToolError ToolOutput) := do
  match (ResearchTool.requiredText name arguments "url").bind address with
  | .error e => return .error e
  | .ok url =>
    match ← ResearchTool.send name "Fetch failed"
        { url := url.text, timeoutSecs := c.timeoutSecs } with
    | .error e => return .error e
    | .ok reply =>
      match reply.body with
      | some body => return .ok (Page.render url.text reply.contentType body (max 1 c.maxChars))
      | none =>
        return .error (ResearchTool.failed name
          ("Failed to read response body: " ++ HttpReply.undecodable))

/-- The tool under a configuration. -/
def tool (c : PageConfig) : ResearchTool :=
  { tool :=
      { name
        description :=
          "Fetch a web page and extract its readable text. Use this to read a specific page " ++
            "found through search."
        parameters :=
          ResearchTool.objectSchema [("url", ResearchTool.textSchema "The http(s) URL to fetch")]
            ["url"]
        timeoutMs := 1000 * c.timeoutSecs }
    call := call c }

/-- The name of who is behind an address, which may lack its scheme. -/
def resolve (c : ResolverConfig) (raw : String) : Dialogue (Option String) := do
  match Url.ofLoose? raw with
  | none => return none
  | some url =>
    match ← Dialogue.fetch
        { url := url.text, userAgent := some userAgent, timeoutSecs := c.timeoutSecs } with
    | .error _ => return none
    | .ok reply =>
      if reply.isSuccess then
        return reply.body.bind fun body => (Html.entity? body.toList).map String.ofList
      else return none

end CitedReport.PageReader
