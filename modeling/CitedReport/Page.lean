import CitedReport.Citation.Renumber
import CitedReport.Html.Names
import CitedReport.Source

/-!
# Web pages as evidence

A page that was fetched, reduced to its text and cut to a length. The page is its own only source,
so bracketed numbers in its text, which refer to footnotes of its own, are escaped.
-/

namespace CitedReport.Page

/-- At most the first `most` characters, and whether any are left. -/
def cut (most : Nat) (cs : List Char) : List Char × Bool :=
  (cs.take most, most < cs.length)

/-- Whether a body is read as HTML: as its content type says, or without one, if it begins with a
tag. -/
def isHtml (contentType body : String) : Bool :=
  Text.contains "text/html" contentType || Text.contains "application/xhtml" contentType ||
    (contentType = "" && Text.startsWith "<" (Text.trimStart body))

/-- A fetched page as the output of a tool, with at most `maxChars` characters of its text. -/
def render (url contentType body : String) (maxChars : Nat) : ToolOutput :=
  let html := isHtml contentType body
  let text := if html then Html.textOf body.toList else Chars.trim body.toList
  let title := if html then Html.title? body.toList else none
  let (kept, truncated) := cut maxChars text
  let ending :=
    if truncated then "...\n\n[Truncated at " ++ toString maxChars ++ " characters.]" else ""
  { content :=
      "Content from " ++ url ++ ":\n\n" ++ String.ofList (Citation.escapeChars kept) ++ ending
    sources := [SourceRef.withTitle? ⟨url, none⟩ (title.map String.ofList)] }

end CitedReport.Page
