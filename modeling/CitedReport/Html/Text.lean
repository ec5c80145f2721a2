import CitedReport.Chars.Basic

/-!
# The text of a web page

What a reader sees of a page: tags are dropped, scripts and style sheets with them, block elements
stand on lines of their own, and the common entities are decoded. Nothing is known of the page's
structure but its tags, and a `<` always begins one.
-/

namespace CitedReport.Html

/-- Where a reader of a page is. -/
inductive Place where
  /-- Outside of tags. -/
  | text
  /-- In the name of a tag, whose characters so far are given in reverse. -/
  | name (reversed : List Char)
  /-- In a tag, behind its name. -/
  | tag (name : List Char)
deriving DecidableEq, Repr

/-- The kinds of elements whose contents nobody sees, and whether the reader is in one. -/
structure Hidden where
  /-- In a script. -/
  script : Bool := false
  /-- In a style sheet. -/
  style : Bool := false
deriving DecidableEq, Repr

/-- Whether contents are passed over. -/
def Hidden.any (h : Hidden) : Bool := h.script || h.style

/-- Whether a character can stand in the name of a tag; a slash counts, so that the names of closing
tags begin with one. -/
def isNameChar (c : Char) : Bool := Chars.isAlphanumeric c || c == '/'

/-- The elements that stand on lines of their own. -/
def blockNames : List (List Char) :=
  ["p", "br", "div", "section", "article", "li", "tr", "h1", "h2", "h3", "h4", "h5", "h6", "title",
    "header", "footer", "table"].map String.toList

/-- Whether a tag with this name, in lower case, belongs to a block element. -/
def isBlock (name : List Char) : Bool := blockNames.contains (name.dropWhile (· == '/'))

/-- What a tag with this name, in lower case, does to what is hidden. -/
def Hidden.after (h : Hidden) (name : List Char) : Hidden :=
  if name = "script".toList then { h with script := true }
  else if name = "/script".toList then { h with script := false }
  else if name = "style".toList then { h with style := true }
  else if name = "/style".toList then { h with style := false }
  else h

/-- What is left of a page without its tags and hidden contents; a line feed stands for the tag of a
block element. -/
def withoutTags : Hidden → Place → List Char → List Char
  | _, _, [] => []
  | h, .text, c :: cs =>
    if c = '<' then withoutTags h (.name []) cs
    else if h.any then withoutTags h .text cs
    else c :: withoutTags h .text cs
  | h, .name reversed, c :: cs =>
    if c = '<' then withoutTags h (.name []) cs
    else if c = '>' then
      let name := Chars.lowerAll reversed.reverse
      (if isBlock name then ['\n'] else []) ++ withoutTags (h.after name) .text cs
    else if isNameChar c then withoutTags h (.name (c :: reversed)) cs
    else withoutTags h (.tag reversed.reverse) cs
  | h, .tag name, c :: cs =>
    if c = '<' then withoutTags h (.name []) cs
    else if c = '>' then
      let name := Chars.lowerAll name
      (if isBlock name then ['\n'] else []) ++ withoutTags (h.after name) .text cs
    else withoutTags h (.tag name) cs

/-- The entities that are decoded, in the order in which they are; the ampersand comes last, so that
nothing is decoded twice. -/
def entities : List (List Char × List Char) :=
  [("&nbsp;", " "), ("&lt;", "<"), ("&gt;", ">"), ("&quot;", "\""), ("&#39;", "'"), ("&#x27;", "'"),
    ("&amp;", "&")].map fun e => (e.1.toList, e.2.toList)

/-- Decodes the common entities. -/
def decodeEntities (cs : List Char) : List Char :=
  entities.foldl (fun cs e => Chars.replace e.1 e.2 cs) cs

/-- The lines of a text that are not blank, trimmed. -/
def tidyLines (cs : List Char) : List (List Char) :=
  ((Chars.lines cs).map Chars.trim).filter (· ≠ [])

/-- The text of a page. -/
def textOf (page : List Char) : List Char :=
  List.intercalate ['\n'] (tidyLines (decodeEntities (withoutTags {} .text page)))

end CitedReport.Html
