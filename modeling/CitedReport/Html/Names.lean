import CitedReport.Html.Text

/-!
# The names on a web page

A page's title, the contents of its `meta` tags, and the name of who is behind the page: what the
page calls its site, or the title up to a tagline.
-/

namespace CitedReport.Html

/-- The first tag of a page that begins with a pattern in any case, and what follows it. -/
def firstTag? (pattern : List Char) : List Char → Option (List Char × List Char)
  | [] => none
  | c :: cs =>
    match Chars.afterFolded? pattern (c :: cs) with
    | some rest =>
      match rest.dropWhile (· ≠ '>') with
      | [] => none
      | _ :: after => some (rest.takeWhile (· ≠ '>'), after)
    | none => firstTag? pattern cs

/-- What stands before the first occurrence of a pattern in any case. -/
def beforeFolded? (pattern : List Char) : List Char → Option (List Char)
  | [] => none
  | c :: cs =>
    if (Chars.afterFolded? pattern (c :: cs)).isSome then some []
    else (beforeFolded? pattern cs).map (c :: ·)

/-- The title of a page, on one line. -/
def title? (page : List Char) : Option (List Char) := do
  let (_, rest) ← firstTag? "<title".toList page
  let raw ← beforeFolded? "</title>".toList rest
  let title := decodeEntities (List.intercalate [' '] (Chars.words raw))
  if title = [] then none else some title

/-- An attribute of a tag. -/
structure Attribute where
  /-- Its name. -/
  name : List Char
  /-- Its value, without the quotes. -/
  value : List Char
deriving DecidableEq, Repr

/-- Whether a character can stand in the name of an attribute. -/
def isAttributeChar (c : Char) : Bool :=
  Chars.isFoldedLetter c || c == ':' || c == '_' || c == '-'

/-- A quoted text at the beginning, and what follows it. -/
def quoted? : List Char → Option (List Char × List Char)
  | [] => none
  | q :: cs =>
    if q = '"' ∨ q = '\'' then
      match cs.dropWhile (· ≠ q) with
      | [] => none
      | _ :: after => some (cs.takeWhile (· ≠ q), after)
    else none

/-- The value after the name of an attribute, and what follows it. -/
def attributeValue? (cs : List Char) : Option (List Char × List Char) :=
  match Chars.trimStart cs with
  | '=' :: rest => quoted? (Chars.trimStart rest)
  | _ => none

/-- The attributes with quoted values in a tag. The number bounds the reader's steps. -/
def attributesWithin : Nat → List Char → List Attribute
  | 0, _ => []
  | _, [] => []
  | fuel + 1, c :: cs =>
    if isAttributeChar c then
      let name := (c :: cs).takeWhile isAttributeChar
      let rest := (c :: cs).dropWhile isAttributeChar
      match attributeValue? rest with
      | some (value, rest) => ⟨name, value⟩ :: attributesWithin fuel rest
      | none => attributesWithin fuel rest
    else attributesWithin fuel cs

/-- The attributes with quoted values in a tag. -/
def attributes (tag : List Char) : List Attribute := attributesWithin tag.length tag

/-- Whether an attribute says that a `meta` tag is about a key. -/
def Attribute.names (key : List Char) (a : Attribute) : Bool :=
  let name := Chars.asciiLowerAll a.name
  (name = "property".toList || name = "name".toList) &&
    Chars.asciiLowerAll a.value = Chars.asciiLowerAll key

/-- The content that an attribute gives to its tag. -/
def Attribute.content? (a : Attribute) : Option (List Char) :=
  if Chars.asciiLowerAll a.name = "content".toList then some (decodeEntities (Chars.trim a.value))
  else none

/-- The content of a tag that is about a key. -/
def contentFor? (key : List Char) (attributes : List Attribute) : Option (List Char) :=
  if attributes.any (Attribute.names key) then
    match (attributes.filterMap Attribute.content?).getLast? with
    | some content => if content = [] then none else some content
    | none => none
  else none

/-- The content of the first `meta` tag that is about a key and has one. The number bounds the
reader's steps. -/
def metaWithin (key : List Char) : Nat → List Char → Option (List Char)
  | 0, _ => none
  | _, [] => none
  | fuel + 1, c :: cs =>
    match Chars.afterFolded? "<meta".toList (c :: cs) with
    | some (blank :: rest) =>
      if Chars.isBlank blank then
        match rest.dropWhile (· ≠ '>') with
        | [] => none
        | _ :: after =>
          match contentFor? key (attributes ((c :: cs).takeWhile (· ≠ '>'))) with
          | some content => some content
          | none => metaWithin key fuel after
      else metaWithin key fuel cs
    | _ => metaWithin key fuel cs

/-- The content of the first `meta` tag that is about a key and has one. -/
def metaContent? (key page : List Char) : Option (List Char) := metaWithin key page.length page

/-- What stands between a name and a tagline in a title. -/
def separators : List (List Char) :=
  [" | ", " - ", " – ", " — ", " · ", ": "].map String.toList

/-- A title up to its first separator. -/
def beforeSeparator : List Char → List Char
  | [] => []
  | c :: cs =>
    if separators.any fun s => (Chars.after? s (c :: cs)).isSome then []
    else c :: beforeSeparator cs

/-- The name of who is behind a page. -/
def entity? (page : List Char) : Option (List Char) :=
  match metaContent? "og:site_name".toList page with
  | some name => some name
  | none => do
    let name := Chars.trim (beforeSeparator (← title? page))
    if name = [] then none else some name

end CitedReport.Html
