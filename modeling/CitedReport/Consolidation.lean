import CitedReport.Citation.Renumber
import CitedReport.Note
import CitedReport.Report

/-!
# Consolidation of sources

The notes of a run each number their own sources. Here the sources are merged into one list, in the
order in which they are first seen and with the description seen first; the list is pruned to a cap;
and every citation of every note is given the numbers of the list. What a report is written
from is the rendered context.
-/

namespace CitedReport

/-- Which sources are kept when there are too many. -/
inductive PrunePolicy where
  /-- Those that the notes cite most often; among equals those seen earlier. -/
  | mostCited
  /-- Those seen first. -/
  | firstSeen
deriving DecidableEq, Repr, Inhabited

/-- Everything a report is written from. -/
structure ResearchContext where
  /-- The list of sources, numbered from one. -/
  sources : List ListedSource
  /-- The bodies of the notes, their citations referring to the list. -/
  findings : List String
  /-- How many sources were left out. -/
  pruned : Nat
  /-- The rendered text. -/
  text : String
deriving DecidableEq, Repr

namespace Consolidation

/-- The first entry of each URL, in order. -/
def distinctUrls : List NoteSource → List NoteSource
  | [] => []
  | e :: rest => e :: (distinctUrls rest).filter (fun e' => e'.url ≠ e.url)

/-- All sources of the notes in the order in which they are first seen. -/
def seen (notes : List Note) : List NoteSource :=
  distinctUrls (notes.flatMap fun n => Note.firstEntries n.sources)

/-- The URLs that a note's markers refer to, one for each number between commas. -/
def citedUrls (n : Note) : List String :=
  ((Citation.markers n.body.toList).flatMap Citation.Marker.items).filterMap fun item =>
    (Citation.index? item).bind fun i => (n.entry? i).map NoteSource.url

/-- How often a URL is among those that were cited. -/
def citationCount (cited : List String) (url : String) : Nat := (cited.filter (· = url)).length

/-- The sources in order of preference. -/
def ranked (policy : PrunePolicy) (notes : List Note) (sources : List NoteSource) :
    List NoteSource :=
  match policy with
  | .firstSeen => sources
  | .mostCited =>
    let cited := notes.flatMap citedUrls
    sources.mergeSort fun a b => citationCount cited b.url ≤ citationCount cited a.url

/-- The `cap` preferred sources, in the order in which they are first seen. -/
def kept (policy : PrunePolicy) (cap : Nat) (notes : List Note) (sources : List NoteSource) :
    List NoteSource :=
  -- preference decides who is kept and not where it stands
  let best := (ranked policy notes sources).take cap
  sources.filter fun s => best.any fun b => b.url = s.url

/-- Numbers sources from `first` on. -/
def numberFrom : Nat → List NoteSource → List ListedSource
  | _, [] => []
  | first, s :: rest => ⟨first, s.url, s.description⟩ :: numberFrom (first + 1) rest

/-- What happens to a number in a note: it becomes the number of its source in the list, it is
dropped when its source is not in the list, and it is kept when it refers to no source. -/
def resolve (listed : List ListedSource) (n : Note) (number : Nat) : Citation.Resolution :=
  match n.entry? number with
  | none => .keep
  | some e =>
    match listed.find? fun s => s.url = e.url with
    | some s => .renumber s.id
    | none => .drop

/-- The body of a note with its citations referring to the list. -/
def finding (listed : List ListedSource) (n : Note) : String :=
  String.ofList (Citation.renumber (resolve listed n) n.body.toList)

/-- The findings, each under a heading with its number. -/
def sectionsFrom : Nat → List String → String
  | _, [] => ""
  | i, f :: rest =>
    "## Findings Section " ++ toString i ++ "\n\n" ++ f ++ "\n\n" ++ sectionsFrom (i + 1) rest

/-- The part of the context that lists the sources. -/
def sourceList (sources : List ListedSource) : String :=
  let count := toString sources.length
  "---\n\n## CONSOLIDATED SOURCE LIST\n\nTotal sources available: " ++ count ++ "\n\n" ++
    String.join (sources.map fun s => s.line ++ "\n") ++
    "\nIMPORTANT: The findings above already use these exact citation numbers. Cite evidence " ++
    "with these numbers only and do not renumber them. Your `## Sources` section must list all " ++
    count ++ " sources, numbered [1] through [" ++ count ++ "].\n"

/-- The rendered context. -/
def render (brief : String) (subject : SubjectType) (findings : List String)
    (sources : List ListedSource) : String :=
  "# Profile Research Context\n\n**Subject Type:** " ++ subject.name ++ "\n\n" ++
    (match Text.trimmed? brief with
      | some b => "**Research Brief:**\n" ++ b ++ "\n\n"
      | none => "") ++
    "**Research Findings** (" ++ toString findings.length ++ " sections):\n\n" ++
    sectionsFrom 1 findings ++ (if sources = [] then "" else sourceList sources)

/-- The list of sources of some notes, at most `cap` of them. -/
def listed (policy : PrunePolicy) (cap : Nat) (notes : List Note) : List ListedSource :=
  let sources := seen notes
  numberFrom 1 (if cap < sources.length then kept policy cap notes sources else sources)

/-- Consolidates notes with at most `maxSources` sources, but at least one. -/
def consolidate (policy : PrunePolicy) (maxSources : Nat) (brief : String) (notes : List String)
    (subject : SubjectType) : ResearchContext :=
  let parsed := notes.map Note.parse
  let sources := listed policy (max 1 maxSources) parsed
  let findings := parsed.map (finding sources)
  { sources, findings
    pruned := (seen parsed).length - sources.length
    text := render brief subject findings sources }

end Consolidation

namespace ResearchContext

/-- The section of sources that a report on this context carries. -/
def sourcesSection (c : ResearchContext) : String :=
  "## Sources\n\n" ++ String.join (c.sources.map fun s =>
    "[" ++ toString s.id ++ "] " ++ s.url ++
      (match s.description with
        | some d => " - " ++ d
        | none => "") ++ "\n")

end ResearchContext

end CitedReport
