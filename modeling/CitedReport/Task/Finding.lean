import CitedReport.Citation.Renumber
import CitedReport.Source

/-!
# The finding of a research task

A finding keeps the outputs of a task's tools, each as a section of its own, and ends in one list of
sources. The sources are numbered through the task in the order in which they first appear, and the
markers of each output are given these numbers. A bracketed number that refers to no source
of its output is no citation, and a marker of nothing else is escaped.
-/

namespace CitedReport.Task

/-- The sources of a task, in the order in which they first appeared; their numbers are their
positions from one. -/
structure LocalSources where
  /-- The sources. -/
  entries : List SourceRef := []
deriving DecidableEq, Repr

namespace LocalSources

/-- The number of a URL among sources that are numbered from `first` on. -/
def numberOf? (url : String) : Nat → List SourceRef → Option Nat
  | _, [] => none
  | first, s :: rest => if s.url = url then some first else numberOf? url (first + 1) rest

/-- The number of a source, which is added at the end if its URL is new. -/
def number (l : LocalSources) (source : SourceRef) : Nat × LocalSources :=
  match numberOf? source.url 1 l.entries with
  | some n => (n, l)
  | none => (l.entries.length + 1, ⟨l.entries ++ [source]⟩)

/-- The numbers of several sources. -/
def numberAll (l : LocalSources) : List SourceRef → List Nat × LocalSources
  | [] => ([], l)
  | s :: rest =>
    let (n, l) := l.number s
    let (ns, l) := l.numberAll rest
    (n :: ns, l)

/-- The lines of sources that are numbered from `first` on. -/
def linesFrom : Nat → List SourceRef → String
  | _, [] => ""
  | n, s :: rest =>
    toString n ++ ". " ++ s.url ++
      (match s.title with
        | some title => " - " ++ title
        | none => "") ++
      "\n" ++ linesFrom (n + 1) rest

/-- The list of sources at the end of a finding. -/
def render (l : LocalSources) : String := "### Sources\n" ++ linesFrom 1 l.entries

end LocalSources

/-- What happens to a number of an output's markers: it becomes the task's number for that source of
the output, and is dropped when the output has no such source. -/
def resolve (numbers : List Nat) (k : Nat) : Citation.Resolution :=
  match k with
  | 0 => .drop
  | i + 1 =>
    match numbers[i]? with
    | some n => .renumber n
    | none => .drop

/-- A part of an output with its markers renumbered; a marker that would lose all its numbers is
escaped. -/
def renumberPiece (numbers : List Nat) : Citation.Piece → List Char
  | .char c => [c]
  | .marker m =>
    match m.renumber (resolve numbers) with
    | .unchanged => m.text
    | .changed m' => m'.text
    | .removed => m.escaped

/-- The text of an output with its markers renumbered. -/
def renumberContent (numbers : List Nat) (content : String) : String :=
  String.ofList ((Citation.pieces content.toList).flatMap (renumberPiece numbers))

/-- A list without the repetitions of what came before. -/
def unique : List Nat → List Nat
  | [] => []
  | n :: rest => n :: (unique rest).filter (· ≠ n)

/-- A number in brackets. -/
def bracketed (n : Nat) : String := "[" ++ toString n ++ "]"

/-- What a tool output is turned into. -/
structure Recorded where
  /-- Its passage in the finding. -/
  passage : String
  /-- What the model is told. -/
  reply : String

/-- The reply to the model: the output and, on lines of their own, its sources. -/
def replyText (content : String) (sources : List SourceRef) (numbers : List Nat) : String :=
  content ++
    String.join ((sources.zip numbers).map fun p => "\n" ++ bracketed p.2 ++ " " ++ p.1.url)

/-- Numbers the sources of an output and renumbers its markers. -/
def recordOutput (tool target : String) (output : ToolOutput) (sources : LocalSources) :
    Recorded × LocalSources :=
  let (numbers, sources) := sources.numberAll output.sources
  let content := renumberContent numbers output.content
  let cited :=
    if numbers = [] then "" else "\n\nSources: " ++ String.join ((unique numbers).map bracketed)
  (⟨"#### " ++ tool ++ ": " ++ target ++ "\n" ++ Text.trim content ++ cited,
    replyText content output.sources numbers⟩, sources)

/-- The first line of a group, without heading and bullet signs. -/
def topicTitle (group : String) : String :=
  let line := (Chars.lines group.toList).head?.getD []
  String.ofList (Chars.trim (line.dropWhile fun c => "#-*+ ".toList.contains c))

/-- The finding of a task: its sections, the model's summary, and the list of sources. -/
def assemble (group : String) (sections : List String) (summary : Option String)
    (sources : LocalSources) : String :=
  "## Research topic: " ++ topicTitle group ++ "\n\n" ++
    (if sections = [] ∧ summary = none then "No evidence was gathered for this topic.\n\n"
      else "") ++
    String.join (sections.map (· ++ "\n\n")) ++
    (match summary with
      | some s => "#### Analyst notes\n" ++ s ++ "\n\n"
      | none => "") ++
    sources.render

end CitedReport.Task
