import CitedReport.Failure
import CitedReport.Subject
import CitedReport.Json.Record

/-!
# Requests, findings and reports

What a run is asked for, what one research task hands back, and what the run hands back in the end.
-/

namespace CitedReport

/-- A run's request. -/
structure RunRequest where
  /-- What to research. -/
  query : String
  /-- The kind of subject. -/
  subject : SubjectType
  /-- What the report should dwell on. -/
  focusArea : Option String := none
deriving DecidableEq, Repr

namespace RunRequest

/-- The same request with a focus; a blank focus changes nothing. -/
def withFocusArea (r : RunRequest) (focus : String) : RunRequest :=
  if Text.isBlank focus then r else { r with focusArea := some focus }

/-- A request in JSON. -/
def toJson (r : RunRequest) : Json :=
  .object ([("query", .string r.query), ("subject_type", r.subject.toJson)] ++
    Json.optionalMember "focus_area" Json.string r.focusArea)

/-- Reads a request. -/
def ofJson? (j : Json) : Option RunRequest := do
  let r ← Json.record? ["query", "subject_type", "focus_area"] j
  let query ← r.required "query" Json.string?
  let subject ← r.required "subject_type" SubjectType.ofJson?
  let focusArea ← r.withDefault "focus_area" none (Json.nullable Json.string?)
  return { query, subject, focusArea }

end RunRequest

/-- The result of researching one question group. -/
structure TaskResult where
  /-- The group. -/
  group : String
  /-- The finding: text with local citations and a list of sources at its end. -/
  finding : String
  /-- The tool outputs as they came. -/
  rawNotes : List String := []
deriving DecidableEq, Repr, Inhabited

namespace TaskResult

/-- How the finding of a failed task begins. -/
def failureMark : String := "Research failed:"

/-- The result of a task that could not be carried out. -/
def failed (group reason : String) : TaskResult :=
  { group, finding := failureMark ++ " " ++ reason }

/-- Whether a finding is that of a failed task. -/
def isFailureNote (finding : String) : Bool := Text.startsWith failureMark finding

/-- Whether the task failed. -/
def isFailure (r : TaskResult) : Bool := isFailureNote r.finding

/-- A task result in JSON. -/
def toJson (r : TaskResult) : Json :=
  .object [("question_group", .string r.group), ("compressed_finding", .string r.finding),
    ("raw_notes", Json.ofList Json.string r.rawNotes)]

/-- Reads a task result. -/
def ofJson? (j : Json) : Option TaskResult := do
  let r ← Json.record? ["question_group", "compressed_finding", "raw_notes"] j
  let group ← r.required "question_group" Json.string?
  let finding ← r.required "compressed_finding" Json.string?
  let rawNotes ← r.required "raw_notes" (Json.listOf Json.string?)
  return { group, finding, rawNotes }

end TaskResult

/-- An entry of the list of sources of a whole run. -/
structure ListedSource where
  /-- Its number, from one. -/
  id : Nat
  /-- Where the source is. -/
  url : String
  /-- What it is. -/
  description : Option String := none
deriving DecidableEq, Repr, Inhabited

namespace ListedSource

/-- The entry as a line of the list of sources in a research context. -/
def line (s : ListedSource) : String :=
  toString s.id ++ ". " ++ s.url ++
    match s.description with
    | some d => " - " ++ d
    | none => ""

/-- An entry in JSON. -/
def toJson (s : ListedSource) : Json :=
  .object ([("id", .nat s.id), ("url", .string s.url)] ++
    Json.optionalMember "description" Json.string s.description)

/-- Reads an entry. -/
def ofJson? (j : Json) : Option ListedSource := do
  let r ← Json.record? ["id", "url", "description"] j
  let id ← r.required "id" Json.nat?
  let url ← r.required "url" Json.string?
  let description ← r.withDefault "description" none (Json.nullable Json.string?)
  return { id, url, description }

end ListedSource

/-- How the review of a report ended. -/
inductive ReportStatus where
  /-- The reviewer accepted the report. -/
  | accepted
  /-- The report is the best that could be had. -/
  | exhausted
deriving DecidableEq, Repr, Inhabited

namespace ReportStatus

/-- The word for a status. -/
def name : ReportStatus → String
  | .accepted => "accepted"
  | .exhausted => "exhausted"

/-- A status in JSON. -/
def toJson (s : ReportStatus) : Json := .string s.name

/-- The status of a name. -/
def ofName? (n : String) : Option ReportStatus := [accepted, exhausted].find? fun s => s.name = n

/-- Reads a status. -/
def ofJson? (j : Json) : Option ReportStatus := (Json.unitName? j).bind ofName?

/-- Reads a status inside a tagged value. -/
def ofAside? (j : Json) : Option ReportStatus := (Json.unitNameAside? j).bind ofName?

end ReportStatus

/-- A report. -/
structure Report where
  /-- Its text. -/
  content : String
  /-- How its review ended. -/
  status : ReportStatus
  /-- How often it was sent back. -/
  revisionCount : Nat
  /-- Whether it was still rejected when no revision was left. -/
  maxRevisionsExceeded : Bool
  /-- Whether the brief was still rejected when no revision was left. -/
  briefMaxRevisionsExceeded : Bool
  /-- Its sources. -/
  sources : List ListedSource
deriving DecidableEq, Repr

namespace Report

/-- A report in JSON. -/
def toJson (r : Report) : Json :=
  .object [("content", .string r.content), ("status", r.status.toJson),
    ("revision_count", .nat r.revisionCount),
    ("max_revisions_exceeded", .bool r.maxRevisionsExceeded),
    ("brief_max_revisions_exceeded", .bool r.briefMaxRevisionsExceeded),
    ("sources", Json.ofList ListedSource.toJson r.sources)]

/-- Reads a report, given how its status is read. -/
def read (status? : Json → Option ReportStatus) (j : Json) : Option Report := do
  let r ← Json.record? ["content", "status", "revision_count", "max_revisions_exceeded",
    "brief_max_revisions_exceeded", "sources"] j
  let content ← r.required "content" Json.string?
  let status ← r.required "status" status?
  let revisionCount ← r.required "revision_count" Json.nat?
  let maxRevisionsExceeded ← r.required "max_revisions_exceeded" Json.bool?
  let briefMaxRevisionsExceeded ← r.required "brief_max_revisions_exceeded" Json.bool?
  let sources ← r.required "sources" (Json.listOf ListedSource.ofJson?)
  return { content, status, revisionCount, maxRevisionsExceeded, briefMaxRevisionsExceeded,
           sources }

/-- Reads a report. -/
def ofJson? : Json → Option Report := read ReportStatus.ofJson?

end Report

/-- What a run hands back. -/
inductive RunOutcome where
  /-- A report. -/
  | report (report : Report)
  /-- A question that the user must answer first. -/
  | clarification (question : String)
  /-- A failure, in the words for the user. -/
  | failed (message : String)
deriving DecidableEq, Repr

namespace RunOutcome

/-- What the user gets to read. -/
def text : RunOutcome → String
  | .report r => r.content
  | .clarification question => question
  | .failed message => message

/-- The report, if there is one. -/
def report? : RunOutcome → Option Report
  | .report r => some r
  | _ => none

/-- An outcome in JSON. -/
def toJson : RunOutcome → Json
  | .report r => .object [("kind", .string "report"), ("report", r.toJson)]
  | .clarification question =>
    .object [("kind", .string "clarification"), ("question", .string question)]
  | .failed message => .object [("kind", .string "failed"), ("message", .string message)]

/-- Reads an outcome. -/
def ofJson? (j : Json) : Option RunOutcome := do
  let (name, body) ← Json.tagged? "kind" j
  if name = "report" then
    let r ← Json.record? ["report"] body
    return .report (← r.required "report" (Report.read ReportStatus.ofAside?))
  else if name = "clarification" then
    let r ← Json.record? ["question"] body
    return .clarification (← r.required "question" Json.string?)
  else if name = "failed" then
    let r ← Json.record? ["message"] body
    return .failed (← r.required "message" Json.string?)
  else none

end RunOutcome

/-- How a single stage of a run ends. -/
inductive StageOutcome (α : Type) where
  /-- The run goes on with this value. -/
  | proceed (value : α)
  /-- The run ends well with this text for the user. -/
  | terminate (text : String)
  /-- The run ends with an error. -/
  | fatal (error : ResearchError)

end CitedReport
