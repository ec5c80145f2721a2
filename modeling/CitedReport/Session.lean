import CitedReport.Message.Basic
import CitedReport.Number.Binary
import CitedReport.Subject
import CitedReport.Timestamp

/-!
# The course of a run

The stages of a run, the session that records which of them it has left and when, the summary at its
end, and the events that an observer is told. A stage that ends a run is final: nothing moves a
session out of it.
-/

namespace CitedReport

/-- Where a run is. -/
inductive RunStage where
  /-- It is decided whether the query needs a question to the user. -/
  | clarifying
  /-- The brief is written. -/
  | compilingBrief
  /-- The brief is cut into question groups. -/
  | planning
  /-- The groups are researched. -/
  | researching
  /-- The sources are merged and renumbered. -/
  | consolidating
  /-- The report is written and reviewed. -/
  | synthesizing
  /-- There is a report. -/
  | complete
  /-- The run ended with a question to the user. -/
  | awaitingClarification
  /-- The run failed. -/
  | failed
deriving DecidableEq, Repr, Inhabited

namespace RunStage

/-- All stages in their order. -/
def all : List RunStage :=
  [clarifying, compilingBrief, planning, researching, consolidating, synthesizing, complete,
    awaitingClarification, failed]

/-- Whether the stage ends a run. -/
def isTerminal : RunStage → Bool
  | .complete => true
  | .awaitingClarification => true
  | .failed => true
  | _ => false

/-- The words that a user reads for a stage. -/
def label : RunStage → String
  | .clarifying => "clarifying"
  | .compilingBrief => "compiling brief"
  | .planning => "planning"
  | .researching => "researching"
  | .consolidating => "consolidating sources"
  | .synthesizing => "synthesizing report"
  | .complete => "complete"
  | .awaitingClarification => "awaiting clarification"
  | .failed => "failed"

/-- The name of a stage in records. -/
def name : RunStage → String
  | .clarifying => "clarifying"
  | .compilingBrief => "compiling_brief"
  | .planning => "planning"
  | .researching => "researching"
  | .consolidating => "consolidating"
  | .synthesizing => "synthesizing"
  | .complete => "complete"
  | .awaitingClarification => "awaiting_clarification"
  | .failed => "failed"

/-- How far a run is at a stage, in hundredths. -/
def progressPercent : RunStage → Nat
  | .clarifying => 5
  | .compilingBrief => 10
  | .planning => 20
  | .researching => 30
  | .consolidating => 70
  | .synthesizing => 80
  | _ => 100

/-- A stage in JSON. -/
def toJson (s : RunStage) : Json := .string s.name

/-- Reads a stage. -/
def ofJson? (j : Json) : Option RunStage :=
  (Json.unitName? j).bind fun n => all.find? fun s => s.name = n

end RunStage

/-- How long a run spent in a stage. -/
structure StageTiming where
  /-- The stage. -/
  stage : RunStage
  /-- The time in milliseconds. -/
  durationMs : Int
deriving DecidableEq, Repr

namespace StageTiming

/-- A signed whole number of 64 bits. -/
def int64? : Json → Option Int
  | .number (.natural n) => if n < Word.half then some n else none
  | .number (.negative n) => some (-n)
  | _ => none

/-- A timing in JSON. -/
def toJson (t : StageTiming) : Json :=
  .object [("stage", t.stage.toJson), ("duration_ms", .int t.durationMs)]

/-- Reads a timing. -/
def ofJson? (j : Json) : Option StageTiming := do
  let r ← Json.record? ["stage", "duration_ms"] j
  let stage ← r.required "stage" RunStage.ofJson?
  let durationMs ← r.required "duration_ms" int64?
  return { stage, durationMs }

end StageTiming

/-- The record of one run. -/
structure RunSession where
  /-- The run. -/
  id : Identifier
  /-- Its query. -/
  query : String
  /-- Its kind of subject. -/
  subject : SubjectType
  /-- Where it is. -/
  stage : RunStage
  /-- When it began. -/
  createdAt : Timestamp
  /-- When it last changed stage. -/
  updatedAt : Timestamp
  /-- The stages it has left. -/
  timings : List StageTiming
  /-- Why it failed. -/
  error : Option String
deriving DecidableEq, Repr

namespace RunSession

/-- A run that begins. -/
def start (id : Identifier) (query : String) (subject : SubjectType) (now : Timestamp) :
    RunSession :=
  { id, query, subject, stage := .clarifying, createdAt := now, updatedAt := now, timings := [],
    error := none }

/-- Moves to a stage and notes the time spent in the one that is left; a final stage is not left. -/
def transition (s : RunSession) (now : Timestamp) (stage : RunStage) : RunSession :=
  if s.stage.isTerminal then s
  else
    { s with
      stage := stage
      updatedAt := now
      timings := s.timings ++ [⟨s.stage, now.millisSince s.updatedAt⟩] }

/-- Notes an error and moves to the failed stage. -/
def fail (s : RunSession) (now : Timestamp) (error : String) : RunSession :=
  { s with error := some error }.transition now .failed

/-- Whether the run goes on. -/
def isActive (s : RunSession) : Bool := !s.stage.isTerminal

/-- The time from the beginning to the last change of stage, in milliseconds. -/
def elapsedMs (s : RunSession) : Int := s.updatedAt.millisSince s.createdAt

/-- A session in JSON. -/
def toJson (s : RunSession) : Json :=
  .object [("id", s.id.toJson), ("query", .string s.query), ("subject_type", s.subject.toJson),
    ("stage", s.stage.toJson), ("created_at", s.createdAt.toJson),
    ("updated_at", s.updatedAt.toJson), ("timings", Json.ofList StageTiming.toJson s.timings),
    ("error", Json.orNull Json.string s.error)]

/-- Reads a session. -/
def ofJson? (j : Json) : Option RunSession := do
  let r ← Json.record? ["id", "query", "subject_type", "stage", "created_at", "updated_at",
    "timings", "error"] j
  let id ← r.required "id" Identifier.ofJson?
  let query ← r.required "query" Json.string?
  let subject ← r.required "subject_type" SubjectType.ofJson?
  let stage ← r.required "stage" RunStage.ofJson?
  let createdAt ← r.required "created_at" Timestamp.ofJson?
  let updatedAt ← r.required "updated_at" Timestamp.ofJson?
  let timings ← r.required "timings" (Json.listOf StageTiming.ofJson?)
  let error ← r.optional "error" Json.string?
  return { id, query, subject, stage, createdAt, updatedAt, timings, error }

end RunSession

/-- The counts of a run. -/
structure RunSummary where
  /-- The run. -/
  runId : Option Identifier := none
  /-- Where it ended. -/
  finalStage : Option RunStage := none
  /-- The stages it left. -/
  timings : List StageTiming := []
  /-- How long it took. -/
  elapsedMs : Int := 0
  /-- What its completions cost. -/
  usage : TokenUsage := {}
  /-- Planned question groups. -/
  questionGroups : Nat := 0
  /-- Groups that were researched. -/
  completedGroups : Nat := 0
  /-- Tasks that failed. -/
  failedTasks : Nat := 0
  /-- Rounds of research. -/
  researchIterations : Nat := 0
  /-- Sources of the report. -/
  sources : Nat := 0
  /-- Sources left out. -/
  prunedSources : Nat := 0
  /-- How often the brief was sent back. -/
  briefRevisions : Nat := 0
  /-- How often the report was sent back. -/
  reportRevisions : Nat := 0
deriving DecidableEq, Repr

namespace RunSummary

/-- A summary with what the session knows. -/
def ofSession (s : RunSession) (usage : TokenUsage) : RunSummary :=
  { runId := some s.id, finalStage := some s.stage, timings := s.timings, elapsedMs := s.elapsedMs,
    usage }

/-- A summary in JSON. -/
def toJson (s : RunSummary) : Json :=
  .object [("run_id", Json.orNull Identifier.toJson s.runId),
    ("final_stage", Json.orNull RunStage.toJson s.finalStage),
    ("timings", Json.ofList StageTiming.toJson s.timings), ("elapsed_ms", .int s.elapsedMs),
    ("usage", s.usage.toJson), ("question_groups", .nat s.questionGroups),
    ("completed_groups", .nat s.completedGroups), ("failed_tasks", .nat s.failedTasks),
    ("research_iterations", .nat s.researchIterations), ("sources", .nat s.sources),
    ("pruned_sources", .nat s.prunedSources), ("brief_revisions", .nat s.briefRevisions),
    ("report_revisions", .nat s.reportRevisions)]

/-- Reads a summary. -/
def ofJson? (j : Json) : Option RunSummary := do
  let r ← Json.record? ["run_id", "final_stage", "timings", "elapsed_ms", "usage",
    "question_groups", "completed_groups", "failed_tasks", "research_iterations", "sources",
    "pruned_sources", "brief_revisions", "report_revisions"] j
  let runId ← r.optional "run_id" Identifier.ofJson?
  let finalStage ← r.optional "final_stage" RunStage.ofJson?
  let timings ← r.required "timings" (Json.listOf StageTiming.ofJson?)
  let elapsedMs ← r.required "elapsed_ms" StageTiming.int64?
  let usage ← r.required "usage" TokenUsage.ofJson?
  let questionGroups ← r.required "question_groups" Json.nat?
  let completedGroups ← r.required "completed_groups" Json.nat?
  let failedTasks ← r.required "failed_tasks" Json.nat?
  let researchIterations ← r.required "research_iterations" Json.nat?
  let sources ← r.required "sources" Json.nat?
  let prunedSources ← r.required "pruned_sources" Json.nat?
  let briefRevisions ← r.required "brief_revisions" Json.nat?
  let reportRevisions ← r.required "report_revisions" Json.nat?
  return { runId, finalStage, timings, elapsedMs, usage, questionGroups, completedGroups,
           failedTasks, researchIterations, sources, prunedSources, briefRevisions,
           reportRevisions }

end RunSummary

/-- What an observer of a run is told. -/
inductive RunEvent where
  /-- The run enters a stage. -/
  | stage (stage : RunStage)
  /-- A group has been researched. -/
  | taskComplete (group : String) (failed : Bool)
  /-- A rejected report is about to be revised. -/
  | revision (number maxRevisions : Nat) (feedback : String)
deriving DecidableEq, Repr

/-- A message as it is kept on record. -/
structure RecordedMessage where
  /-- The message's own identifier. -/
  id : Identifier
  /-- The message. -/
  message : Message
  /-- When it was written. -/
  timestamp : Timestamp

namespace RecordedMessage

/-- A recorded message in JSON. -/
def toJson (m : RecordedMessage) : Json :=
  .object [("id", m.id.toJson), ("role", m.message.role.toJson),
    ("content", m.message.content.toJson), ("timestamp", m.timestamp.toJson)]

/-- Reads a recorded message. -/
def ofJson? (j : Json) : Option RecordedMessage := do
  let r ← Json.record? ["id", "role", "content", "timestamp"] j
  let id ← r.required "id" Identifier.ofJson?
  let role ← r.required "role" Role.ofJson?
  let content ← r.required "content" Content.ofJson?
  let timestamp ← r.required "timestamp" Timestamp.ofJson?
  return { id, message := ⟨role, content⟩, timestamp }

end RecordedMessage

end CitedReport
