import CitedReport.Brief
import CitedReport.Clarify
import CitedReport.Config.Basic
import CitedReport.Supervisor
import CitedReport.Synthesis.Basic
import CitedReport.Task.Basic

/-!
# A run from query to report

The query is clarified, a brief compiled, question groups planned and researched, the sources
consolidated and the report written. Only a failure to write the brief ends a run without a report
or a question to the user. The session records each stage as it is left, the observer is told each
stage as it is entered.
-/

namespace CitedReport

/-- What a run works with. -/
structure RunSetup where
  /-- How the model is asked. -/
  model : ModelSettings
  /-- The tools for research. -/
  tools : Toolbox
  /-- The limits and switches. -/
  config : ResearchConfig
  /-- Who researches groups, if not a model with the tools. -/
  unit : Option ResearchUnit := none

namespace Run

/-- Where a run is, and what it has counted. -/
structure Progress where
  /-- The session. -/
  session : RunSession
  /-- A summary of which only the counts are filled in. -/
  counts : RunSummary := {}

/-- Moves to a stage. -/
def enter (stage : RunStage) (session : RunSession) : Dialogue RunSession := do
  let time ← Dialogue.now
  Dialogue.report (.stage stage)
  return session.transition time stage

/-- Moves to the failed stage. -/
def fail (message : String) (session : RunSession) : Dialogue RunSession := do
  let time ← Dialogue.now
  Dialogue.report (.stage .failed)
  return session.fail time message

/-- Who researches the groups. -/
def researchUnit (setup : RunSetup) : ResearchUnit :=
  setup.unit.getD fun group subject =>
    Task.execute setup.model setup.tools setup.config.toolCallIterations group subject

/-- How many findings are those of failed tasks. -/
def failedTasks (findings : List String) : Nat := (findings.filter TaskResult.isFailureNote).length

/-- The stages from the plan on, which always lead to a report. -/
def researchAndWrite (setup : RunSetup) (request : RunRequest) (today : String)
    (brief : CompiledBrief) (p : Progress) : Dialogue (Report × Progress) := do
  let c := setup.config
  let session ← enter .planning p.session
  let groups := Plan.plan c.groupMergePolicy c.maxQuestionGroups brief.text
  let session ← enter .researching session
  let state ← Supervisor.supervise (researchUnit setup)
    { maxRounds := c.maxResearcherIterations, maxConcurrency := c.maxConcurrentResearchUnits }
    groups request.subject
  let session ← enter .consolidating session
  let context :=
    Consolidation.consolidate c.sourcePrunePolicy c.maxSources brief.text state.notes
      request.subject
  let session ← enter .synthesizing session
  let report ← Synthesis.synthesize setup.model
    { brief := brief.text, subject := request.subject, focusArea := request.focusArea, today }
    context c.maxReportRevisions
  let counts :=
    { p.counts with
      questionGroups := groups.length
      researchIterations := state.iterations
      completedGroups := state.completedGroups.length
      failedTasks := failedTasks state.notes
      sources := context.sources.length
      prunedSources := context.pruned
      reportRevisions := report.revisionCount }
  let report := { report with briefMaxRevisionsExceeded := brief.maxRevisionsExceeded }
  return (report, ⟨session, counts⟩)

/-- All stages of a run, up to its outcome. -/
def stages (setup : RunSetup) (request : RunRequest) (today : String) (p : Progress) :
    Dialogue (RunOutcome × Progress) := do
  Dialogue.report (.stage .clarifying)
  match ← Clarify.clarify setup.model request.query setup.config.clarificationEnabled with
  | .terminate question => return (.clarification question, p)
  | .fatal e => return (.failed e.message, p)
  | .proceed query =>
    let session ← enter .compilingBrief p.session
    let p := { p with session }
    let bound := if setup.config.briefValidation then some setup.config.briefMaxRevisions else none
    match ← Brief.compile setup.model ⟨query, request.subject, today⟩ bound with
    | .terminate question => return (.clarification question, p)
    | .fatal e => return (.failed e.message, p)
    | .proceed brief =>
      let p := { p with counts := { p.counts with briefRevisions := brief.revisionCount } }
      let (report, p) ← researchAndWrite setup request today brief p
      return (.report report, p)

/-- Moves to the stage that an outcome ends in. -/
def close (outcome : RunOutcome) (session : RunSession) : Dialogue RunSession :=
  match outcome with
  | .report _ => enter .complete session
  | .clarification _ => enter .awaitingClarification session
  | .failed message => fail message session

/-- The summary of a run that has ended. -/
def summarize (session : RunSession) (usage : TokenUsage) (counts : RunSummary) : RunSummary :=
  { RunSummary.ofSession session usage with
    questionGroups := counts.questionGroups
    completedGroups := counts.completedGroups
    failedTasks := counts.failedTasks
    researchIterations := counts.researchIterations
    sources := counts.sources
    prunedSources := counts.prunedSources
    briefRevisions := counts.briefRevisions
    reportRevisions := counts.reportRevisions }

/-- Carries out a request. -/
def carryOut (setup : RunSetup) (id : Identifier) (today : String) (request : RunRequest) :
    Dialogue (RunOutcome × RunSummary) := do
  let start := RunSession.start id request.query request.subject (← Dialogue.now)
  let ((outcome, p), usage) ← (stages setup request today ⟨start, {}⟩).metered {}
  let session ← close outcome p.session
  return (outcome, summarize session usage p.counts)

end Run

end CitedReport
