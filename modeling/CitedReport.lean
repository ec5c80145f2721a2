import CitedReport.Brief
import CitedReport.Chars.Basic
import CitedReport.Chars.CaseTables
import CitedReport.Chars.Classes
import CitedReport.Chars.Composition
import CitedReport.Chars.CompositionTables
import CitedReport.Chars.Tables
import CitedReport.ChatService.Basic
import CitedReport.ChatService.Wire
import CitedReport.Citation.Marker
import CitedReport.Citation.Renumber
import CitedReport.Clarify
import CitedReport.CommandLine.Arguments
import CitedReport.CommandLine.Basic
import CitedReport.CommandLine.Progress
import CitedReport.Completion
import CitedReport.Config.Basic
import CitedReport.Config.Environment
import CitedReport.Config.EnvironmentFile
import CitedReport.Config.Layers
import CitedReport.Config.Section
import CitedReport.Consolidation
import CitedReport.DeepResearch
import CitedReport.Dialogue.Basic
import CitedReport.Dialogue.Crew
import CitedReport.Equipment
import CitedReport.Failure
import CitedReport.Html.Names
import CitedReport.Html.Text
import CitedReport.Http
import CitedReport.InternalSearch
import CitedReport.Json.Basic
import CitedReport.Json.Parser
import CitedReport.Json.Printer
import CitedReport.Json.Record
import CitedReport.Main
import CitedReport.Message.Basic
import CitedReport.Message.Content
import CitedReport.Note
import CitedReport.Number.Binary
import CitedReport.Page
import CitedReport.PageReader
import CitedReport.Plan
import CitedReport.Prompt
import CitedReport.Relationship
import CitedReport.Report
import CitedReport.ResearchTool
import CitedReport.Review
import CitedReport.Run
import CitedReport.ScriptedModel
import CitedReport.Session
import CitedReport.Source
import CitedReport.Subject
import CitedReport.Supervisor
import CitedReport.Synthesis.Basic
import CitedReport.Synthesis.Sections
import CitedReport.Task.Basic
import CitedReport.Task.Finding
import CitedReport.Text
import CitedReport.Timestamp
import CitedReport.Toml.Parser
import CitedReport.Toml.Printer
import CitedReport.Toml.Scalar
import CitedReport.Toml.Table
import CitedReport.Toolbox
import CitedReport.Url.Basic
import CitedReport.Url.Domain.Basic
import CitedReport.Url.Domain.Direction
import CitedReport.Url.Domain.MappingTable
import CitedReport.Url.Domain.Tables
import CitedReport.Url.Host
import CitedReport.Url.Percent
import CitedReport.Url.Punycode
import CitedReport.Verdict
import CitedReport.WebAddress
import CitedReport.WebSearch
import CitedReport.Proofs.Chars.Classes
import CitedReport.Proofs.Chars.Span
import CitedReport.Proofs.Chars.Trim
import CitedReport.Proofs.Chars.Search
import CitedReport.Proofs.Chars.Fold
import CitedReport.Proofs.Chars.Lines
import CitedReport.Proofs.Chars.Occurrence
import CitedReport.Proofs.Citation.Marker
import CitedReport.Proofs.Citation.Number
import CitedReport.Proofs.Citation.Renumber
import CitedReport.Proofs.Citation.Place
import CitedReport.Proofs.Citation.Carried
import CitedReport.Proofs.Citation.Rereading
import CitedReport.Proofs.Note.Entries
import CitedReport.Proofs.Note.Lines
import CitedReport.Proofs.Plan.Merging
import CitedReport.Proofs.Plan.Lossless
import CitedReport.Proofs.Plan.Neighbours
import CitedReport.Proofs.Consolidation.Sources
import CitedReport.Proofs.Consolidation.Findings
import CitedReport.Proofs.Consolidation.Rereading
import CitedReport.Proofs.Dialogue.Held
import CitedReport.Proofs.Completion.Asks
import CitedReport.Proofs.Completion.Retries
import CitedReport.Proofs.Dialogue.Schedule
import CitedReport.Proofs.Dialogue.Crew
import CitedReport.Proofs.Supervisor.FanOut
import CitedReport.Proofs.Synthesis.Sections
import CitedReport.Proofs.Synthesis.Tail
import CitedReport.Proofs.Synthesis.Fallback
import CitedReport.Proofs.Synthesis.Headings
import CitedReport.Proofs.Synthesis.Revision
import CitedReport.Proofs.Synthesis.Replacing
import CitedReport.Proofs.Task.Numbering
import CitedReport.Proofs.Task.Answers
import CitedReport.Proofs.Dialogue.Cost
import CitedReport.Proofs.Dialogue.Bill
import CitedReport.Proofs.Task.Outputs
import CitedReport.Proofs.Task.OneCall
import CitedReport.Proofs.Task.Integrity
import CitedReport.Proofs.Task.Provenance
import CitedReport.Proofs.Task.Conversation
import CitedReport.Proofs.Json.Grammar
import CitedReport.Proofs.Json.Tokens
import CitedReport.Proofs.Json.Reading
import CitedReport.Proofs.Verdict.Span
import CitedReport.Proofs.Verdict.Extraction
import CitedReport.Proofs.Relationship.Reading
import CitedReport.Proofs.Relationship.StatusLines
import CitedReport.Proofs.Relationship.Statuses
import CitedReport.Proofs.Relationship.Claims
import CitedReport.Proofs.Relationship.Digits
import CitedReport.Proofs.Consolidation.Order
import CitedReport.Proofs.Consolidation.Counting
import CitedReport.Proofs.Consolidation.Pruning
import CitedReport.Proofs.Consolidation.MoreNotes
import CitedReport.Proofs.Relationship.Silence
import CitedReport.Proofs.Session.Trail
import CitedReport.Proofs.Session.Finality
import CitedReport.Proofs.Brief.Validation
import CitedReport.Proofs.Brief.Revisions
import CitedReport.Proofs.Run.Questions
import CitedReport.Proofs.Run.Cost
import CitedReport.Proofs.Run.Course
import CitedReport.Proofs.Supervisor.Accountable
import CitedReport.Proofs.Supervisor.Pace
import CitedReport.Proofs.Run.Summary
import CitedReport.Proofs.InternalSearch.Evidence
import CitedReport.Proofs.InternalSearch.Authority
import CitedReport.Proofs.Citation.Substitution
import CitedReport.Proofs.Citation.Escaping
import CitedReport.Proofs.Task.Listing
import CitedReport.Proofs.Task.Passage
import CitedReport.Proofs.Search.Quotations
import CitedReport.Proofs.Chars.Case
import CitedReport.Proofs.Html.Pieces
import CitedReport.Proofs.Html.Entities
import CitedReport.Proofs.Html.Blocks
import CitedReport.Proofs.Html.Unseen
import CitedReport.Proofs.WebAddress.Reading
import CitedReport.Proofs.WebAddress.Finding
import CitedReport.Proofs.Clarify.Outcomes
import CitedReport.Proofs.Citation.Runs
import CitedReport.Proofs.Search.Hits
import CitedReport.Proofs.Json.Arrangement
import CitedReport.Proofs.Message.Content
import CitedReport.Proofs.Message.Usage
import CitedReport.Proofs.Run.WrittenForms
import CitedReport.Proofs.Json.Printing
import CitedReport.Proofs.ChatService.Replay
