import CitedReport.Proofs.Consolidation.Findings
import CitedReport.Proofs.Task.OneCall

/-!
# Where the sources of a report come from

A list of sources is written at the end of a finding and read off it again, so whatever text gets
into a finding might be read as an entry. Of the texts from outside two can be: a title with more
than one line (`not_returned_title`), and the message of an error that a task fails with. As long as
titles have one line and neither they nor such messages have the heading of a list in them, every
URL that is listed is one that a tool has given (`sources_returned`).
-/

namespace CitedReport

open Chars Citation Consolidation Dialogue

/-- How the note of a failed task reads. -/
theorem TaskResult.toList_finding_failed (group reason : String) :
    (TaskResult.failed group reason).finding.toList
      = "Research failed".toList ++ ':' :: ' ' :: reason.toList := by
  have hmark : (TaskResult.failureMark ++ " ").toList
      = "Research failed".toList ++ [':', ' '] := rfl
  rw [failed, String.toList_append, hmark, List.append_assoc]
  rfl

/-- A note without the heading has no entries. -/
theorem Note.sources_parse_eq_nil {note : String} (h : ¬ sourcesHeading.toList <:+: note.toList) :
    (Note.parse note).sources = [] := by
  rw [Note.parse, splitLast?_eq_none h]

namespace Task

/-- A task that was carried out or has failed, with the exchanges in which it was held. -/
structure Run where
  /-- How the model is asked. -/
  settings : ModelSettings
  /-- The tools. -/
  tools : Toolbox
  /-- How many turns the model has. -/
  maxTurns : Nat
  /-- What is researched. -/
  group : String
  /-- About whom. -/
  subject : SubjectType
  /-- The exchanges. -/
  trace : List Exchange
  /-- What came of it. -/
  result : TaskResult
  /-- The exchanges lead to the result. -/
  held : Held (execute settings tools maxTurns group subject) trace result

namespace Run

/-- A tool has given the URL. -/
def Returned (r : Run) (url : String) : Prop :=
  ∃ x ∈ received r.tools r.trace, ∃ source ∈ x.output.sources, source.url = url

/-- Nothing that is sent to the task can be taken for an entry of a list of sources. -/
structure Clean (r : Run) : Prop where
  /-- The sources are read as they are written. -/
  plain : ∀ x ∈ received r.tools r.trace, ∀ source ∈ x.output.sources, source.Plain
  /-- An error that the model answers with last does not have the heading of a list in it. -/
  noHeading : ∀ e, (answers r.trace).getLast? = some (.error e) →
    ¬ Note.sourcesHeading.toList <:+: e.message.toList

/-- The message that a conversation is too long does not have the heading in it. -/
theorem heading_not_infix_contextOverflow (used limit : Nat) :
    ¬ Note.sourcesHeading.toList <:+: (ModelError.contextOverflow used limit).message.toList := by
  have hdigits : ∀ n : Nat, '#' ∉ (toString n).toList := by
    intro n
    have hindex : (toString n).toList = indexText n := Nat.toList_repr
    rw [hindex]
    exact not_mem_indexText (by decide) n
  refine Note.heading_not_infix_of_not_mem fun hmem => ?_
  have hmem : '#' ∈ ("Context window exceeded: used " ++ toString used ++ " of " ++
      toString limit ++ " tokens").toList := hmem
  simp only [String.toList_append, List.mem_append] at hmem
  rcases hmem with (((h | h) | h) | h) | h
  · exact absurd h (by decide)
  · exact hdigits used h
  · exact absurd h (by decide)
  · exact hdigits limit h
  · exact absurd h (by decide)

/-- The entries of the note of a failed task come from its message. -/
theorem heading_not_infix_failed {reason : String} (group : String)
    (h : ¬ Note.sourcesHeading.toList <:+: reason.toList) :
    ¬ Note.sourcesHeading.toList <:+: (TaskResult.failed group reason).finding.toList := by
  have hcolon : ':' ∉ Note.sourcesHeading.toList := by decide
  rw [TaskResult.toList_finding_failed]
  intro hocc
  -- the heading has no colon, so it stands in front of this one or behind it
  rcases infix_append_cons hcolon hocc with hocc | hocc
  · exact Note.heading_not_infix_of_not_mem (by decide) hocc
  · exact h (LocalSources.heading_infix_of_space_cons hocc)

/-- The URLs that are read off a finding were given by tools. -/
theorem returned_of_mem_sources {r : Run} (h : r.Clean) {e : NoteSource}
    (he : e ∈ (Note.parse r.result.finding).sources) : r.Returned e.url := by
  cases hfailed : r.result.isFailure with
  | true =>
    -- nothing in the message is taken for a list
    obtain ⟨error, hfinding, hcause⟩ := exists_finding_eq_failed r.held hfailed
    have hmessage : ¬ Note.sourcesHeading.toList <:+: error.message.toList := by
      rcases hcause with hlast | ⟨used, rfl⟩
      · exact h.noHeading error hlast
      · exact heading_not_infix_contextOverflow used r.settings.contextWindow
    rw [hfinding, Note.sources_parse_eq_nil (heading_not_infix_failed r.group hmessage)] at he
    cases he
  | false =>
    -- the list at the end is the task's own, and its entries are its sources
    have hplain := plain_of_mem_recordAll h.plain
    obtain ⟨notice, notes, -, hfinding⟩ := exists_assemble_eq r.group
      (recordAll {} (received r.tools r.trace)).1 (remark r.trace)
      (recordAll {} (received r.tools r.trace)).2
    rw [finding_eq r.held hfailed, hfinding, LocalSources.parse_append_render_eq hplain] at he
    obtain ⟨source, hsource, hurl⟩ := LocalSources.exists_of_mem_linesFrom hplain he
    rcases mem_or_exists_of_mem_recordAll hsource with hnone | ⟨x, hx, hgiven⟩
    · cases hnone
    · exact ⟨x, hx, source, hgiven, hurl⟩

end Run

/-- No source gets into a report that no tool has given. Let every run of some tasks be clean,
whether it was completed or has failed. Then the URLs of the entries of its finding were given by
its tools, and so were those of the sources that are listed when the findings are consolidated. -/
theorem sources_returned {runs : List Run} (h : ∀ r ∈ runs, r.Clean) :
    (∀ r ∈ runs, ∀ e ∈ (Note.parse r.result.finding).sources, r.Returned e.url) ∧
      ∀ (policy : PrunePolicy) (maxSources : Nat) (brief : String) (subject : SubjectType),
        ∀ s ∈ (consolidate policy maxSources brief (runs.map fun r => r.result.finding)
            subject).sources,
          ∃ r ∈ runs, r.Returned s.url := by
  refine ⟨fun r hr e he => Run.returned_of_mem_sources (h r hr) he, ?_⟩
  intro policy maxSources brief subject s hs
  obtain ⟨n, hn, e, he, hurl, -⟩ := exists_of_mem_listed hs
  obtain ⟨note, hnote, rfl⟩ := List.mem_map.1 hn
  obtain ⟨r, hr, rfl⟩ := List.mem_map.1 hnote
  exact ⟨r, hr, hurl ▸ Run.returned_of_mem_sources (h r hr) he⟩

/-! ## Runs in which a source could get in -/

/-- A task with one call as a run. -/
def OneCall.run (o : OneCall) : Run where
  settings := o.model
  tools := o.tools
  maxTurns := 1
  group := o.group
  subject := o.subject
  trace := o.trace
  result := o.result
  held := o.held

/-- What the tools of a task with one call have given. -/
theorem OneCall.returned_run_iff {o : OneCall} {url : String} :
    o.run.Returned url ↔ ∃ source ∈ o.output.sources, source.url = url := by
  have hreceived : Task.received o.run.tools o.run.trace = [o.received] := o.received_trace
  rw [Run.Returned, hreceived]
  simp [OneCall.received]

/-- A search that finds one page, with this title. -/
def titleTask (title : String) : OneCall :=
  { tool := ⟨"web_search", "Searches the web.", Json.Sorted.of (.object []), 30000⟩
    arguments := Json.Sorted.of (.object [("query", .string "Acme")])
    output := ⟨"Acme makes anvils [1].", [⟨"https://acme.example", some title⟩]⟩
    group := "Overview"
    subject := .company }

/-- The address of the page is plain. -/
theorem plainUrl_acme : Note.PlainUrl "https://acme.example".toList := by decide

/-- The page is the only source. -/
theorem eq_of_mem_titleTask {title : String} {x : Received} {source : SourceRef}
    (hx : x ∈ received (titleTask title).run.tools (titleTask title).run.trace)
    (hsource : source ∈ x.output.sources) : source = ⟨"https://acme.example", some title⟩ := by
  have hreceived : received (titleTask title).run.tools (titleTask title).run.trace
      = [(titleTask title).received] := (titleTask title).received_trace
  rw [hreceived, List.mem_singleton] at hx
  subst hx
  exact List.mem_singleton.1 hsource

/-- A run is clean when the title is on one line and does not have the heading in it. -/
theorem clean_titleTask {title : String} (hline : '\n' ∉ title.toList)
    (hheading : ¬ Note.sourcesHeading.toList <:+: title.toList) : (titleTask title).run.Clean := by
  constructor
  · intro x hx source hsource
    rw [eq_of_mem_titleTask hx hsource]
    refine ⟨plainUrl_acme, fun t ht => ?_, fun t ht => ?_⟩
    · rw [← Option.some.inj ht]
      exact hline
    · rw [← Option.some.inj ht]
      exact hheading
  · intro e he
    have hlast : (answers (titleTask title).run.trace).getLast?
        = some (.ok (titleTask title).completion) := rfl
    rw [hlast] at he
    cases he

/-- A title that reads like an entry is no entry as long as it is on one line. -/
theorem sources_returned_title :
    let runs := [(titleTask "1. https://b.example").run]
    (∀ r ∈ runs, r.Clean) ∧
      ∀ s ∈ (consolidate .mostCited 5 "" (runs.map fun r => r.result.finding) .company).sources,
        ∃ r ∈ runs, r.Returned s.url := by
  intro runs
  have hheading : ¬ Note.sourcesHeading.toList <:+: "1. https://b.example".toList := by
    intro hocc
    have hmem : '#' ∈ "1. https://b.example".toList := hocc.mem (by decide)
    exact absurd hmem (by decide)
  have hclean : ∀ r ∈ runs, r.Clean := by
    intro r hr
    rw [List.mem_singleton.1 hr]
    exact clean_titleTask (by decide) hheading
  exact ⟨hclean, (sources_returned hclean).2 .mostCited 5 "" .company⟩

/-- A title with more than one line gets a source in that no tool has given, even though it is
trimmed and all URLs are plain. -/
theorem not_returned_title :
    ¬ ∀ r : Run,
      (∀ x ∈ received r.tools r.trace, ∀ source ∈ x.output.sources,
        Note.PlainUrl source.url.toList ∧ ∀ t ∈ source.title, Text.trimmed? t = some t) →
      ∀ e ∈ (Note.parse r.result.finding).sources, r.Returned e.url := by
  intro h
  have hentry : (⟨2, "https://b.example", none⟩ : NoteSource)
      ∈ (Note.parse (titleTask "Acme\n2. https://b.example").result.finding).sources := by
    decide +kernel
  have htrimmed : Text.trimmed? "Acme\n2. https://b.example"
      = some "Acme\n2. https://b.example" := by
    decide +kernel
  have hreturned : (titleTask "Acme\n2. https://b.example").run.Returned "https://b.example" := by
    refine h (titleTask "Acme\n2. https://b.example").run (fun x hx source hsource => ?_)
      ⟨2, "https://b.example", none⟩ hentry
    rw [eq_of_mem_titleTask hx hsource]
    refine ⟨plainUrl_acme, fun t ht => ?_⟩
    rw [← Option.some.inj ht]
    exact htrimmed
  obtain ⟨source, hsource, hurl⟩ := OneCall.returned_run_iff.1 hreturned
  rw [List.mem_singleton.1 hsource] at hurl
  exact absurd hurl (by decide)

end Task

end CitedReport
