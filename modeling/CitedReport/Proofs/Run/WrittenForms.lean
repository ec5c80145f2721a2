import CitedReport.Relationship
import CitedReport.Report
import CitedReport.Source
import CitedReport.Supervisor
import CitedReport.Proofs.Message.Content

/-!
# The written forms of what a run works with

What a run works with is written in JSON and read back: contents of messages, tool outputs,
verdicts, task results, the state of the supervisor, what is known of the relationship, requests and
outcomes. `RoundTrips` says that a value is read back from what is written for it and from the
sorted form of that, so that two values never have the same written form; `LeavesOut` says that an
optional text that is absent is left out, and that a member that is `null` would mean the same. Each
type has one lemma, `readsBack`, for every arrangement of the members.
-/

namespace CitedReport

open Json

/-- Values are read back from the JSON that is written for them. -/
structure RoundTrips {α : Type} (write : α → Json) (read : Json → Option α) : Prop where
  /-- A value is read back with the members in written order. -/
  written : ∀ a, read (write a) = some a
  /-- It is read back with the members in increasing order of their keys. -/
  sorted : ∀ a, read (write a).sorted = some a
  /-- Different values are written differently, whatever the order of the members. -/
  injective : ∀ a b, (write a).sorted = (write b).sorted → a = b

/-- An optional text of a value has a member of its own. -/
structure LeavesOut {α : Type} (key : String) (text? : α → Option String) (write : α → Json)
    (read : Json → Option α) : Prop where
  /-- The member is there when the text is, and never `null`. -/
  written : ∀ a, (write a).member? key = (text? a).map .string
  /-- In any object, a member that is `null` means the same as none. -/
  null : ∀ before after, key ∉ keys (before ++ after) →
    read (.object (before ++ (key, .null) :: after)) = read (.object (before ++ after))

/-- What is read back from every arrangement is read back from the two that are written. -/
theorem RoundTrips.of_readsBack {α : Type} {write : α → Json} {read : Json → Option α}
    (h : ∀ {arrange}, Arranges arrange → ReadsBack arrange write read) :
    RoundTrips write read where
  written := h arranges_id
  sorted := h arranges_sorted
  injective a b hab := by
    -- the one sorted form is read as both
    have ha : read (write a).sorted = some a := h arranges_sorted a
    have hb : read (write b).sorted = some b := h arranges_sorted b
    rw [hab, hb] at ha
    exact (Option.some.inj ha).symm

/-! ## Records with an optional text -/

section

variable {α : Type} {declared : List String} {key : String} {before after : List (String × Json)}

/-- A record is read alike with a `null` for its optional text and without it. -/
theorem Json.bind_record?_null {build : Record → Option α}
    (hnew : key ∉ keys (before ++ after))
    (hbuild : build ⟨false, before ++ (key, .null) :: after⟩ = build ⟨false, before ++ after⟩) :
    (record? declared (.object (before ++ (key, .null) :: after))).bind build
      = (record? declared (.object (before ++ after))).bind build := by
  rw [record?, record?, distinctKeys_insert hnew]
  split
  · exact hbuild
  · rfl

/-- A required field is read past a member that is `null`. -/
theorem Json.required_null {name : String} (hname : name ≠ key)
    (hnew : key ∉ keys (before ++ after)) (read : Json → Option α) :
    Record.required ⟨false, before ++ (key, .null) :: after⟩ name read
      = Record.required ⟨false, before ++ after⟩ name read := by
  rw [Record.required, Record.required, Record.value?, Record.value?, lookup_insert hnew,
    if_neg hname]

/-- An optional field that is `null` reads as one that is not there. -/
theorem Json.withDefault_null (hnew : key ∉ keys (before ++ after)) (read : Json → Option α) :
    Record.withDefault ⟨false, before ++ (key, .null) :: after⟩ key none (nullable read)
      = Record.withDefault ⟨false, before ++ after⟩ key none (nullable read) := by
  have habsent : lookup key (before ++ after) = none := lookup_eq_none_iff.2 hnew
  rw [Record.withDefault, Record.withDefault, Record.value?, Record.value?, lookup_insert hnew,
    if_pos rfl, habsent]
  rfl

end

namespace SourceRef

/-- A source is read back. -/
theorem readsBack {arrange : Json → Json} (h : Arranges arrange) :
    ReadsBack arrange toJson ofJson? := by
  rintro ⟨url, title⟩
  obtain ⟨members, hmembers, hr⟩ := h.object ([("url", .string url)] ++
    optionalMember "title" Json.string title) (nodup_keys_optionalMember _ (by simp) (by simp) _)
  have hwritten : arrange (toJson ⟨url, title⟩) = .object members := hmembers
  have hurl := hr.required "url" (lookup_append_optionalMember _ (by decide) _)
    (h.readsBack_string url)
  have htitle := hr.optionalText h "title" (lookup_optionalMember _ (by simp) _)
  simp [ofJson?, hwritten, hr.record?, hurl, htitle]

/-- The title of a source is left out if there is none. -/
theorem leavesOut : LeavesOut "title" SourceRef.title toJson ofJson? where
  written s := lookup_optionalMember _
    (by simp : "title" ∉ keys [("url", .string s.url)]) s.title
  null before after hnew := by
    refine bind_record?_null hnew ?_
    simp only [required_null (by decide : "url" ≠ "title") hnew, withDefault_null hnew]

end SourceRef

namespace Verdict

/-- A verdict is read back. -/
theorem readsBack {arrange : Json → Json} (h : Arranges arrange) :
    ReadsBack arrange toJson ofJson? := by
  rintro ⟨passes, prompt⟩
  obtain ⟨members, hmembers, hr⟩ := h.object ([("passes", .bool passes)] ++
    optionalMember "revision_prompt" Json.string prompt)
    (nodup_keys_optionalMember _ (by simp) (by simp) _)
  have hwritten : arrange (toJson ⟨passes, prompt⟩) = .object members := hmembers
  have hpasses := hr.required "passes" (lookup_append_optionalMember _ (by decide) _)
    (h.readsBack_bool passes)
  have hprompt := hr.optionalText h "revision_prompt" (lookup_optionalMember _ (by simp) _)
  simp [ofJson?, hwritten, hr.record?, hpasses, hprompt]

/-- The prompt of a verdict is left out if there is none. -/
theorem leavesOut : LeavesOut "revision_prompt" Verdict.revisionPrompt toJson ofJson? where
  written v := lookup_optionalMember _
    (by simp : "revision_prompt" ∉ keys [("passes", .bool v.passes)]) v.revisionPrompt
  null before after hnew := by
    refine bind_record?_null hnew ?_
    simp only [required_null (by decide : "passes" ≠ "revision_prompt") hnew, withDefault_null hnew]

end Verdict

namespace SubjectType

/-- A kind of subject is read back. -/
theorem readsBack {arrange : Json → Json} (h : Arranges arrange) :
    ReadsBack arrange toJson ofJson? := by
  intro t
  rw [toJson, h.string]
  cases t <;> rfl

end SubjectType

namespace RunRequest

/-- A request is read back. -/
theorem readsBack {arrange : Json → Json} (h : Arranges arrange) :
    ReadsBack arrange toJson ofJson? := by
  rintro ⟨query, subject, focusArea⟩
  obtain ⟨members, hmembers, hr⟩ := h.object ([("query", .string query),
    ("subject_type", subject.toJson)] ++ optionalMember "focus_area" Json.string focusArea)
    (nodup_keys_optionalMember _ (by simp) (by simp) _)
  have hwritten : arrange (toJson ⟨query, subject, focusArea⟩) = .object members := hmembers
  have hquery := hr.required "query" (lookup_append_optionalMember _ (by decide) _)
    (h.readsBack_string query)
  have hsubject := hr.required "subject_type" (lookup_append_optionalMember _ (by decide) _)
    (SubjectType.readsBack h subject)
  have hfocusArea := hr.optionalText h "focus_area" (lookup_optionalMember _ (by simp) _)
  simp [ofJson?, hwritten, hr.record?, hquery, hsubject, hfocusArea]

/-- The focus of a request is left out if there is none. -/
theorem leavesOut : LeavesOut "focus_area" RunRequest.focusArea toJson ofJson? where
  written r := lookup_optionalMember _ (by simp : "focus_area" ∉
    keys [("query", .string r.query), ("subject_type", r.subject.toJson)]) r.focusArea
  null before after hnew := by
    refine bind_record?_null hnew ?_
    simp only [required_null (by decide : "query" ≠ "focus_area") hnew,
      required_null (by decide : "subject_type" ≠ "focus_area") hnew, withDefault_null hnew]

end RunRequest

namespace ListedSource

/-- A listed source is read back. -/
theorem readsBack {arrange : Json → Json} (h : Arranges arrange) :
    ReadsBack arrange toJson ofJson? := by
  rintro ⟨id, url, description⟩
  obtain ⟨members, hmembers, hr⟩ := h.object ([("id", .nat id), ("url", .string url)] ++
    optionalMember "description" Json.string description)
    (nodup_keys_optionalMember _ (by simp) (by simp) _)
  have hwritten : arrange (toJson ⟨id, url, description⟩) = .object members := hmembers
  have hid := hr.required "id" (lookup_append_optionalMember _ (by decide) _) (h.readsBack_nat id)
  have hurl := hr.required "url" (lookup_append_optionalMember _ (by decide) _)
    (h.readsBack_string url)
  have hdescription := hr.optionalText h "description" (lookup_optionalMember _ (by simp) _)
  simp [ofJson?, hwritten, hr.record?, hid, hurl, hdescription]

/-- The description of a listed source is left out if there is none. -/
theorem leavesOut : LeavesOut "description" ListedSource.description toJson ofJson? where
  written s := lookup_optionalMember _ (by simp : "description" ∉
    keys [("id", .nat s.id), ("url", .string s.url)]) s.description
  null before after hnew := by
    refine bind_record?_null hnew ?_
    simp only [required_null (by decide : "id" ≠ "description") hnew,
      required_null (by decide : "url" ≠ "description") hnew, withDefault_null hnew]

end ListedSource

/-! ## Records without one -/

/-- The output of a tool is read back. -/
theorem ToolOutput.readsBack {arrange : Json → Json} (h : Arranges arrange) :
    ReadsBack arrange toJson ofJson? := by
  rintro ⟨content, sources⟩
  obtain ⟨members, hwritten, hr⟩ := h.object [("content", .string content),
    ("sources", ofList SourceRef.toJson sources)] (by simp)
  have hcontent := hr.required "content" rfl (h.readsBack_string content)
  have hsources : Record.withDefault ⟨false, members⟩ "sources" [] (listOf SourceRef.ofJson?)
      = some sources :=
    hr.withDefault "sources" rfl (h.readsBack_ofList (SourceRef.readsBack h) sources)
  simp [ofJson?, toJson, hwritten, hr.record?, hcontent, hsources]

/-- The result of a task is read back. -/
theorem TaskResult.readsBack {arrange : Json → Json} (h : Arranges arrange) :
    ReadsBack arrange toJson ofJson? := by
  rintro ⟨group, finding, rawNotes⟩
  obtain ⟨members, hwritten, hr⟩ := h.object [("question_group", .string group),
    ("compressed_finding", .string finding), ("raw_notes", ofList Json.string rawNotes)] (by simp)
  have hgroup := hr.required "question_group" rfl (h.readsBack_string group)
  have hfinding := hr.required "compressed_finding" rfl (h.readsBack_string finding)
  have hrawNotes := hr.required "raw_notes" rfl (h.readsBack_ofList h.readsBack_string rawNotes)
  simp [ofJson?, toJson, hwritten, hr.record?, hgroup, hfinding, hrawNotes]

/-- The state of a supervisor is read back. -/
theorem SupervisorState.readsBack {arrange : Json → Json} (h : Arranges arrange) :
    ReadsBack arrange toJson ofJson? := by
  rintro ⟨iterations, completed, notes, rawNotes⟩
  obtain ⟨members, hwritten, hr⟩ := h.object [("research_iterations", .nat iterations),
    ("completed_groups", ofList Json.string completed), ("notes", ofList Json.string notes),
    ("raw_notes", ofList Json.string rawNotes)] (by simp)
  have htexts := h.readsBack_ofList h.readsBack_string
  have hiterations := hr.required "research_iterations" rfl (h.readsBack_nat iterations)
  have hcompleted := hr.required "completed_groups" rfl (htexts completed)
  have hnotes := hr.required "notes" rfl (htexts notes)
  have hrawNotes := hr.required "raw_notes" rfl (htexts rawNotes)
  simp [ofJson?, toJson, hwritten, hr.record?, hiterations, hcompleted, hnotes, hrawNotes]

/-- A report is read back, however its status is read from its word. -/
theorem Report.readsBack {arrange : Json → Json} (h : Arranges arrange)
    {status? : Json → Option ReportStatus} (hstatus : ∀ s, status? (.string s.name) = some s) :
    ReadsBack arrange toJson (read status?) := by
  rintro ⟨content, status, revisions, exceeded, briefExceeded, sources⟩
  obtain ⟨members, hwritten, hr⟩ := h.object [("content", .string content),
    ("status", status.toJson), ("revision_count", .nat revisions),
    ("max_revisions_exceeded", .bool exceeded),
    ("brief_max_revisions_exceeded", .bool briefExceeded),
    ("sources", ofList ListedSource.toJson sources)] (by simp)
  have hword : status? (arrange status.toJson) = some status := by
    rw [ReportStatus.toJson, h.string, hstatus]
  have hcontent := hr.required "content" rfl (h.readsBack_string content)
  have hstatus' := hr.required "status" rfl hword
  have hrevisions := hr.required "revision_count" rfl (h.readsBack_nat revisions)
  have hexceeded := hr.required "max_revisions_exceeded" rfl (h.readsBack_bool exceeded)
  have hbriefExceeded :=
    hr.required "brief_max_revisions_exceeded" rfl (h.readsBack_bool briefExceeded)
  have hsources :=
    hr.required "sources" rfl (h.readsBack_ofList (ListedSource.readsBack h) sources)
  simp [read, toJson, hwritten, hr.record?, hcontent, hstatus', hrevisions, hexceeded,
    hbriefExceeded, hsources]

/-! ## Alternatives -/

/-- What is written with a tag is read as that alternative, with the other members. -/
theorem Json.tagged?_arranged {arrange : Json → Json} (h : Arranges arrange) (tag name : String)
    (members : List (String × Json)) (hdistinct : (keys ((tag, .string name) :: members)).Nodup)
    (hreadable : membersReadable members = true) :
    ∃ rest, tagged? tag (arrange (.object ((tag, .string name) :: members)))
        = some (name, .object rest) ∧ Rearranged arrange members rest := by
  obtain ⟨members', hwritten, hr⟩ := h.object _ hdistinct
  have hreadable' := h.isReadable (.object ((tag, .string name) :: members)) hreadable
  rw [hwritten] at hreadable' ⊢
  exact hr.taggedBy? h (List.nodup_cons.1 hdistinct).1 hreadable' rfl

/-- A relationship status is read back. -/
theorem RelationshipStatus.readsBack {arrange : Json → Json} (h : Arranges arrange) :
    ReadsBack arrange toJson ofJson? := by
  intro status
  cases status with
  | existingClient evidence =>
    obtain ⟨rest, htagged, hr⟩ := tagged?_arranged h "status" "existing_client"
      [("evidence", .string evidence)] (by simp) rfl
    have hevidence := hr.required "evidence" rfl (h.readsBack_string evidence)
    simp [ofJson?, toJson, htagged, hr.record?, hevidence]
  | noPriorEngagement =>
    obtain ⟨rest, htagged, -⟩ := tagged?_arranged h "status" "no_prior_engagement" [] (by simp) rfl
    simp [ofJson?, toJson, htagged, isBare]
  | unknown =>
    obtain ⟨rest, htagged, -⟩ := tagged?_arranged h "status" "unknown" [] (by simp) rfl
    simp [ofJson?, toJson, htagged, isBare]

/-- All of a written source can be had. -/
theorem ListedSource.isReadable_toJson (s : ListedSource) : s.toJson.isReadable = true := by
  obtain ⟨id, url, description⟩ := s
  cases description <;> rfl

/-- All of a written report can be had. -/
theorem Report.isReadable_toJson (r : Report) : r.toJson.isReadable = true := by
  have hsources : allReadable (r.sources.map ListedSource.toJson) = true :=
    allReadable_map fun s _ => s.isReadable_toJson
  simp only [toJson, isReadable, membersReadable, ofList, ReportStatus.toJson, nat, hsources,
    Bool.and_self]

/-- The outcome of a run is read back. -/
theorem RunOutcome.readsBack {arrange : Json → Json} (h : Arranges arrange) :
    ReadsBack arrange toJson ofJson? := by
  intro outcome
  cases outcome with
  | report r =>
    obtain ⟨rest, htagged, hr⟩ := tagged?_arranged h "kind" "report" [("report", r.toJson)]
      (by simp) (by simp only [membersReadable, r.isReadable_toJson, Bool.and_self])
    -- the status of a report that is inside an outcome is read in its own way
    have hstatus : ∀ s : ReportStatus, ReportStatus.ofAside? (.string s.name) = some s :=
      fun s => by cases s <;> rfl
    have hreport := hr.required "report" rfl (Report.readsBack h hstatus r)
    simp [ofJson?, toJson, htagged, hr.record?, hreport]
  | clarification question =>
    obtain ⟨rest, htagged, hr⟩ := tagged?_arranged h "kind" "clarification"
      [("question", .string question)] (by simp) rfl
    have hquestion := hr.required "question" rfl (h.readsBack_string question)
    simp [ofJson?, toJson, htagged, hr.record?, hquestion]
  | failed message =>
    obtain ⟨rest, htagged, hr⟩ := tagged?_arranged h "kind" "failed"
      [("message", .string message)] (by simp) rfl
    have hmessage := hr.required "message" rfl (h.readsBack_string message)
    simp [ofJson?, toJson, htagged, hr.record?, hmessage]

/-! ## All of them -/

/-- Everything that a run works with is read back from its written form, two values never have one
written form, and an optional text that is absent leaves no trace: it is never written as `null`,
and a `null` in its place would be read alike. -/
theorem roundTrips_leavesOut :
    RoundTrips Content.toJson Content.ofJson? ∧
    RoundTrips ToolOutput.toJson ToolOutput.ofJson? ∧
    RoundTrips Verdict.toJson Verdict.ofJson? ∧
    RoundTrips TaskResult.toJson TaskResult.ofJson? ∧
    RoundTrips SupervisorState.toJson SupervisorState.ofJson? ∧
    RoundTrips RelationshipStatus.toJson RelationshipStatus.ofJson? ∧
    RoundTrips RunRequest.toJson RunRequest.ofJson? ∧
    RoundTrips RunOutcome.toJson RunOutcome.ofJson? ∧
    LeavesOut "title" SourceRef.title SourceRef.toJson SourceRef.ofJson? ∧
    LeavesOut "revision_prompt" Verdict.revisionPrompt Verdict.toJson Verdict.ofJson? ∧
    LeavesOut "focus_area" RunRequest.focusArea RunRequest.toJson RunRequest.ofJson? ∧
    LeavesOut "description" ListedSource.description ListedSource.toJson ListedSource.ofJson? :=
  ⟨.of_readsBack Content.readsBack, .of_readsBack ToolOutput.readsBack,
    .of_readsBack Verdict.readsBack, .of_readsBack TaskResult.readsBack,
    .of_readsBack SupervisorState.readsBack, .of_readsBack RelationshipStatus.readsBack,
    .of_readsBack RunRequest.readsBack, .of_readsBack RunOutcome.readsBack,
    SourceRef.leavesOut, Verdict.leavesOut, RunRequest.leavesOut, ListedSource.leavesOut⟩

end CitedReport
