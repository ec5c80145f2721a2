import CitedReport.InternalSearch
import CitedReport.Proofs.Citation.Carried
import CitedReport.Proofs.Relationship.StatusLines
import CitedReport.Proofs.Task.Integrity

/-!
# Positive evidence reaches the consolidated findings

What internal search has on record stands on a line of its own, between the query and the documents.
That passage (`record`) is carried through everything that is done to an output: it is renumbered
and trimmed, put into a finding among other texts, taken out of the finding again as part of its
body, and renumbered once more with citations taken out. In the end it is still a line of its own,
and so it is found there, whatever the texts around it say (`kinds_record`).
-/

namespace CitedReport

open Chars Citation Consolidation Dialogue Relationship

namespace InternalAnswer

/-- What an output has on record, from the end of the query on. -/
def record (words : String) : List Char :=
  "\":\n\n".toList ++ ("Relationship status: ".toList ++ words.toList)

/-- The words for a relationship that there is or was. -/
def Positive (words : String) : Prop := words = "Existing client" ∨ words = "Past engagement"

/-- The passage is neither trimmed nor renumbered. -/
theorem sturdy_record {words : String} (h : Positive words) : Sturdy (record words) := by
  -- behind its bracket a marker has digits, separators and blanks
  have hquote : ∀ m : Marker, m.WellFormed → '"' ∉ m.text.tail := fun m hm hc =>
    absurd (Marker.class_of_mem_tail hm hc) (by decide)
  rcases h with rfl | rfl
  · exact ⟨⟨'"', ":\n\nRelationship status: Existing clien".toList, 't', rfl, by decide, by decide,
      hquote⟩, by decide⟩
  · exact ⟨⟨'"', ":\n\nRelationship status: Past engagemen".toList, 't', rfl, by decide, by decide,
      hquote⟩, by decide⟩

/-- An output has on record what the answer says. -/
theorem carries_render (a : InternalAnswer) (query : String) (most : Nat) {words : String}
    (h : a.relationship.bind canonical? = some words) :
    Carries (record words) (a.render query most).content.toList := by
  obtain ⟨found, hfound⟩ : ∃ found, (a.render query most).content
      = "Internal search results for \"" ++ query ++ "\":\n\n" ++
        ("Relationship status: " ++ words ++ "\n\n") ++ found := by
    refine ⟨if a.documents.take most = [] then "No internal documents matched."
      else Text.join "\n\n" (entries 1 (a.documents.take most)), ?_⟩
    unfold render
    rw [h]
  have hend : ("\n\n" : String).toList = ['\n', '\n'] := by decide
  have htext : (a.render query most).content.toList
      = ("Internal search results for \"" ++ query).toList ++ record words ++
        '\n' :: '\n' :: found.toList := by
    rw [hfound, record]
    simp only [String.toList_append, hend, List.append_assoc, List.cons_append, List.nil_append]
  exact ⟨_, _, htext, fun c hc => (Option.some.inj hc).symm⟩

/-- Where the passage stands, a status line of its kind begins. -/
theorem kinds_record {words : String} (h : Positive words) {cs : List Char}
    (hcs : Carries (record words) cs) : ∃ k ∈ kinds cs, k ≠ .absent := by
  obtain ⟨before, after, rfl, hafter⟩ := hcs
  obtain ⟨status, k, hk, hrecord, hapart, hlast⟩ : ∃ (status : List Char) (k : StatusKind),
      k ≠ .absent ∧ record words = ['"', ':', '\n'] ++ '\n' :: status ∧
      StandsApart (status ++ after) ∧ lastStatus? (status ++ after) = some (k, after) := by
    -- the last word is over, since the text is or a line feed follows
    rcases h with rfl | rfl
    · refine ⟨"Relationship status: Existing client".toList, .existing, by decide, rfl, rfl, ?_⟩
      cases after with
      | nil => rfl
      | cons c after =>
        obtain rfl : c = '\n' := hafter c rfl
        rfl
    · refine ⟨"Relationship status: Past engagement".toList, .past, by decide, rfl, rfl, ?_⟩
      cases after with
      | nil => rfl
      | cons c after =>
        obtain rfl : c = '\n' := hafter c rfl
        rfl
  have htext : before ++ record words ++ after
      = before ++ ['"', ':', '\n'] ++ '\n' :: (status ++ after) := by
    rw [hrecord]
    simp
  rw [htext, kinds_append_newline hapart, kinds_of_some hlast]
  exact ⟨k, List.mem_append_right _ List.mem_cons_self, hk⟩

end InternalAnswer

namespace Task

open InternalAnswer

/-- A passage in an output that is neither trimmed nor renumbered is in the body of the finding. -/
theorem carries_body {group : String} {earlier later : List Received} {x : Received}
    {passage : List Char} (hp : Sturdy passage) (h : Carries passage x.output.content.toList)
    (summary : Option String) (sources : LocalSources) :
    Carries passage (Note.parse (assemble group (recordAll {} (earlier ++ x :: later)).1 summary
      sources)).body.toList := by
  obtain ⟨front, closing, heq, hfront⟩ :=
    exists_finding_split group earlier later x summary sources
  obtain ⟨extra, block, -, hparse⟩ := sources.exists_parse_append_render
  have hcontent :
      Carries passage (renumberContent (x.numbers earlier) x.output.content).toList := by
    rw [toList_renumberContent]
    exact h.flatMap_pieces hp fun _ => rfl
  have hbetween := (hcontent.trim hp).between
    (passageOpening group (recordAll {} earlier).1 x).toList (closing.toList ++ extra)
  rw [heq, hparse, String.toList_ofList, hfront, List.append_assoc, List.cons_append]
  exact hbetween.trimEnd hp

/-- Positive evidence is never lost. Let a task be completed, and let one of the outputs that it
received be that of a search with the subject on record as a client, now or in the past. Then the
consolidated findings say so, whatever notes the finding of the task is consolidated with. -/
theorem positive_evidence_kept {s : ModelSettings} {tools : Toolbox} {maxTurns : Nat}
    {group : String} {subject : SubjectType} {trace : List Exchange} {result : TaskResult}
    {x : Received} {a : InternalAnswer} {query : String} {most : Nat} {words : String}
    (hheld : Held (execute s tools maxTurns group subject) trace result)
    (hdone : result.isFailure = false) (hx : x ∈ received tools trace)
    (houtput : x.output = a.render query most)
    (hrelationship : a.relationship.bind canonical? = some words) (hwords : Positive words)
    (policy : PrunePolicy) (maxSources : Nat) (brief : String) (notes : List String)
    (subject' : SubjectType) (hnote : result.finding ∈ notes) :
    ∃ evidence, detect (consolidate policy maxSources brief notes subject').findings
      = .existingClient evidence := by
  have hp := sturdy_record hwords
  obtain ⟨summary, hfinding⟩ := exists_finding_eq hheld hdone
  obtain ⟨earlier, later, hreceived⟩ := List.append_of_mem hx
  -- the passage from the output into the body of the finding
  have hcontent : Carries (record words) x.output.content.toList := by
    rw [houtput]
    exact carries_render a query most hrelationship
  have hbody : Carries (record words) (Note.parse result.finding).body.toList := by
    rw [hfinding, hreceived]
    exact carries_body hp hcontent summary _
  -- the finding as it is consolidated, and the status line in it
  generalize hsources : listed policy (max 1 maxSources) (notes.map Note.parse) = sources
  have hmem : Consolidation.finding sources (Note.parse result.finding)
      ∈ (consolidate policy maxSources brief notes subject').findings := by
    rw [consolidate, hsources]
    exact List.mem_map_of_mem (List.mem_map_of_mem hnote)
  have hcarries : Carries (record words)
      (Consolidation.finding sources (Note.parse result.finding)).toList := by
    rw [Consolidation.finding, String.toList_ofList]
    exact hbody.renumber hp _
  obtain ⟨k, hk, hpositive⟩ := kinds_record hwords hcarries
  generalize (consolidate policy maxSources brief notes subject').findings = findings at hmem ⊢
  have hrecord : (detect findings).onRecord = some true := by
    rw [onRecord_detect, recorded, if_pos]
    exact List.any_eq_true.2 ⟨k, List.mem_flatMap.2 ⟨_, hmem, hk⟩, by simpa using hpositive⟩
  cases hdetect : detect findings with
  | existingClient evidence => exact ⟨evidence, rfl⟩
  | noPriorEngagement =>
    rw [hdetect] at hrecord
    cases hrecord
  | unknown =>
    rw [hdetect] at hrecord
    cases hrecord

/-- A search that has the subject on record under a name of its own for clients, called once. -/
def crmTask : OneCall :=
  { tool := ⟨"internal_search", "Searches internal documents.", Json.Sorted.of (.object []), 30000⟩
    arguments := Json.Sorted.of (.object [("query", .string "Acme")])
    output := InternalAnswer.render ⟨[], some " former_client "⟩ "Acme" 5
    group := "Relationship"
    subject := .company }

/-- The evidence of the search is found among other notes. -/
theorem positive_evidence_kept_crm :
    Held (execute crmTask.model crmTask.tools 1 "Relationship" .company) crmTask.trace
        crmTask.result ∧
      ∃ evidence, detect (consolidate .mostCited 1 ""
          ["No prior engagement.", crmTask.result.finding] .company).findings
        = .existingClient evidence := by
  have hx : crmTask.received ∈ received crmTask.tools crmTask.trace := by
    rw [crmTask.received_trace]
    exact List.mem_cons_self
  have houtput : crmTask.received.output
      = InternalAnswer.render ⟨[], some " former_client "⟩ "Acme" 5 :=
    rfl
  have hrelationship : (InternalAnswer.mk [] (some " former_client ")).relationship.bind canonical?
      = some "Past engagement" := by
    have htrimmed : Text.trimmed? " former_client " = some "former_client" := by decide
    have hkey :
        (Text.asciiLower "former_client").map (fun c => if c = '_' ∨ c = '-' then ' ' else c)
          = "former client" := by
      rw [← String.toList_inj, String.toList_map]
      decide
    simp only [Option.bind_some, canonical?, htrimmed, Option.map_some, hkey]
    decide
  exact ⟨crmTask.held, positive_evidence_kept crmTask.held crmTask.completed hx houtput
    hrelationship (.inr rfl) .mostCited 1 "" _ .company
    (List.mem_cons_of_mem _ List.mem_cons_self)⟩

end Task

end CitedReport
