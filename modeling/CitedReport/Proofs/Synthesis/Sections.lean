import CitedReport.Synthesis.Sections
import CitedReport.Proofs.Consolidation.Sources
import CitedReport.Proofs.Note.Entries

/-!
# The section of sources at the end of a report

Whatever the writer has written, what comes out of `replaceSources` ends in the generated section.
It is trimmed on the way, and a line feed is put back. On a consolidated context that changes
nothing, since the last line of the section is an entry that ends in text.
-/

namespace CitedReport.Synthesis

open Chars

/-- The text ends in the generated section of sources. -/
def EndsWith (ending text : String) : Prop := ∃ body, text = body ++ ending

/-- The generated section of sources as it stands at the end of a report. -/
def closing (c : ResearchContext) : String := "\n\n" ++ Text.trimEnd (sourcesSection c) ++ "\n"

/-- It takes its place behind what is left of any text. -/
theorem replaceSources_sourcesSection (report : String) (c : ResearchContext) :
    replaceSources report (sourcesSection c)
      = String.ofList (withoutSources report.toList) ++ closing c := by
  rw [replaceSources, closing]
  simp only [String.append_assoc]

/-- A report whose sources are replaced ends in the new section. -/
theorem endsWith_replaceSources (report : String) (c : ResearchContext) :
    EndsWith (closing c) (replaceSources report (sourcesSection c)) :=
  ⟨_, replaceSources_sourcesSection report c⟩

/-- The fallback report ends in the generated section, too. -/
theorem endsWith_fallbackReport (c : ResearchContext) (e : ResearchError) :
    EndsWith (closing c) (fallbackReport c e) :=
  endsWith_replaceSources _ c

/-! ## Sections that are not changed by trimming -/

/-- An entry of the section of sources, without its line feed. -/
def entryLine (s : ListedSource) : String :=
  "[" ++ toString s.id ++ "] " ++ s.url ++
    match s.description with
    | some d => " - " ++ d
    | none => ""

/-- The entries of a list of sources end in text when those of the notes do. -/
theorem endsInText_entryLine {s : ListedSource} (hurl : EndsInText s.url.toList)
    (hdesc : ∀ d ∈ s.description, EndsInText d.toList) : EndsInText (entryLine s).toList := by
  rw [entryLine]
  cases hd : s.description with
  | none =>
    simp only [String.append_empty, String.toList_append]
    exact hurl.append_left _
  | some d =>
    simp only [String.toList_append]
    exact ((hdesc d hd).append_left _).append_left _

/-- The section of sources consists of a heading and the entries, each with a line feed. -/
theorem sourcesSection_eq (c : ResearchContext) :
    c.sourcesSection
      = "## Sources\n\n" ++ String.join (c.sources.map fun s => entryLine s ++ "\n") :=
  rfl

/-- Sources whose entries end in text make a section that is text but for its last line feed. -/
theorem exists_section_eq {c : ResearchContext} (hne : c.sources ≠ [])
    (h : ∀ s ∈ c.sources, EndsInText (entryLine s).toList) :
    ∃ text, EndsInText text ∧ c.sourcesSection.toList = text ++ ['\n'] := by
  obtain ⟨front, last, hlast⟩ := (List.eq_nil_or_concat' c.sources).resolve_left hne
  have hend := h last (by simp [hlast])
  refine ⟨("## Sources\n\n" ++ String.join (front.map fun s => entryLine s ++ "\n")).toList ++
    (entryLine last).toList, hend.append_left _, ?_⟩
  rw [sourcesSection_eq, hlast]
  simp [String.toList_join]

/-- Trimming takes the line feed off such a section and nothing else. -/
theorem trimEnd_section {document : String} {text : List Char} (htext : EndsInText text)
    (h : document.toList = text ++ ['\n']) : Text.trimEnd document ++ "\n" = document := by
  have hblank : ∀ c ∈ ['\n'], isBlank c = true := by
    intro c hc
    rw [List.mem_singleton.1 hc]
    decide
  apply String.toList_injective
  rw [String.toList_append, Text.trimEnd, String.toList_ofList, h,
    trimEnd_append_blanks hblank, trimEnd_eq_self htext]
  rfl

/-- The sources of a consolidated context end in text. -/
theorem endsInText_of_mem_consolidate {policy : PrunePolicy} {maxSources : Nat} {brief : String}
    {notes : List String} {subject : SubjectType} {s : ListedSource}
    (h : s ∈ (Consolidation.consolidate policy maxSources brief notes subject).sources) :
    EndsInText (entryLine s).toList := by
  obtain ⟨n, hn, e, he, hurl, hdesc⟩ := Consolidation.exists_of_mem_listed h
  obtain ⟨note, -, rfl⟩ := List.mem_map.1 hn
  obtain ⟨hurl', hdesc'⟩ := Note.endsInText_of_mem_sources he
  exact endsInText_entryLine (hurl ▸ hurl') (hdesc ▸ hdesc')

/-- The section of sources of a consolidated context is as it was generated. -/
theorem closing_consolidate (policy : PrunePolicy) (maxSources : Nat) (brief : String)
    (notes : List String) (subject : SubjectType) :
    let c := Consolidation.consolidate policy maxSources brief notes subject
    closing c = "\n\n" ++ sourcesSection c := by
  intro c
  have htrim : Text.trimEnd (sourcesSection c) ++ "\n" = sourcesSection c := by
    unfold sourcesSection
    split
    · decide
    · next hne =>
      obtain ⟨text, htext, heq⟩ := exists_section_eq hne fun s => endsInText_of_mem_consolidate
      exact trimEnd_section htext heq
  rw [closing, String.append_assoc, htrim]

end CitedReport.Synthesis
