import CitedReport.Proofs.Citation.Number
import CitedReport.Proofs.Synthesis.Headings
import CitedReport.Proofs.Synthesis.Sections

/-!
# Replacing the sources once more

A draft that is revised has a generated section of sources already, and it passes through
`replaceSources` again. For the new section to take the place of the old one, the heading that is
found must be the generated one, and nothing behind it may be taken for another section. Both hold
because no line behind the generated heading begins with a hash sign (`exists_section_hashFree`):
whatever the URLs and descriptions of the entries are, each entry takes one line, and that begins
with its number. What a writer has put in front of the section cannot reach into it, since a heading
has no hash signs but its first characters.

So without its sources the new report is what the old one was (`withoutSources_replaceSources`), and
of all sections that are put into a report one after the other the last one counts
(`replaceSources_replaceSources`).
-/

namespace CitedReport.Synthesis

open Chars
open Citation (LineEnds not_mem_indexText)
open Consolidation (consolidate)

/-! ## Texts without headings -/

/-- No line of the text begins with a hash sign. -/
def HashFree (cs : List Char) : Prop :=
  ∀ before rest, cs = before ++ '#' :: rest → ¬ LineBegins before

/-- Without a hash sign no line begins with one. -/
theorem hashFree_of_not_mem {cs : List Char} (h : '#' ∉ cs) : HashFree cs := by
  rintro before rest rfl
  exact absurd (List.mem_append_right before List.mem_cons_self) h

/-- One more line may stand in front, if it does not begin with a hash sign. -/
theorem HashFree.line {l rest : List Char} (hrest : HashFree rest) (hl : '\n' ∉ l)
    (hhead : l.head? ≠ some '#') : HashFree (l ++ '\n' :: rest) := by
  intro before back heq hline
  rcases List.append_eq_append_iff.1 heq with ⟨xs, rfl, hback⟩ | ⟨xs, rfl, hback⟩
  · -- the hash sign stands behind the line
    cases xs with
    | nil => exact absurd (List.cons.inj hback).1 (by decide)
    | cons c xs =>
      obtain ⟨rfl, rfl⟩ := List.cons.inj hback
      have hcons : l ++ '\n' :: xs = (l ++ ['\n']) ++ xs := by simp
      exact hrest xs back rfl (LineBegins.of_append (hcons ▸ hline))
  · -- the hash sign stands in the line, and then it is its first character
    obtain rfl : before = [] :=
      hline.eq_nil_of_not_mem fun hmem => hl (List.mem_append_left xs hmem)
    cases xs with
    | nil => exact absurd (List.cons.inj hback).1 (by decide)
    | cons c xs =>
      obtain rfl := (List.cons.inj hback).1
      exact hhead rfl

/-- A section begins with a hash sign. -/
theorem eq_hash_of_beginsSection {c : Char} {cs : List Char} (h : beginsSection (c :: cs) = true) :
    c = '#' := by
  by_contra hne
  have hsigns : (c :: cs).takeWhile (· == '#') = [] :=
    List.takeWhile_cons_of_neg (by simpa using hne)
  unfold beginsSection at h
  rw [hsigns] at h
  simp at h

/-- No section begins where no line begins with a hash sign. -/
theorem fromSection_eq_nil {atStart : Bool} {cs : List Char}
    (h : ∀ before rest, cs = before ++ '#' :: rest → startsLine atStart before = false) :
    fromSection atStart cs = [] := by
  induction cs generalizing atStart with
  | nil => rfl
  | cons c cs ih =>
    have hlater : fromSection (c == '\n') cs = [] := by
      refine ih fun before rest heq => ?_
      rw [← startsLine_cons atStart]
      exact h (c :: before) rest (by rw [heq, List.cons_append])
    rw [fromSection, hlater]
    split
    · next hhere =>
      obtain ⟨hstart, hsection⟩ := Bool.and_eq_true_iff.1 hhere
      obtain rfl := eq_hash_of_beginsSection hsection
      rw [← startsLine_nil atStart, h [] cs rfl] at hstart
      cases hstart
    · rfl

/-- A text without such lines has no section. -/
theorem HashFree.fromSection {cs : List Char} (h : HashFree cs) : fromSection true cs = [] := by
  refine fromSection_eq_nil fun before rest heq => ?_
  rw [Bool.eq_false_iff]
  exact fun hstart => h before rest heq (startsLine_true_iff.1 hstart)

/-- A heading is the last one when no line behind it begins with a hash sign. What is read there may
take more lines than the heading does, but in what is left still none begins so. -/
theorem exists_split_of_hashFree {h : SourcesHeading} {before after : List Char}
    (hw : h.WellFormed) (hbefore : LineBegins before) (hafter : LineEnds after)
    (hfree : HashFree after) :
    ∃ rest, splitAtSources? true (before ++ (h.text ++ after)) = some (before, rest) ∧
      HashFree rest := by
  -- a line behind the heading that begins with a hash sign is one of those that do not
  have hnone : ∀ {front rest}, h.text ++ after = front ++ '#' :: rest → front ≠ [] →
      ¬ LineBegins front := by
    intro front rest heq hne hfront
    obtain ⟨middle, rfl, hmiddle⟩ := SourcesHeading.exists_append_of_hash hw heq hne hfront
    exact hfree middle rest hmiddle (LineBegins.of_append hfront)
  have hlast : LastHeading (before ++ (h.text ++ after)) before h after := by
    refine ⟨rfl, hbefore, ⟨hw, after, rfl, hafter⟩, fun more later heq hne hmore g hg => ?_⟩
    obtain ⟨rest, rfl⟩ := hg.exists_cons
    exact hnone heq hne ((lineBegins_append_iff hne before).1 hmore)
  obtain ⟨g, rest, hg, htext, hsplit⟩ := hlast.exists_split
  refine ⟨rest, hsplit, fun front back heq hfront => ?_⟩
  rw [heq, ← List.append_assoc] at htext
  rcases eq_or_ne front [] with rfl | hne
  · -- behind what is read a line ends first
    exact absurd (lineEnds_of_split hsplit '#' (by rw [heq]; rfl)) (by decide)
  · exact hnone htext (by simp [hne]) ((lineBegins_append_iff hne g.text).2 hfront)

/-! ## The generated section -/

/-- The entries of a list of sources are one line each. -/
theorem hashFree_entries {sources : List ListedSource}
    (h : ∀ s ∈ sources, '\n' ∉ (entryLine s).toList) :
    HashFree (String.join (sources.map fun s => entryLine s ++ "\n")).toList := by
  induction sources with
  | nil => exact hashFree_of_not_mem (by decide)
  | cons s rest ih =>
    have hrest := ih fun s' hs' => h s' (List.mem_cons_of_mem s hs')
    have hhead : (entryLine s).toList.head? ≠ some '#' := by
      simp [entryLine]
    have hcons : (String.join ((s :: rest).map fun s => entryLine s ++ "\n")).toList
        = (entryLine s).toList
          ++ '\n' :: (String.join (rest.map fun s => entryLine s ++ "\n")).toList := by
      simp [String.toList_join]
    rw [hcons]
    exact hrest.line (h s List.mem_cons_self) hhead

/-- An entry is one line when its URL and its description have no line feeds. -/
theorem newline_not_mem_entryLine {s : ListedSource} (hurl : '\n' ∉ s.url.toList)
    (hdesc : ∀ d ∈ s.description, '\n' ∉ d.toList) : '\n' ∉ (entryLine s).toList := by
  have hdigits : '\n' ∉ Nat.toDigits 10 s.id := not_mem_indexText (by decide) s.id
  rw [entryLine]
  cases hd : s.description with
  | none => simp [hdigits, hurl]
  | some d => simp [hdigits, hurl, hdesc d hd]

/-- The sources of a consolidated context are one line each. -/
theorem newline_not_mem_of_mem_consolidate {policy : PrunePolicy} {maxSources : Nat}
    {brief : String} {notes : List String} {subject : SubjectType} {s : ListedSource}
    (h : s ∈ (consolidate policy maxSources brief notes subject).sources) :
    '\n' ∉ (entryLine s).toList := by
  obtain ⟨n, hn, e, he, hurl, hdesc⟩ := Consolidation.exists_of_mem_listed h
  obtain ⟨note, -, rfl⟩ := List.mem_map.1 hn
  obtain ⟨hurl', hdesc'⟩ := Note.newline_not_mem_of_mem_sources he
  exact newline_not_mem_entryLine (hurl ▸ hurl') (hdesc ▸ hdesc')

/-- A generated section is a heading over sources, and no line behind it begins with a hash
sign. -/
theorem exists_section_hashFree (policy : PrunePolicy) (maxSources : Nat) (brief : String)
    (notes : List String) (subject : SubjectType) :
    ∃ h : SourcesHeading, ∃ after, h.WellFormed ∧ LineEnds after ∧ HashFree after ∧
      (sourcesSection (consolidate policy maxSources brief notes subject)).toList
        = h.text ++ after := by
  set c := consolidate policy maxSources brief notes subject
  have hlines : ∀ s ∈ c.sources, '\n' ∉ (entryLine s).toList := fun s hs =>
    newline_not_mem_of_mem_consolidate hs
  obtain ⟨body, hbody, heq⟩ : ∃ body, HashFree body ∧
      (sourcesSection c).toList = "## Sources\n\n".toList ++ body := by
    unfold sourcesSection
    split
    · exact ⟨"No sources were collected during research.\n".toList,
        hashFree_of_not_mem (by decide +kernel), by decide +kernel⟩
    · refine ⟨_, hashFree_entries hlines, ?_⟩
      rw [sourcesSection_eq, String.toList_append]
  have hends : LineEnds ('\n' :: '\n' :: body) := fun d hd => (Option.some.inj hd).symm
  have hblank : HashFree ('\n' :: '\n' :: body) :=
    HashFree.line (l := []) (HashFree.line (l := []) hbody (by simp) (by simp)) (by simp) (by simp)
  have hheading : SourcesHeading.WellFormed ⟨2, [' '], "Sources".toList, [], []⟩ :=
    SourcesHeading.wellFormed_plain (by omega)
  refine ⟨_, _, hheading, hends, hblank, ?_⟩
  rw [heq]
  rfl

/-! ## What is left of a report -/

/-- There is nothing to be trimmed at the end of a report without its sources. -/
theorem trimEnd_withoutSources (report : List Char) :
    trimEnd (withoutSources report) = withoutSources report := by
  unfold withoutSources
  split
  · exact trimEnd_trimEnd report
  · next before after hsplit =>
    simp only
    split
    · rw [List.append_nil]
      exact trimEnd_trimEnd before
    · next hne =>
      have htail := endsInText_trim hne
      have hblank : EndsInText ('\n' :: '\n' :: trim (fromSection true after)) :=
        htail.append_left ['\n', '\n']
      exact trimEnd_eq_self (hblank.append_left _)

section

variable (report : String) (policy : PrunePolicy) (maxSources : Nat) (brief : String)
  (notes : List String) (subject : SubjectType)

/-- A generated section stands as it is behind what is left of a report. -/
theorem replaceSources_consolidate :
    let generated := sourcesSection (consolidate policy maxSources brief notes subject)
    replaceSources report generated
      = String.ofList (withoutSources report.toList) ++ "\n\n" ++ generated := by
  intro generated
  rw [replaceSources_sourcesSection, closing_consolidate, ← String.append_assoc]

/-- A report into which a generated section was put is without its sources what it was before. -/
theorem withoutSources_replaceSources :
    let generated := sourcesSection (consolidate policy maxSources brief notes subject)
    withoutSources (replaceSources report generated).toList = withoutSources report.toList := by
  intro generated
  set kept := withoutSources report.toList with hkept
  obtain ⟨h, after, hw, hafter, hfree, heq⟩ :=
    exists_section_hashFree policy maxSources brief notes subject
  have hreport : (replaceSources report generated).toList
      = (kept ++ ['\n', '\n']) ++ (h.text ++ after) := by
    rw [replaceSources_consolidate]
    simp only [String.toList_append, String.toList_ofList, ← hkept, heq]
    rfl
  have hline : LineBegins (kept ++ ['\n', '\n']) := by
    have hconcat : kept ++ ['\n', '\n'] = (kept ++ ['\n']) ++ ['\n'] := by simp
    rw [hconcat]
    exact lineBegins_concat _
  -- the generated section is the last over sources, and nothing of the report is behind it
  obtain ⟨rest, hsplit, hrest⟩ := exists_split_of_hashFree hw hline hafter hfree
  have hblank : ∀ c ∈ ['\n', '\n'], isBlank c = true := List.all_eq_true.1 (by decide)
  have hnothing : trim (fromSection true rest) = [] := by
    rw [hrest.fromSection]
    rfl
  calc withoutSources (replaceSources report generated).toList
      = trimEnd (kept ++ ['\n', '\n']) ++ [] := by
        rw [hreport, withoutSources, hsplit]
        simp only [hnothing, if_pos]
    _ = trimEnd kept := by rw [List.append_nil, trimEnd_append_blanks hblank]
    _ = kept := trimEnd_withoutSources report.toList

end

/-- Of two sections that are put into a report one after the other the second one counts, when the
first was generated from a consolidated context; in particular, to put the same one there twice
changes nothing. What was generated stands as it is behind what is left of the report. -/
theorem replaceSources_replaceSources (report : String) (policy : PrunePolicy) (maxSources : Nat)
    (brief : String) (notes : List String) (subject : SubjectType) :
    let generated := sourcesSection (consolidate policy maxSources brief notes subject)
    (∀ sources,
      replaceSources (replaceSources report generated) sources = replaceSources report sources) ∧
    replaceSources report generated
      = String.ofList (withoutSources report.toList) ++ "\n\n" ++ generated := by
  intro generated
  have hkept : withoutSources (replaceSources report generated).toList
      = withoutSources report.toList :=
    withoutSources_replaceSources report policy maxSources brief notes subject
  constructor
  · intro sources
    rw [replaceSources, hkept]
    rfl
  · exact replaceSources_consolidate report policy maxSources brief notes subject

end CitedReport.Synthesis
