import CitedReport.Proofs.Synthesis.Headings

/-!
# What stands behind the sources of a report

When the last section of sources is taken out of a report, the sections behind it are kept. A
section is one there when its heading has one or two hash signs, and then all from its heading to
the end of the report is kept, however many sections that are (`later_sections_kept`). A heading
with three hash signs begins no section, not even behind sources whose heading has as many: what
stands behind it is lost with the sources (`not_kept_subsection`).
-/

namespace CitedReport.Synthesis

open Chars

/-! ## The next section -/

/-- A text begins with a heading line: so many hash signs, and behind them blanks and text on the
same line. -/
def HeadingLine (level : Nat) (cs : List Char) : Prop :=
  ∃ gap c rest, cs = List.replicate level '#' ++ (gap ++ c :: rest) ∧ gap ≠ [] ∧
    (∀ b ∈ gap, isBlank b = true ∧ b ≠ '\n') ∧ isBlank c = false

/-- One space between the signs and the text makes a heading line. -/
theorem headingLine_space (level : Nat) {c : Char} (hc : isBlank c = false) (rest : List Char) :
    HeadingLine level (List.replicate level '#' ++ ' ' :: c :: rest) :=
  ⟨[' '], c, rest, rfl, List.cons_ne_nil _ _, List.forall_mem_singleton.2 (by decide), hc⟩

/-- A heading line begins with a hash sign. -/
theorem HeadingLine.exists_cons {level : Nat} {cs : List Char} (h : HeadingLine level cs)
    (hlevel : 1 ≤ level) : ∃ rest, cs = '#' :: rest := by
  obtain ⟨gap, c, rest, rfl, -⟩ := h
  obtain ⟨n, rfl⟩ : ∃ n, level = n + 1 := ⟨level - 1, by omega⟩
  exact ⟨_, by rw [List.replicate_succ, List.cons_append]⟩

/-- A heading line of one or two hash signs begins a section. -/
theorem HeadingLine.beginsSection {level : Nat} {cs : List Char} (h : HeadingLine level cs)
    (hlevel : 1 ≤ level ∧ level ≤ 2) : beginsSection cs = true := by
  obtain ⟨gap, c, rest, rfl, hne, hgap, hc⟩ := h
  obtain ⟨b, gap, rfl⟩ := List.exists_cons_of_ne_nil hne
  have hb := (hgap b List.mem_cons_self).1
  have hsigns : (List.replicate level '#' ++ (b :: gap ++ c :: rest)).takeWhile (· == '#')
      = List.replicate level '#' := by
    refine takeWhile_append_stop (fun d hd => by simp [List.eq_of_mem_replicate hd]) fun d hd => ?_
    obtain rfl := Option.some.inj hd
    rw [beq_eq_false_iff_ne]
    rintro rfl
    exact absurd hb (by decide)
  have htext : Plan.blankThenText (b :: gap ++ c :: rest) = true := by
    have hall : allBlank (b :: gap ++ c :: rest) = false :=
      List.all_eq_false.2 ⟨c, by simp, by simp [hc]⟩
    rw [List.cons_append] at hall ⊢
    rw [Plan.blankThenText, hb, hall]
    rfl
  unfold Synthesis.beginsSection
  simp only [hsigns, List.length_replicate, List.drop_left' List.length_replicate, htext]
  simp [hlevel]

/-- The text from the next section on reaches back at least to each later one. -/
theorem exists_fromSection_eq {atStart : Bool} {front rest : List Char}
    (hrest : beginsSection rest = true) (hstart : startsLine atStart front = true) :
    ∃ skipped kept, front = skipped ++ kept ∧
      fromSection atStart (front ++ rest) = kept ++ rest := by
  induction front generalizing atStart with
  | nil =>
    cases rest with
    | nil => exact absurd hrest (by decide)
    | cons c rest =>
      rw [startsLine_nil] at hstart
      rw [List.nil_append, fromSection, hstart, hrest]
      exact ⟨[], [], rfl, rfl⟩
  | cons c front ih =>
    rw [startsLine_cons] at hstart
    rw [List.cons_append, fromSection]
    split
    · exact ⟨[], c :: front, rfl, rfl⟩
    · obtain ⟨skipped, kept, rfl, heq⟩ := ih hstart
      exact ⟨c :: skipped, kept, rfl, heq⟩

/-- Whatever section stands behind the last sources stays when these are taken out, and still begins
a line. -/
theorem exists_withoutSources_eq {report before middle rest : List Char} {c : Char}
    (hsplit : splitAtSources? true report = some (before, middle ++ c :: rest))
    (hmiddle : LineBegins middle) (hc : isBlank c = false)
    (hrest : beginsSection (c :: rest) = true) :
    ∃ between, LineBegins between ∧
      withoutSources report
        = trimEnd before ++ '\n' :: '\n' :: (between ++ trimEnd (c :: rest)) := by
  obtain ⟨skipped, kept, rfl, hsection⟩ :=
    exists_fromSection_eq hrest (startsLine_true_iff.2 hmiddle)
  have htail : trim (kept ++ c :: rest) = trimStart kept ++ trimEnd (c :: rest) := by
    rw [trim, trimStart_append_cons hc, trimEnd_append_cons hc, trimEnd_cons hc]
  refine ⟨trimStart kept, ?_, ?_⟩
  · have hkept : kept.takeWhile isBlank ++ trimStart kept = kept := List.takeWhile_append_dropWhile
    exact LineBegins.of_append (hkept.symm ▸ hmiddle.of_append)
  · unfold withoutSources
    rw [hsplit]
    simp only [hsection, htail]
    rw [if_neg (by rw [trimEnd_cons hc]; simp)]

/-! ## The sections that are kept -/

/-- Everything from a later heading of one or two hash signs to the end of the report is kept as it
is, but for blanks at the end. It stands behind all that came before the sources, and the generated
section follows. -/
theorem later_sections_kept {report sources : String} {before skipped rest : List Char}
    {h : SourcesHeading} {level : Nat}
    (hlast : LastHeading report.toList before h (skipped ++ rest)) (hskipped : LineBegins skipped)
    (hrest : HeadingLine level rest) (hlevel : 1 ≤ level ∧ level ≤ 2) :
    ∃ between, (replaceSources report sources).toList
      = trimEnd before ++ (between ++ (trim rest ++
          ("\n\n" ++ Text.trimEnd sources ++ "\n").toList)) := by
  have hsection := hrest.beginsSection hlevel
  obtain ⟨rest, rfl⟩ := hrest.exists_cons hlevel.1
  obtain ⟨g, back, hg, htext, hsplit⟩ := hlast.exists_split
  -- the line behind the heading ends before the section begins
  have hne : skipped ≠ [] := by
    rintro rfl
    obtain ⟨-, after, hafter, hends⟩ := hlast.heads
    rw [← List.append_cancel_left hafter] at hends
    exact absurd (hends '#' rfl) (by decide)
  have hfront : LineBegins (h.text ++ skipped) := (lineBegins_append_iff hne _).2 hskipped
  rw [← List.append_assoc] at htext
  obtain ⟨middle, hmiddle, rfl⟩ :=
    SourcesHeading.exists_append_of_hash hg htext.symm (by simp [hne]) hfront
  have hline : LineBegins middle := LineBegins.of_append (hmiddle ▸ hfront)
  obtain ⟨between, -, hkept⟩ := exists_withoutSources_eq hsplit hline (by decide) hsection
  refine ⟨'\n' :: '\n' :: between, ?_⟩
  rw [replaceSources]
  simp only [String.toList_append, String.toList_ofList, hkept, trim_cons (c := '#') (by decide)]
  simp only [List.append_assoc, List.cons_append]

/-! ## An appendix -/

/-- What a report says in front of its sources. -/
def anvils : String := "# Acme\nAcme makes anvils [1].\n\n"

/-- An appendix whose heading has so many hash signs. -/
def appendix (level : Nat) : String :=
  String.ofList (List.replicate level '#') ++ " Appendix\nextra"

/-- A report that has such an appendix behind its sources, under headings of the same level. -/
def appendixReport (level : Nat) : String :=
  anvils ++ String.ofList (List.replicate level '#') ++ " Sources" ++
    ("\n1. made up\n\n" ++ appendix level)

/-- The heading of the sources is the last one of the report. -/
theorem lastHeading_appendixReport {level : Nat} (hlevel : level = 2 ∨ level = 3) :
    LastHeading (appendixReport level).toList anvils.toList ⟨level, [' '], "Sources".toList, [], []⟩
      ("\n1. made up\n\n".toList ++ (appendix level).toList) := by
  have hends : Citation.LineEnds ("\n1. made up\n\n".toList ++ (appendix level).toList) := by
    intro c hc
    exact (Option.some.inj hc).symm
  have hw : SourcesHeading.WellFormed ⟨level, [' '], "Sources".toList, [], []⟩ :=
    SourcesHeading.wellFormed_plain (by omega)
  have hsplit : splitAtSources? true (appendixReport level).toList
      = some (anvils.toList, "\n1. made up\n\n".toList ++ (appendix level).toList) := by
    rcases hlevel with rfl | rfl
    · decide +kernel
    · decide +kernel
  refine lastHeading_of_split hsplit hw ?_ hends
  rcases hlevel with rfl | rfl
  · decide +kernel
  · decide +kernel

/-- The appendix begins with a heading line. -/
theorem headingLine_appendix (level : Nat) : HeadingLine level (appendix level).toList := by
  have happendix : (appendix level).toList
      = List.replicate level '#' ++ ' ' :: 'A' :: "ppendix\nextra".toList := by simp [appendix]
  rw [happendix]
  exact headingLine_space level (by decide) _

/-- An appendix behind the sources is kept. -/
theorem later_sections_kept_appendix :
    LastHeading (appendixReport 2).toList anvils.toList ⟨2, [' '], "Sources".toList, [], []⟩
        ("\n1. made up\n\n".toList ++ (appendix 2).toList) ∧
      LineBegins "\n1. made up\n\n".toList ∧ HeadingLine 2 (appendix 2).toList ∧
      (1 ≤ 2 ∧ 2 ≤ 2) ∧
      ∃ between, (replaceSources (appendixReport 2) "## Sources\n").toList
        = trimEnd anvils.toList ++ (between ++ (trim (appendix 2).toList ++
            ("\n\n" ++ Text.trimEnd "## Sources\n" ++ "\n").toList)) :=
  have hlast := lastHeading_appendixReport (.inl rfl)
  have hline : LineBegins "\n1. made up\n\n".toList := lineBegins_concat "\n1. made up\n".toList
  have hrest := headingLine_appendix 2
  ⟨hlast, hline, hrest, by decide, later_sections_kept hlast hline hrest (by decide)⟩

/-- An appendix is lost whose heading has three hash signs, like that of the sources in front. -/
theorem not_kept_subsection :
    LastHeading (appendixReport 3).toList anvils.toList ⟨3, [' '], "Sources".toList, [], []⟩
        ("\n1. made up\n\n".toList ++ (appendix 3).toList) ∧
      LineBegins "\n1. made up\n\n".toList ∧ HeadingLine 3 (appendix 3).toList ∧ 3 ≤ 3 ∧
      ¬ trim (appendix 3).toList <:+: (replaceSources (appendixReport 3) "## Sources\n").toList :=
  ⟨lastHeading_appendixReport (.inr rfl), lineBegins_concat "\n1. made up\n".toList,
    headingLine_appendix 3, le_rfl, by decide +kernel⟩

end CitedReport.Synthesis
